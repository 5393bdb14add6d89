import ModuleRegistry.Proofs.StructuredLogs

/-!
# The operations of a device that send no document

Looking up a module, listing the modules and deleting a module have one anatomy: a method, a path, a
condition, and a handler that fetches once and judges what came back.  `Operation` names the three,
`Operation.request` is the request that they send and `Operation.call` the call that they are.

The judgement is spread over three layers: the exchange turns a reply into a body or an error, the
decoder turns a blank body into no document, and the handler turns no document and some errors into
errors of its own.  `Operation.verdict` is what all of this amounts to, as one rule on the reply:

1. a transport error is reported as it is, whatever status and body come with it;
2. a status of 200 to 299 is a success for a deletion, and for the others an empty response;
3. the status 404 of a lookup says that the module is missing;
4. any other status is a refusal by the hub, the 404 of a listing or a deletion included.

The rule concerns replies without a document (`Operation.Wordless`), which is no restriction where no
layer looks at the body.  It gives errors whole; of a message only the part before its first NUL byte
is shown (`HubError.shown`).

An operation also logs what it does, and a structured log may be unable to take an entry.  The rule
then has no say: the operation ends with that failure, before the request or behind the reply.

Main statement: `call_obeys_verdict`, an operation sends its request once and ends as the rule says, as
far as the log takes what it is offered.
-/

namespace ModuleRegistry

open Text (ascii)

/-! ## Handlers that fetch once -/

lemma Handler.run_required {ρ : Type} (fetch : Call (Option ρ)) (t : Traffic) :
    Handler.required.run fetch t =
      (match (fetch t).1 with
        | .ok (some value) => .ok value
        | .ok none => .error (.hub .emptyResponse)
        | .error f => .error f, (fetch t).2) := by
  rw [Handler.required, Handler.run_fetch]
  rcases (fetch t).1 with f | _ | value <;> rfl

namespace Device

lemma run_lookup (moduleId : Text) (fetch : Call (Option Identity)) (t : Traffic) :
    (lookup moduleId).run fetch t =
      (match (fetch t).1 with
        | .ok (some identity) => .ok identity
        | .ok none => .error (.hub .emptyResponse)
        | .error f => .error (f.map (missing moduleId)), (fetch t).2) := by
  rw [lookup, Handler.run_fetch]
  rcases (fetch t).1 with f | _ | identity <;> rfl

lemma run_discard (fetch : Call (Option NoContent)) (t : Traffic) :
    discard.run fetch t =
      (match (fetch t).1 with
        | .ok _ => .ok ()
        | .error f => .error f, (fetch t).2) := by
  rw [discard, Handler.run_fetch]
  rcases (fetch t).1 with f | value <;> rfl

lemma onModule_of_present {α : Type} {moduleId : Text} (h : Text.isBlank moduleId = false)
    (call : Call α) : onModule moduleId call = call := by
  rw [onModule, HubError.requireArgument_present _ h]

/-- Only a refusal with status 404 is about a missing module. -/
lemma missing_refused (moduleId : Text) (status : Int) (remote : Option RemoteError) :
    missing moduleId (.refused status remote) =
      if status = 404 then .moduleNotFound moduleId (.refused status remote)
      else .refused status remote := by
  by_cases h : status = 404 <;> simp [missing, HubError.refused, h]

/-! ## Operations -/

/-- An operation on the modules of a device that sends no document. -/
inductive Operation where
  | get (moduleId : Text)
  | list
  | delete (moduleId : Text)
deriving DecidableEq

namespace Operation

/-- The module that an operation is about, if it is about a single one. -/
def moduleId? : Operation → Option Text
  | get moduleId => some moduleId
  | list => none
  | delete moduleId => some moduleId

/-- The module that the operation is about, if any, has an identifier. -/
def Named (op : Operation) : Prop := ∀ moduleId ∈ op.moduleId?, Text.isBlank moduleId = false

lemma named_of_moduleId? {op : Operation} {moduleId : Text} (h : op.moduleId? = some moduleId)
    (hid : Text.isBlank moduleId = false) : op.Named := by
  intro moduleId' h'
  obtain rfl : moduleId' = moduleId := Option.some.inj (h'.symm.trans h)
  exact hid

/-- The method of an operation's request. -/
def method : Operation → Http.Method
  | get _ => .get
  | list => .get
  | delete _ => .delete

/-- The path of an operation's request. -/
def path (d : Device) : Operation → Text
  | get moduleId => d.memberPath moduleId
  | list => d.collectionPath
  | delete moduleId => d.memberPath moduleId

/-- Whether an operation's request carries the condition that the module exists. -/
def isConditional : Operation → Bool
  | delete _ => true
  | _ => false

/-- The request that an operation sends. -/
def request (d : Device) (op : Operation) : Http.Request :=
  d.client.compose op.method (op.path d) ∅ [] op.isConditional

/-- The operation as a call, with the answers of a session. -/
def call (d : Device) (format : DocumentFormat) : Operation → Call Session.Answer
  | get moduleId => fun t =>
    ((d.get format moduleId t).1.map .identity, (d.get format moduleId t).2)
  | list => fun t => ((d.list format t).1.map .identities, (d.list format t).2)
  | delete moduleId => fun t =>
    ((d.delete format moduleId t).1.map fun _ => .absent, (d.delete format moduleId t).2)

/-- Nobody will look for a document in the reply: the transport failed, the body is blank, or it is
that of a successful deletion. -/
def Wordless (op : Operation) (r : Http.Reply) : Prop :=
  r.error = [] → Text.isBlank r.body = true ∨
    (∃ moduleId, op = delete moduleId) ∧ 200 ≤ r.status ∧ r.status ≤ 299

/-- How an operation ends on a reply without a document. -/
def verdict (op : Operation) (r : Http.Reply) : Except HubError Session.Answer :=
  let refused : HubError :=
    { kind := .hubService
      message := ascii "Hub returned status " ++ Text.ofInt r.status
      statusCode := r.status }
  if r.error ≠ [] then .error { kind := .transport, message := r.error }
  else if 200 ≤ r.status ∧ r.status ≤ 299 then
    match op with
    | delete _ => .ok .absent
    | _ =>
      .error { kind := .emptyResponse, message := ascii "Hub returned an empty response body" }
  else
    match op with
    | get moduleId =>
      if r.status = 404 then
        .error
          { kind := .moduleNotFound
            message := ascii "Module " ++ moduleId ++ ascii " not found"
            statusCode := 404 }
      else .error refused
    | _ => .error refused

/-! ### One exchange each -/

variable {op : Operation} (d : Device) (format : DocumentFormat) (t : Traffic)

/-- What the handler of an operation makes of an error. -/
def judge (e : HubError) : Operation → HubError
  | get moduleId => missing moduleId e
  | _ => e

/-- What an operation makes of the body, or the failure, that its exchange brings. -/
def settle (fetched : Except Call.Failure Text) : Operation → Except Call.Failure Session.Answer
  | get moduleId =>
    match fetched.bind fun body => (Decoder.document format.readIdentity body).mapError .hub with
    | .ok (some identity) => .ok (.identity identity)
    | .ok none => .error (.hub .emptyResponse)
    | .error f => .error (f.map (missing moduleId))
  | list =>
    match fetched.bind fun body => (Decoder.document format.readIdentities body).mapError .hub with
    | .ok (some identities) => .ok (.identities identities)
    | .ok none => .error (.hub .emptyResponse)
    | .error f => .error f
  | delete _ =>
    match fetched with
    | .ok _ => .ok .absent
    | .error f => .error f

/-- An operation is one exchange, of which it settles the outcome. -/
lemma call_apply (hop : op.Named) :
    op.call d format t =
      (op.settle format (Exchange.roundTrip format (op.request d) t).1,
        (Exchange.roundTrip format (op.request d) t).2) := by
  have hrequest : op.request d =
      d.client.compose op.method (op.path d) ∅ [] op.isConditional := rfl
  rw [hrequest]
  cases op with
  | get moduleId =>
    have hid : Text.isBlank moduleId = false := hop moduleId rfl
    simp only [call, Device.get, onModule_of_present hid, Client.askWith, run_lookup,
      Exchange.outcome_fetch, settle, method, path, isConditional]
    rcases Except.bind _ _ with f | _ | identity <;> rfl
  | list =>
    simp only [call, Device.list, Client.askWith, Handler.run_required, Exchange.outcome_fetch,
      settle, method, path, isConditional]
    rcases Except.bind _ _ with f | _ | identities <;> rfl
  | delete moduleId =>
    have hid : Text.isBlank moduleId = false := hop moduleId rfl
    simp only [call, Device.delete, onModule_of_present hid, Client.askWith, run_discard,
      Exchange.outcome_fetch, settle, method, path, isConditional]
    rcases (Exchange.roundTrip _ _ _).1 with f | body <;> rfl

lemma settle_hub (op : Operation) (e : HubError) :
    op.settle format (.error (.hub e)) = .error (.hub (op.judge e)) := by
  cases op <;> rfl

/-- That the log could not take an entry passes through an operation. -/
lemma settle_unlogged (op : Operation) (reason : Text) :
    op.settle format (.error (.unlogged reason)) = .error (.unlogged reason) := by
  cases op <;> rfl

lemma settle_ok {body : Text} (hb : Text.isBlank body = true ∨ ∃ moduleId, op = delete moduleId) :
    op.settle format (.ok body) =
      match op with
      | delete _ => .ok .absent
      | _ => .error (.hub .emptyResponse) := by
  cases op with
  | get moduleId =>
    have hblank : Text.isBlank body = true := by simpa using hb
    simp only [settle, Except.bind, Decoder.document_blank _ hblank, Call.Failure.mapError_ok]
  | list =>
    have hblank : Text.isBlank body = true := by simpa using hb
    simp only [settle, Except.bind, Decoder.document_blank _ hblank, Call.Failure.mapError_ok]
  | delete moduleId => rfl

/-! ### The verdict -/

lemma judge_transport (op : Operation) (reason : Text) :
    op.judge (.transport reason) = .transport reason := by
  cases op <;> rfl

/-- **The verdict is what an operation makes of a reply**, through all three layers. -/
lemma settle_outcome {r : Http.Reply} (hr : op.Wordless r) :
    op.settle format ((Exchange.outcome format r).mapError .hub) =
      (op.verdict r).mapError .hub := by
  by_cases herror : r.error = []
  · by_cases hstatus : 200 ≤ r.status ∧ r.status ≤ 299
    · have hbody : Text.isBlank r.body = true ∨ ∃ moduleId, op = delete moduleId :=
        (hr herror).imp_right And.left
      rw [Exchange.outcome_of_success format herror hstatus, Call.Failure.mapError_ok,
        settle_ok format hbody]
      cases op <;> simp [verdict, herror, hstatus, HubError.emptyResponse]
    · -- outside 200 to 299 even a deletion needs a blank body
      have hblank : Text.isBlank r.body = true :=
        (hr herror).resolve_right fun h => hstatus h.2
      rw [Exchange.outcome_of_refusal format herror hstatus,
        Exchange.refusal_of_blank format hblank, Call.Failure.mapError_error, settle_hub]
      cases op with
      | get moduleId =>
        rw [judge, missing_refused]
        by_cases h404 : r.status = 404
        · simp [verdict, herror, h404, HubError.moduleNotFound, HubError.refused]
        · simp [verdict, herror, hstatus, h404, HubError.refused]
      | list => simp [verdict, judge, herror, hstatus, HubError.refused]
      | delete moduleId => simp [verdict, judge, herror, hstatus, HubError.refused]
  · rw [Exchange.outcome_of_error format herror, Call.Failure.mapError_error, settle_hub,
      judge_transport]
    simp [verdict, herror, HubError.transport]

/-! ### What the log takes -/

lemma isUtf8_url_request (op : Operation) (h : Text.isUtf8 d.client.baseUrl.text = true) :
    Text.isUtf8 (op.request d).url = true := by
  refine d.client.isUtf8_url ∅ h ?_
  cases op with
  | get moduleId => exact d.isUtf8_memberPath moduleId
  | list => exact d.isUtf8_collectionPath
  | delete moduleId => exact d.isUtf8_memberPath moduleId

variable {d format t}

/-- A log that holds the base address lets an operation send its request. -/
lemma opens_of_holds {texts : List Text} (h : t.Holds format texts)
    (hbase : d.client.baseUrl.text ∈ texts) : t.Opens format (op.request d) :=
  Traffic.opens_of_holds h fun htexts => isUtf8_url_request d op (htexts _ hbase)

lemma closes_of_holds (h : t.Holds format [d.client.baseUrl.text, t.nextReply.error])
    (hr : op.Wordless t.nextReply) : t.Closes format (op.request d) := by
  refine Traffic.closes_of_holds h
    (fun htexts => isUtf8_url_request d op (htexts _ List.mem_cons_self)) (by simp) ?_
  intro herror hstatus
  have hblank : Text.isBlank t.nextReply.body = true :=
    (hr herror).resolve_right fun h => hstatus h.2
  rw [Exchange.refusal_of_blank format hblank]
  exact Exchange.isUtf8_shown_refused _

lemma sent_call (hop : op.Named) :
    (op.call d format t).2.sent =
      t.sent ++ if t.Opens format (op.request d) then [op.request d] else [] := by
  rw [call_apply d format t hop]
  split
  · next h => exact Exchange.sent_roundTrip h
  · next h =>
    obtain ⟨reason, hreason⟩ := Option.ne_none_iff_exists'.1 h
    rw [Exchange.roundTrip_of_fault? hreason, List.append_nil]

/-- An operation whose exchange cannot begin fails with that and does nothing else. -/
lemma call_of_opening_fault? (hop : op.Named) {reason : Text}
    (h : t.fault? format (Exchange.openingEntry (op.request d)) = some reason) :
    op.call d format t = (.error (.unlogged reason), t) := by
  rw [call_apply d format t hop, Exchange.roundTrip_of_fault? h, settle_unlogged]

/-- An operation whose exchange cannot be closed fails with that, when its request has been sent,
answered and counted. -/
lemma call_of_closing_fault? (hop : op.Named) (hopens : t.Opens format (op.request d))
    {reason : Text}
    (h : t.fault? format (Exchange.closingEntry format (op.request d) t.nextReply) =
      some reason) :
    op.call d format t = (.error (.unlogged reason), Exchange.answered (op.request d) t) := by
  have hclosing : (Exchange.answered (op.request d) t).fault? format
      (Exchange.closingEntry format (op.request d) t.nextReply) = some reason := h
  rw [call_apply d format t hop, Exchange.roundTrip_of_opens hopens,
    Exchange.close_of_fault? hclosing, settle_unlogged]

/-- An operation whose exchange the log takes whole settles what the reply amounts to. -/
lemma call_of_closes (hop : op.Named) (hopens : t.Opens format (op.request d))
    (hcloses : t.Closes format (op.request d)) :
    op.call d format t =
      (op.settle format ((Exchange.outcome format t.nextReply).mapError .hub),
        (Exchange.answered (op.request d) t).note
          (Exchange.closingEntry format (op.request d) t.nextReply)) := by
  have hclosing : (Exchange.answered (op.request d) t).fault? format
      (Exchange.closingEntry format (op.request d) t.nextReply) = none := hcloses
  rw [call_apply d format t hop, Exchange.roundTrip_of_opens hopens,
    Exchange.close_of_fault?_eq_none hclosing]

end Operation

end Device

end ModuleRegistry
