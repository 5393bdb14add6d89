import ModuleRegistry.Proofs.Errors
import ModuleRegistry.Proofs.Identifiers
import ModuleRegistry.Proofs.Provenance

/-!
# The condition of a request

A hub tells a change from a creation by one header: a request with `If-Match: *` is carried out only if
what it names exists.  Whether a request carries the header is up to a flag that passes through every
layer, from the operation to the headers of the request.

At the bottom stands the list of header keys (`Client.keys_headers`), from which each header is there or
not as one of two questions is answered: is there a body, and is there a condition.  At the top,
`Session.Step.conditional?` says of each kind of step what it asks for, and every request that a step
sends is composed so (`Session.Sends.exists_compose`).

Main statement: `Session.conditional_exactly_when_asked`.
-/

namespace ModuleRegistry

open Text (ascii)

/-! ## Headers -/

namespace Client

/-- The keys of the headers, in their order. -/
lemma keys_headers (body : Text) (conditional : Bool) :
    (headers body conditional).keys =
      [ascii "Accept"] ++ (if body = [] then [] else [ascii "Content-Type"]) ++
        (if conditional then [ascii "If-Match"] else []) ++ [ascii "User-Agent"] := by
  cases body with
  | nil => cases conditional <;> rfl
  | cons b r => cases conditional <;> rfl

/-- A condition is one header more. -/
lemma headers_true (body : Text) :
    headers body true = (headers body false).insert (ascii "If-Match") (ascii "*") := by
  rw [headers, headers, if_pos rfl, if_neg Bool.false_ne_true, List.append_nil]
  exact Table.ofList_append_singleton _ _

lemma get?_ifMatch_headers (body : Text) (conditional : Bool) :
    (headers body conditional).get? (ascii "If-Match") =
      if conditional then some (ascii "*") else none := by
  cases conditional with
  | true => rw [headers_true, Table.get?_insert, if_pos rfl, if_pos rfl]
  | false => cases body <;> rfl

/-- A body brings its content type and changes no other header. -/
lemma headers_cons (b : UInt8) (r : Text) (conditional : Bool) :
    headers (b :: r) conditional = (headers [] conditional).insert (ascii "Content-Type")
      (ascii "application/json; charset=utf-8") := by
  cases conditional <;> rfl

lemma get?_headers_of_ne {key : Text} (h : key ≠ ascii "Content-Type") (body : Text)
    (conditional : Bool) :
    (headers body conditional).get? key = (headers [] conditional).get? key := by
  cases body with
  | nil => rfl
  | cons b r => rw [headers_cons, Table.get?_insert, if_neg h]

lemma headers_congr {body body' : Text} (h : body' = [] ↔ body = []) (conditional : Bool) :
    headers body' conditional = headers body conditional := by
  cases body with
  | nil => rw [h.2 rfl]
  | cons b r =>
    cases body' with
    | nil => exact absurd (h.1 rfl) (List.cons_ne_nil b r)
    | cons b' r' => rw [headers_cons, headers_cons]

end Client

/-! ## Steps of a session -/

namespace Session

variable {s : Session} {step : Step} {format : DocumentFormat}

/-- Whether a step asks for the condition, of the steps that have a client or a device write requests.
A request of a client says so itself; of the operations of a device, an update and a deletion do. -/
def Step.conditional? : Step → Option Bool
  | request _ _ _ _ conditional _ _ => some conditional
  | handle _ _ _ _ conditional _ _ => some conditional
  | create .. => some false
  | update .. => some true
  | get .. => some false
  | list .. => some false
  | delete .. => some true
  | _ => none

/-- The steps that propose an identity to the hub, as the body of a request. -/
def Step.IsProposal : Step → Prop
  | create .. | update .. => True
  | _ => False

/-- A request that a client or a device writes has the condition that its step asks for, and a body only
if the step proposes an identity. -/
lemma Sends.exists_compose {q : Http.Request} (h : s.Sends format step q) {conditional : Bool}
    (hstep : step.conditional? = some conditional) :
    ∃ (c : Client) (method : Http.Method) (path : Text) (parameters : Table Text) (body : Text),
      q = c.compose method path parameters body conditional ∧
        (¬step.IsProposal → body = []) := by
  cases h with
  | exchange => cases hstep
  | request _ method path parameters =>
    cases hstep
    exact ⟨_, method, path, parameters, [], rfl, fun _ => rfl⟩
  | handle _ method path parameters =>
    cases hstep
    exact ⟨_, method, path, parameters, [], rfl, fun _ => rfl⟩
  | create =>
    cases hstep
    exact ⟨_, .put, _, ∅, _, rfl, fun h => absurd trivial h⟩
  | update =>
    cases hstep
    exact ⟨_, .put, _, ∅, _, rfl, fun h => absurd trivial h⟩
  | get =>
    cases hstep
    exact ⟨_, .get, _, ∅, [], rfl, fun _ => rfl⟩
  | list =>
    cases hstep
    exact ⟨_, .get, _, ∅, [], rfl, fun _ => rfl⟩
  | delete =>
    cases hstep
    exact ⟨_, .delete, _, ∅, [], rfl, fun _ => rfl⟩

/-- A step for a module whose identifier is blank sends nothing, also if there is no such device. -/
lemma sent_of_blank {turn : Turn} {i : Nat} {moduleId : Text} {authentication : Option AuthMechanism}
    (hblank : moduleId.OnlyBlanks) (hstep : turn.step ∈ Step.onModule i moduleId authentication) :
    (s.step format turn).1.sent = [] := by
  suffices (s.perform format (s.traffic turn.replies) turn.step).traffic.sent = [] from this
  cases hd : s.devices[i]? with
  | some d => rw [perform_onModule_of_blank hd (Text.isBlank_iff.2 hblank) hstep]; rfl
  | none =>
    simp only [Step.onModule, List.mem_cons, List.not_mem_nil, or_false] at hstep
    rcases hstep with h | h | h | h <;> rw [h, perform, withDevice, hd] <;> rfl

/-- **The conditional header is sent exactly when it is asked for, and changes nothing else.**

A client composes the same request with the condition as without it, but for the one header.  The keys
of the headers are given by the presence of a body and of the condition.  Another body changes the body
and, if one of the two is empty, the presence of the content type.

In a session, take any turn whose step has a client or a device write requests.  All that it sends
carries the condition if the step asks for it, and otherwise none of it does: a request of a client says
which, a deletion asks for it, a lookup and a list do not.  None of these has a body or a content type.
A creation or an update for a module without a name sends nothing. -/
theorem conditional_exactly_when_asked :
    (∀ (c : Client) (method : Http.Method) (path : Text) (parameters : Table Text) (body : Text),
      let request := c.compose method path parameters
      ascii "If-Match" ∉ (request body false).headers.keys ∧
      request body true =
        { request body false with
          headers := (request body false).headers.insert (ascii "If-Match") (ascii "*") } ∧
      ∀ conditional,
        (request body conditional).headers.keys =
          [ascii "Accept"] ++ (if body = [] then [] else [ascii "Content-Type"]) ++
            (if conditional then [ascii "If-Match"] else []) ++ [ascii "User-Agent"] ∧
        ∀ body',
          request body' conditional =
            { request body conditional with
              body := body', headers := (request body' conditional).headers } ∧
          (∀ key ≠ ascii "Content-Type",
            (request body' conditional).headers.get? key =
              (request body conditional).headers.get? key) ∧
          ((body' = [] ↔ body = []) →
            (request body' conditional).headers = (request body conditional).headers)) ∧
    ∀ (s : Session) (format : DocumentFormat) (turns : List Turn) (i : Nat) (turn : Turn)
      (report : Report), turns[i]? = some turn → (s.run format turns)[i]? = some report →
      (∀ q ∈ report.sent,
        (∀ conditional, turn.step.conditional? = some conditional →
          q.headers.get? (ascii "If-Match") = if conditional then some (ascii "*") else none) ∧
        (turn.step.conditional? ≠ none → ¬turn.step.IsProposal →
          q.body = [] ∧ ascii "Content-Type" ∉ q.headers.keys)) ∧
      ∀ device moduleId authentication, Text.OnlyBlanks moduleId →
        turn.step = .create device moduleId authentication ∨
          turn.step = .update device moduleId authentication →
        report.sent = [] := by
  constructor
  · intro c method path parameters body request
    have hkeys (conditional : Bool) := Client.keys_headers body conditional
    refine ⟨?_, ?_, fun conditional => ⟨hkeys conditional, fun body' => ⟨rfl, ?_, ?_⟩⟩⟩
    · show ascii "If-Match" ∉ (Client.headers body false).keys
      rw [hkeys]
      split <;> decide
    · show Http.Request.mk _ _ (Client.headers body true) _ _ = _
      rw [Client.headers_true]
      rfl
    · intro key hkey
      have hbodyless (body : Text) := Client.get?_headers_of_ne hkey body conditional
      exact (hbodyless body').trans (hbodyless body).symm
    · intro h
      exact Client.headers_congr h conditional
  · intro s format turns i turn report hturn hreport
    obtain rfl : ((s.after format (turns.take i)).step format turn).1 = report := by
      rw [getElem?_run, hturn, Option.map_some] at hreport
      exact Option.some.inj hreport
    refine ⟨fun q hq => ⟨fun conditional hstep => ?_, fun hasked hstep => ?_⟩,
      fun device moduleId authentication hblank hstep => ?_⟩
    · obtain ⟨c, method, path, parameters, body, rfl, -⟩ :=
        (sends_of_mem_sent hq).exists_compose hstep
      exact Client.get?_ifMatch_headers body conditional
    · obtain ⟨conditional, hconditional⟩ := Option.ne_none_iff_exists'.1 hasked
      obtain ⟨c, method, path, parameters, body, rfl, hbody⟩ :=
        (sends_of_mem_sent hq).exists_compose hconditional
      obtain rfl := hbody hstep
      refine ⟨rfl, ?_⟩
      show ascii "Content-Type" ∉ (Client.headers [] conditional).keys
      rw [Client.keys_headers]
      cases conditional <;> decide
    · have hmem : turn.step ∈ Step.onModule device moduleId authentication := by
        rcases hstep with h | h <;> simp [h, Step.onModule]
      exact sent_of_blank hblank hmem

/-- A deletion whose refusal is answered by another attempt, a list, a deletion by a device, and an
update for a module without a name; and the headers of a request that is given a body. -/
theorem conditional_exactly_when_asked_retry :
    let c : Client := ⟨ascii "v", ⟨.https, ascii "hub"⟩, 100⟩
    let s : Session := { clients := [c], devices := [⟨c, ascii "edge"⟩] }
    let turns : List Turn :=
      [⟨.request 0 .delete (ascii "/a") ∅ true .nothing (some .retry), [{ status := 500 }]⟩,
        ⟨.list 0, []⟩, ⟨.delete 0 (ascii "m"), []⟩, ⟨.update 0 (ascii " ") none, []⟩]
    let report (i : Nat) := (s.run .none turns)[i]?.map (·.sent)
    let request (body : Text) := c.compose .put (ascii "/a") ∅ body true
    (∃ q q', report 0 = some [q, q'] ∧ q'.headers.get? (ascii "If-Match") = some (ascii "*")) ∧
    (∃ q, report 1 = some [q] ∧ q.headers.get? (ascii "If-Match") = none) ∧
    (∃ q, report 2 = some [q] ∧ q.headers.get? (ascii "If-Match") = some (ascii "*") ∧
      ascii "Content-Type" ∉ q.headers.keys) ∧
    report 3 = some [] ∧
    (request (ascii "two")).headers = (request (ascii "one")).headers := by
  intro c s turns report request
  obtain ⟨hcompose, hsession⟩ := conditional_exactly_when_asked
  have hturn (i : Nat) {turn : Turn} {r : Report} := hsession s .none turns i turn r
  refine ⟨⟨_, _, rfl, ?_⟩, ⟨_, rfl, ?_⟩, ⟨_, rfl, ?_⟩, ?_, ?_⟩
  · exact ((hturn 0 rfl rfl).1 _ (.tail _ (.head _))).1 true rfl
  · exact ((hturn 1 rfl rfl).1 _ (.head _)).1 false rfl
  · obtain ⟨hcondition, hbody⟩ := (hturn 2 rfl rfl).1 _ (.head _)
    exact ⟨hcondition true rfl, (hbody (by simp [Step.conditional?]) id).2⟩
  · have hsent := (hturn 3 rfl rfl).2 0 (ascii " ") none (Text.isBlank_iff.1 (by decide)) (.inr rfl)
    exact congrArg some hsent
  · have hkind : ascii "two" = [] ↔ ascii "one" = [] := by decide
    exact ((((hcompose c .put (ascii "/a") ∅ (ascii "one")).2.2 true).2 (ascii "two")).2.2) hkind

end Session

end ModuleRegistry
