import ModuleRegistry.Proofs.Operations

/-!
# The errors of the library

An error may come from a constructor, from an exchange, from a decoder or from an operation that puts
an error in the place of another, and on its way to the caller it passes through handlers.  Callers
branch on its fields, so whatever the way, the fields have to agree with each other and with what the
step did.

`HubError.Cause` lists what the library raises errors for, each with the circumstances: whether a
request was sent, which reply was read last, which operation was asked for.  It is the only place
where the eight causes are told apart.  Every call raises a cause (`Call.Raises`, `Effect.Raises`),
and `HubError.WellFormed`, what callers rely on, is read off the cause.

A caller's own handler may end with any error at all.  What the library raised in such a step are the
errors in which its fetches ended (`Handler.outcomes`), and a handler that only passes errors on
(`Handler.PassesOn`) ends with the last of these.

That a log could not take an entry is no error of the library, and a step that ends so has no fields to
agree with each other.  But it may end so only in place of an error: whoever sees one knows that the
log let the exchange begin (`Exchange.fetch_cases`).

Main statement: `Session.errors_well_formed`.
-/

namespace ModuleRegistry

open Text (ascii)

/-! ## Fields and causes -/

namespace HubError

/-- What callers may rely on when they branch on the fields of an error: of a step, of the requests
that it sent, and of the replies read by the time the error was raised. -/
structure WellFormed (e : HubError) (step : Session.Step) (sent : List Http.Request)
    (consumed : List Http.Reply) : Prop where
  argument_iff : e.argument ≠ [] ↔ e.kind = .argumentEmpty
  argument_mem : e.kind = .argumentEmpty →
    e.argument ∈ [ascii "api_version", ascii "device_id", ascii "module_id"]
  statusCode : e.statusCode ≠ 0 → e.kind = .hubService ∨ e.kind = .moduleNotFound
  hubService : e.kind = .hubService → ∃ r, consumed.getLast? = some r ∧
    e.statusCode = r.status ∧ ¬(200 ≤ r.status ∧ r.status ≤ 299)
  moduleNotFound : e.kind = .moduleNotFound →
    (∃ device moduleId, step = .get device moduleId) ∧ e.statusCode = 404
  remote : e.remote = none
  unsent : e.kind = .argumentEmpty ∨ e.kind = .invalidUrl → sent = []
  sent : e.kind = .transport ∨ e.kind = .hubService ∨ e.kind = .moduleNotFound ∨
    e.kind = .emptyResponse → sent ≠ []

/-- What the library raises an error for, in a step that sent some requests and had read some
replies, none of which explained anything. -/
inductive Cause (step : Session.Step) (sent : List Http.Request) (consumed : List Http.Reply) :
    HubError → Prop
  | emptyArgument {argument : Text}
      (hargument : argument ∈ [ascii "api_version", ascii "device_id", ascii "module_id"])
      (hsent : sent = []) : Cause step sent consumed (.emptyArgument argument)
  | invalidUrl (flaw : BaseUrl.Flaw) (raw : Text) (hsent : sent = []) :
      Cause step sent consumed (.invalidUrl flaw raw)
  | transport (reason : Text) (hsent : sent ≠ []) : Cause step sent consumed (.transport reason)
  | refused {r : Http.Reply} (hlast : consumed.getLast? = some r)
      (hstatus : ¬(200 ≤ r.status ∧ r.status ≤ 299)) (hsent : sent ≠ []) :
      Cause step sent consumed (.refused r.status none)
  | emptyResponse (hsent : sent ≠ []) : Cause step sent consumed .emptyResponse
  | moduleNotFound {device : Nat} {moduleId : Text} (hstep : step = .get device moduleId)
      (hsent : sent ≠ []) :
      Cause step sent consumed (.moduleNotFound moduleId (.refused 404 none))
  | unwritable (reason : Text) : Cause step sent consumed (.unwritable reason)
  | unreadable (reason : Text) : Cause step sent consumed (.unreadable reason)

variable {step : Session.Step} {sent : List Http.Request} {consumed : List Http.Reply}
  {e : HubError}

/-- **The fields of an error agree with its cause.** -/
lemma Cause.wellFormed (h : Cause step sent consumed e) : e.WellFormed step sent consumed := by
  cases h with
  | @emptyArgument argument hargument hsent =>
    have hne : argument ≠ [] := by
      rintro rfl
      revert hargument
      decide
    constructor <;> simp_all [HubError.emptyArgument]
  | invalidUrl flaw raw hsent => constructor <;> simp [HubError.invalidUrl, hsent]
  | transport reason hsent => constructor <;> simp [HubError.transport, hsent]
  | @refused r hlast hstatus hsent =>
    constructor
    case hubService => exact fun _ => ⟨r, hlast, rfl, hstatus⟩
    all_goals simp [HubError.refused, hsent]
  | emptyResponse hsent => constructor <;> simp [HubError.emptyResponse, hsent]
  | @moduleNotFound device moduleId hstep hsent =>
    constructor
    case moduleNotFound => exact fun _ => ⟨⟨device, moduleId, hstep⟩, rfl⟩
    all_goals simp [HubError.moduleNotFound, HubError.refused, hsent]
  | unwritable reason => constructor <;> simp [HubError.unwritable]
  | unreadable reason => constructor <;> simp [HubError.unreadable]

/-- A lookup replaces a refusal with status 404 and leaves every other cause as it is. -/
lemma Cause.missing {device : Nat} {moduleId : Text}
    (h : Cause (.get device moduleId) sent consumed e) :
    Cause (.get device moduleId) sent consumed (Device.missing moduleId e) := by
  by_cases hmissing : e.kind = .hubService ∧ e.statusCode = 404
  · have hsent : sent ≠ [] := h.wellFormed.sent (.inr (.inl hmissing.1))
    have hremote : e.remote = none := h.wellFormed.remote
    have hsame : Device.missing moduleId e = .moduleNotFound moduleId (.refused 404 none) := by
      rw [Device.missing, if_pos hmissing]
      simp [HubError.moduleNotFound, HubError.refused, hmissing.2, hremote]
    rw [hsame]
    exact .moduleNotFound rfl hsent
  · rwa [Device.missing, if_neg hmissing]

end HubError

open HubError (Cause)

/-! ## Exchanges -/

/-- A reply that explains nothing: if it is a refusal, its body is blank or no explanation can be read
from it. -/
def Http.Reply.Unexplained (format : DocumentFormat) (r : Http.Reply) : Prop :=
  r.error = [] → ¬(200 ≤ r.status ∧ r.status ≤ 299) →
    Text.isBlank r.body = true ∨ format.readRemoteError r.body = none

lemma Http.Reply.unexplained_absent (format : DocumentFormat) :
    Http.Reply.absent.Unexplained format := by
  intro herror
  exact absurd herror (by decide)

lemma Http.Reply.unexplained_of_mem_upcoming {format : DocumentFormat} {n : Nat}
    {script : List Http.Reply} (h : ∀ r ∈ script, r.Unexplained format) :
    ∀ r ∈ Http.Reply.upcoming script n, r.Unexplained format := by
  induction n generalizing script with
  | zero => simp
  | succ n ih =>
    intro r hr
    rw [upcoming_succ] at hr
    rcases List.mem_cons.mp hr with rfl | hr
    · cases script with
      | nil => exact unexplained_absent format
      | cons r script => exact h r List.mem_cons_self
    · exact ih (fun r hr => h r (List.mem_of_mem_tail hr)) r hr

/-- All that a decoder can fail with is that the body is unreadable. -/
def Decoder.OnlyUnreadable {ρ : Type} (decode : Decoder ρ) : Prop :=
  ∀ body e, decode body = .error e → ∃ reason, e = .unreadable reason

lemma Decoder.onlyUnreadable_ignore : Decoder.ignore.OnlyUnreadable := by
  intro body e h
  rw [ignore_apply] at h
  cases h

lemma Decoder.onlyUnreadable_document {ρ : Type} (read : Text → Except Text ρ) :
    (Decoder.document read).OnlyUnreadable := by
  intro body e h
  rw [document] at h
  split at h
  · cases h
  · split at h
    · cases h
    · rename_i reason _
      exact ⟨reason, (Except.error.inj h).symm⟩

lemma Session.Expected.onlyUnreadable_decoder (format : DocumentFormat) (expected : Expected) :
    (expected.decoder format).OnlyUnreadable := by
  cases expected with
  | nothing => exact Decoder.onlyUnreadable_ignore
  | identity => exact Decoder.onlyUnreadable_document _
  | identities => exact Decoder.onlyUnreadable_document _

section Exchange

variable {ρ : Type} {format : DocumentFormat} {step : Session.Step} {sent : List Http.Request}
  {consumed : List Http.Reply} {r : Http.Reply} {e : HubError}

lemma Exchange.refusal_of_unexplained (hr : r.Unexplained format) (herror : r.error = [])
    (hstatus : ¬(200 ≤ r.status ∧ r.status ≤ 299)) :
    refusal format r = .refused r.status none := by
  rcases hr herror hstatus with hblank | hread
  · exact refusal_of_blank format hblank
  · rw [refusal, hread, ite_self]

/-- An exchange raises what the reply read last amounts to. -/
lemma Exchange.cause_of_outcome (hr : r.Unexplained format) (h : outcome format r = .error e)
    (hlast : consumed.getLast? = some r) (hsent : sent ≠ []) : Cause step sent consumed e := by
  by_cases herror : r.error = []
  · by_cases hstatus : 200 ≤ r.status ∧ r.status ≤ 299
    · rw [outcome_of_success format herror hstatus] at h
      cases h
    · rw [outcome_of_refusal format herror hstatus,
        refusal_of_unexplained hr herror hstatus] at h
      cases h
      exact .refused hlast hstatus hsent
  · rw [outcome_of_error format herror] at h
    cases h
    exact .transport r.error hsent

lemma Exchange.cause_of_fetched {decode : Decoder ρ} (hdecode : decode.OnlyUnreadable)
    (hr : r.Unexplained format) (h : (outcome format r).bind decode = .error e)
    (hlast : consumed.getLast? = some r) (hsent : sent ≠ []) : Cause step sent consumed e := by
  cases houtcome : outcome format r with
  | error e' =>
    rw [houtcome] at h
    obtain rfl : e' = e := Except.error.inj h
    exact cause_of_outcome hr houtcome hlast hsent
  | ok body =>
    rw [houtcome] at h
    obtain ⟨reason, rfl⟩ := hdecode body e h
    exact .unreadable reason

end Exchange

/-! ## The library's own calls -/

/-- Whatever error a call of a step fails with has its cause in the requests that the call sends and the
replies that it reads. -/
def Call.Raises {α : Type} (format : DocumentFormat) (step : Session.Step) (c : Call α) : Prop :=
  ∀ t : Traffic, (∀ r ∈ t.pending, r.Unexplained format) → ∀ e, (c t).1 = .error (.hub e) →
    ∃ qs, t.OpensAll format qs ∧ (c t).2 = t.after format qs ∧
      Cause step qs (Http.Reply.upcoming t.pending qs.length) e

section Calls

variable {α ρ : Type} {format : DocumentFormat} {step : Session.Step}

lemma Call.raises_done {e : HubError} (h : Cause step [] [] e) :
    (Call.done (.error (.hub e)) : Call α).Raises format step := by
  intro t _ e' he
  obtain rfl : e = e' := Call.Failure.hub.inj (Except.error.inj he)
  exact ⟨[], Traffic.opensAll_nil, rfl, h⟩

/-- A call that exchanges one request has read one reply, to which the cause must be due. -/
lemma Call.raises_of_exchange {c : Call α} {q : Http.Request}
    (htraffic : ∀ t, (c t).2 = (Exchange.roundTrip format q t).2)
    (herror : ∀ t e, t.nextReply.Unexplained format → (c t).1 = .error (.hub e) →
      t.Opens format q ∧ Cause step [q] [t.nextReply] e) : c.Raises format step := by
  intro t ht e he
  have hnext : t.nextReply.Unexplained format :=
    Http.Reply.unexplained_of_mem_upcoming (n := 1) ht _ List.mem_cons_self
  obtain ⟨hopens, hcause⟩ := herror t e hnext he
  exact ⟨[q], Traffic.opensAll_replicate hopens 1, htraffic t, hcause⟩

variable {decode : Decoder ρ}

/-- A fetch ends as its reply and the decoder decide, unless an entry cannot be logged. -/
lemma Exchange.fetch_cases (format : DocumentFormat) (decode : Decoder ρ) (q : Http.Request)
    (t : Traffic) :
    (∃ reason, (fetch format decode q t).1 = .error (.unlogged reason)) ∨
      (t.Opens format q ∧ (fetch format decode q t).1 =
        ((outcome format t.nextReply).bind decode).mapError .hub) := by
  rw [outcome_fetch]
  rcases roundTrip_cases format q t with ⟨reason, h⟩ | ⟨hopens, -, h⟩
  · exact .inl ⟨reason, by rw [h]; rfl⟩
  · refine .inr ⟨hopens, ?_⟩
    rw [h]
    cases outcome format t.nextReply <;> rfl

/-- An error of a fetch is what the reply and the decoder amount to. -/
lemma Exchange.fetched_of_hub {q : Http.Request} {t : Traffic} {e : HubError}
    (h : (fetch format decode q t).1 = .error (.hub e)) :
    t.Opens format q ∧ (outcome format t.nextReply).bind decode = .error e := by
  rcases fetch_cases format decode q t with ⟨reason, h'⟩ | ⟨hopens, h'⟩
  · rw [h'] at h
    cases h
  · refine ⟨hopens, ?_⟩
    rw [h'] at h
    cases hout : (outcome format t.nextReply).bind decode with
    | ok value =>
      rw [hout] at h
      cases h
    | error e' =>
      rw [hout] at h
      rw [Call.Failure.hub.inj (Except.error.inj h)]

lemma Exchange.raises_roundTrip (q : Http.Request) :
    (Exchange.roundTrip format q).Raises format step := by
  refine Call.raises_of_exchange (fun _ => rfl) fun t e hr he => ?_
  rcases roundTrip_cases format q t with ⟨reason, h⟩ | ⟨hopens, -, h⟩
  · rw [h] at he
    cases he
  · refine ⟨hopens, cause_of_outcome hr ?_ rfl (List.cons_ne_nil q [])⟩
    rw [h] at he
    cases hout : outcome format t.nextReply with
    | ok body =>
      rw [hout] at he
      cases he
    | error e' =>
      rw [hout] at he
      rw [Call.Failure.hub.inj (Except.error.inj he)]

lemma Exchange.raises_fetch (hdecode : decode.OnlyUnreadable) (q : Http.Request) :
    (Exchange.fetch format decode q).Raises format step :=
  Call.raises_of_exchange (fun _ => rfl) fun _ _ hr he =>
    ⟨(fetched_of_hub he).1,
      cause_of_fetched hdecode hr (fetched_of_hub he).2 rfl (List.cons_ne_nil q [])⟩

/-- A handler that fetches once raises causes if all that it has against a document, or against there
being none, is that the response is empty, and if what it makes of a cause is one. -/
lemma Handler.raises_once {next : Except Call.Failure (Option ρ) → Handler ρ α}
    (change : HubError → HubError) (hdecode : decode.OnlyUnreadable) (q : Http.Request)
    (hok : ∀ value, ∃ outcome, next (.ok value) = .done outcome ∧
      ∀ e, outcome = .error (.hub e) → e = .emptyResponse)
    (herror : ∀ f, next (.error f) = .done (.error (f.map change)))
    (hcause : ∀ {sent consumed e}, Cause step sent consumed e →
      Cause step sent consumed (change e)) :
    ((Handler.fetch next).run (Exchange.fetch format decode q)).Raises format step := by
  have hrun : ∀ t, ∃ outcome, next (Exchange.fetch format decode q t).1 = .done outcome ∧
      (t.nextReply.Unexplained format → ∀ e, outcome = .error (.hub e) →
        t.Opens format q ∧ Cause step [q] [t.nextReply] e) := by
    intro t
    cases hfetch : (Exchange.fetch format decode q t).1 with
    | error f =>
      refine ⟨_, herror f, fun hr e he => ?_⟩
      cases f with
      | unlogged reason => cases he
      | hub e' =>
        obtain rfl : change e' = e := Call.Failure.hub.inj (Except.error.inj he)
        obtain ⟨hopens, hfetched⟩ := Exchange.fetched_of_hub hfetch
        exact ⟨hopens, hcause
          (Exchange.cause_of_fetched hdecode hr hfetched rfl (List.cons_ne_nil q []))⟩
    | ok value =>
      obtain ⟨outcome, hnext, hempty⟩ := hok value
      refine ⟨outcome, hnext, fun _ e he => ?_⟩
      rw [hempty e he]
      refine ⟨?_, .emptyResponse (List.cons_ne_nil q [])⟩
      rcases Exchange.fetch_cases format decode q t with ⟨reason, h⟩ | ⟨hopens, -⟩
      · rw [h] at hfetch
        cases hfetch
      · exact hopens
  refine Call.raises_of_exchange (q := q) (fun t => ?_) fun t e hr he => ?_
  · obtain ⟨outcome, hnext, -⟩ := hrun t
    rw [run_fetch, hnext, run_done, Exchange.traffic_fetch]
  · obtain ⟨outcome, hnext, houtcome⟩ := hrun t
    rw [run_fetch, hnext, run_done] at he
    exact houtcome hr e he

/-- A failure that is passed on is changed by nothing. -/
lemma Call.Failure.map_same (f : Call.Failure) : f.map (fun e => e) = f := by
  cases f <;> rfl

lemma Handler.raises_required (hdecode : decode.OnlyUnreadable) (q : Http.Request) :
    (Handler.required.run (Exchange.fetch format decode q)).Raises format step := by
  refine raises_once (fun e => e) hdecode q (fun value => ?_)
    (fun f => by rw [Call.Failure.map_same]) fun h => h
  cases value with
  | none =>
    exact ⟨_, rfl, fun e he => (Call.Failure.hub.inj (Except.error.inj he)).symm⟩
  | some value => exact ⟨.ok value, rfl, fun e he => by cases he⟩

namespace Device

lemma raises_lookup {decode : Decoder Identity} (hdecode : decode.OnlyUnreadable)
    (q : Http.Request) (device : Nat) (moduleId : Text) :
    ((lookup moduleId).run (Exchange.fetch format decode q)).Raises format
      (.get device moduleId) := by
  refine Handler.raises_once (missing moduleId) hdecode q (fun value => ?_)
    (fun f => rfl) Cause.missing
  cases value with
  | none =>
    exact ⟨_, rfl, fun e he => (Call.Failure.hub.inj (Except.error.inj he)).symm⟩
  | some identity => exact ⟨.ok identity, rfl, fun e he => by cases he⟩

lemma raises_discard (q : Http.Request) :
    (discard.run (Exchange.fetch format .ignore q)).Raises format step :=
  Handler.raises_once (fun e => e) Decoder.onlyUnreadable_ignore q
    (fun _ => ⟨.ok (), rfl, fun e he => by cases he⟩)
    (fun f => by rw [Call.Failure.map_same]) fun h => h

lemma raises_onModule {moduleId : Text} {c : Call α} (hc : c.Raises format step) :
    (onModule moduleId c).Raises format step := by
  cases hblank : Text.isBlank moduleId with
  | true =>
    rw [onModule, HubError.requireArgument_blank _ hblank]
    exact Call.raises_done (.emptyArgument (by decide) rfl)
  | false => rwa [onModule_of_present hblank]

variable (d : Device) (moduleId : Text)

lemma raises_get (device : Nat) : (d.get format moduleId).Raises format (.get device moduleId) :=
  raises_onModule (raises_lookup (Decoder.onlyUnreadable_document _) _ device moduleId)

lemma raises_list : (d.list format).Raises format step :=
  Handler.raises_required (Decoder.onlyUnreadable_document _) _

lemma raises_delete : (d.delete format moduleId).Raises format step :=
  raises_onModule (raises_discard _)

lemma raises_store (authentication : Option AuthMechanism) (conditional : Bool) :
    (d.store format moduleId authentication conditional).Raises format step := by
  refine raises_onModule ?_
  split
  · rename_i reason _
    exact Call.raises_done (.unwritable reason)
  · exact Handler.raises_required (Decoder.onlyUnreadable_document _) _

end Device

end Calls

/-! ## Callers' own handlers -/

namespace Handler

variable {ρ α : Type}

/-- How the fetches of a handler end, in their order. -/
def outcomes (fetch : Call (Option ρ)) :
    Handler ρ α → Traffic → List (Except Call.Failure (Option ρ))
  | done _, _ => []
  | .fetch next, t => (fetch t).1 :: (next (fetch t).1).outcomes fetch (fetch t).2

/-- The handler constructs no error: it ends with one only if the fetch that it has just made ended
with the same. -/
def PassesOn (latest : Option (Except Call.Failure (Option ρ))) : Handler ρ α → Prop
  | done outcome => ∀ e, outcome = .error (.hub e) → latest = some (.error (.hub e))
  | .fetch next => ∀ r, (next r).PassesOn (some r)

variable (format : DocumentFormat) (decode : Decoder ρ) (q : Http.Request) {h : Handler ρ α}

/-- A handler tries its request once for each of its fetches. -/
lemma traffic_run (h : Handler ρ α) (t : Traffic) :
    (h.run (Exchange.fetch format decode q) t).2 =
      t.after format
        (List.replicate (h.outcomes (Exchange.fetch format decode q) t).length q) := by
  induction h generalizing t with
  | done outcome => rfl
  | fetch next ih =>
    rw [outcomes, run_fetch, ih, List.length_cons, List.replicate_succ, Traffic.after_cons,
      Exchange.traffic_fetch]

variable {format decode q}

/-- **A fetch that ends with an error has read the reply in its own position**, and the error is what
this reply and the decoder amount to. -/
lemma fetched_of_outcomes {t : Traffic} {k : Nat} {e : HubError}
    (he : (h.outcomes (Exchange.fetch format decode q) t)[k]? = some (.error (.hub e))) :
    t.Opens format q ∧
      (Exchange.outcome format (t.pending[k]?.getD .absent)).bind decode = .error e := by
  induction h generalizing t k with
  | done outcome => cases he
  | fetch next ih =>
    cases k with
    | zero =>
      have hfetch : (Exchange.fetch format decode q t).1 = .error (.hub e) := Option.some.inj he
      rw [← List.head?_eq_getElem?]
      exact Exchange.fetched_of_hub hfetch
    | succ k =>
      obtain ⟨hopens', hfetched⟩ := ih _ he
      have hopens : t.Opens format q :=
        (Traffic.opens_congr (Exchange.logger_roundTrip format q t)).1 hopens'
      rw [Exchange.traffic_fetch, Exchange.pending_roundTrip hopens, List.getElem?_tail] at hfetched
      exact ⟨hopens, hfetched⟩

@[simp] lemma passesOn_ok {latest : Option (Except Call.Failure (Option ρ))} (value : α) :
    (done (.ok value) : Handler ρ α).PassesOn latest := by
  intro e he
  cases he

@[simp] lemma passesOn_unlogged {latest : Option (Except Call.Failure (Option ρ))}
    (reason : Text) : (done (.error (.unlogged reason)) : Handler ρ α).PassesOn latest := by
  intro e he
  cases he

@[simp] lemma passesOn_hub {latest : Option (Except Call.Failure (Option ρ))} {e : HubError} :
    (done (.error (.hub e)) : Handler ρ α).PassesOn latest ↔ latest = some (.error (.hub e)) := by
  constructor
  · exact fun h => h e rfl
  · intro h e' he
    obtain rfl : e = e' := Call.Failure.hub.inj (Except.error.inj he)
    exact h

@[simp] lemma passesOn_fetch {latest : Option (Except Call.Failure (Option ρ))}
    {next : Except Call.Failure (Option ρ) → Handler ρ α} :
    (Handler.fetch next).PassesOn latest ↔
      (∀ value, (next (.ok value)).PassesOn (some (.ok value))) ∧
        (∀ e, (next (.error (.hub e))).PassesOn (some (.error (.hub e)))) ∧
        ∀ reason, (next (.error (.unlogged reason))).PassesOn
          (some (.error (.unlogged reason))) := by
  constructor
  · exact fun h => ⟨fun value => h (.ok value), fun e => h (.error (.hub e)),
      fun reason => h (.error (.unlogged reason))⟩
  · rintro ⟨hok, hhub, hunlogged⟩ ((e | reason) | value)
    · exact hhub e
    · exact hunlogged reason
    · exact hok value

lemma PassesOn.getLast?_outcomes {latest : Option (Except Call.Failure (Option ρ))}
    {fetch : Call (Option ρ)} {t : Traffic} {e : HubError} (hh : h.PassesOn latest)
    (he : (h.run fetch t).1 = .error (.hub e)) :
    (h.outcomes fetch t).getLast?.or latest = some (.error (.hub e)) := by
  induction h generalizing latest t with
  | done outcome => exact hh e he
  | fetch next ih =>
    have hnext := ih (fetch t).1 (hh (fetch t).1) he
    rw [outcomes, List.getLast?_cons]
    cases hlast : ((next (fetch t).1).outcomes fetch (fetch t).2).getLast? with
    | none => simpa [hlast] using hnext
    | some r => simpa [hlast] using hnext

/-- A handler without an earlier fetch to speak of passes on the error of its last. -/
lemma PassesOn.exists_last {fetch : Call (Option ρ)} {t : Traffic} {e : HubError}
    (hh : h.PassesOn none) (he : (h.run fetch t).1 = .error (.hub e)) :
    ∃ k, (h.outcomes fetch t).length = k + 1 ∧
      (h.outcomes fetch t)[k]? = some (.error (.hub e)) := by
  have hlast : (h.outcomes fetch t).getLast? = some (.error (.hub e)) := by
    simpa using hh.getLast?_outcomes he
  have hne : h.outcomes fetch t ≠ [] := by
    intro hnil
    rw [hnil] at hlast
    cases hlast
  obtain ⟨k, hk⟩ := Nat.exists_eq_succ_of_ne_zero (mt List.eq_nil_of_length_eq_zero hne)
  refine ⟨k, hk, ?_⟩
  rwa [List.getLast?_eq_getElem?, hk] at hlast

/-- An error in which a fetch of a handler ended has its cause in the reply to that fetch. -/
lemma cause_of_outcomes {step : Session.Step} {sent : List Http.Request} {t : Traffic}
    {k : Nat} {e : HubError} (hdecode : decode.OnlyUnreadable)
    (ht : ∀ r ∈ t.pending, r.Unexplained format) (hsent : sent ≠ [])
    (he : (h.outcomes (Exchange.fetch format decode q) t)[k]? = some (.error (.hub e))) :
    Cause step sent (Http.Reply.upcoming t.pending (k + 1)) e := by
  have hget : (Http.Reply.upcoming t.pending (k + 1))[k]? =
      some (t.pending[k]?.getD .absent) := Http.Reply.getElem?_upcoming k.lt_succ_self
  have hunexplained : (t.pending[k]?.getD .absent).Unexplained format :=
    Http.Reply.unexplained_of_mem_upcoming ht _ (List.mem_of_getElem? hget)
  have hlast : (Http.Reply.upcoming t.pending (k + 1)).getLast? =
      some (t.pending[k]?.getD .absent) := by
    rw [List.getLast?_eq_getElem?, Http.Reply.length_upcoming, Nat.add_sub_cancel, hget]
  exact Exchange.cause_of_fetched hdecode hunexplained (fetched_of_outcomes he).2 hlast hsent

end Handler

/-! ### The handlers that a session knows by name -/

namespace Session.Reaction

/-- Of the handlers that a session knows by name, only one constructs errors. -/
lemma passesOn_handler {ρ : Type} {reaction : Reaction} (h : reaction ≠ .replace) :
    (reaction.handler : Handler ρ Text).PassesOn none := by
  cases reaction with
  | replace => exact absurd rfl h
  | _ => simp [handler, onError, report]

end Session.Reaction

/-! ## Constructors -/

section Constructors

variable {step : Session.Step} {e : HubError}

lemma Client.cause_of_connect {transport : Bool} {apiVersion baseUrl : Text}
    (h : connect transport apiVersion baseUrl = .error (.invalid e)) : Cause step [] [] e := by
  cases hmake : make apiVersion baseUrl with
  | ok c => cases transport <;> simp [connect, hmake] at h
  | error e' =>
    obtain rfl : e' = e := by simpa [connect, hmake] using h
    cases hblank : Text.isBlank apiVersion with
    | true =>
      obtain rfl : .emptyArgument (ascii "api_version") = e' := by simpa [make, hblank] using hmake
      exact .emptyArgument (by decide) rfl
    | false =>
      cases hparse : BaseUrl.parse baseUrl with
      | ok u => simp [make, hblank, hparse] at hmake
      | error flaw =>
        obtain rfl : .invalidUrl flaw baseUrl = e' := by
          simpa [make, hblank, hparse] using hmake
        exact .invalidUrl flaw baseUrl rfl

lemma Device.cause_of_make {client : Client} {id : Text} (h : make client id = .error e) :
    Cause step [] [] e := by
  cases hblank : Text.isBlank id with
  | true =>
    obtain rfl : .emptyArgument (ascii "device_id") = e := by simpa [make, hblank] using h
    exact .emptyArgument (by decide) rfl
  | false => simp [make, hblank] at h

end Constructors

/-! ## Steps of a session -/

namespace Session

/-- Whatever error a step fails with has its cause in the requests that the step sends and the replies
that it reads. -/
def Effect.Raises (format : DocumentFormat) (step : Step) (t : Traffic) (effect : Effect) : Prop :=
  ∀ e, effect.outcome = .error (.hub e) →
    ∃ qs, t.OpensAll format qs ∧ effect.traffic = t.after format qs ∧
      Cause step qs (Http.Reply.upcoming t.pending qs.length) e

section Effects

variable {format : DocumentFormat} {step : Step} {s : Session} {t : Traffic}

lemma Effect.raises_answer (a : Answer) : (answer s t a).Raises format step t := by
  intro e he
  cases he

lemma Effect.raises_fail {e : HubError} (h : Cause step [] [] e) :
    (fail s t (.hub e)).Raises format step t := by
  intro e' he
  obtain rfl : e = e' := Failure.hub.inj (Except.error.inj he)
  exact ⟨[], Traffic.opensAll_nil, rfl, h⟩

lemma Effect.raises_noTransport : (fail s t .noTransport).Raises format step t := by
  intro e he
  cases he

lemma Effect.raises_noSuchIndex : (fail s t .noSuchIndex).Raises format step t := by
  intro e he
  cases he

lemma Effect.error_of_call {α : Type} {c : Call α} {f : α → Answer} {e : HubError}
    (he : (call s t c f).outcome = .error (.hub e)) : (c t).1 = .error (.hub e) := by
  cases hout : (c t).1 with
  | ok a =>
    rw [call, hout] at he
    cases he
  | error failure =>
    rw [call, hout] at he
    cases failure with
    | unlogged reason => cases he
    | hub e' =>
      obtain rfl : e' = e := Failure.hub.inj (Except.error.inj he)
      rfl

lemma Effect.raises_call {α : Type} {c : Call α} (ht : ∀ r ∈ t.pending, r.Unexplained format)
    (hc : c.Raises format step) (f : α → Answer) : (call s t c f).Raises format step t :=
  fun e he => hc t ht e (error_of_call he)

lemma raises_withClient {i : Nat} {go : Client → Effect}
    (h : ∀ c, (go c).Raises format step t) : (s.withClient t i go).Raises format step t := by
  rw [withClient]
  split
  · exact h _
  · exact Effect.raises_noSuchIndex

lemma raises_withDevice {i : Nat} {go : Device → Effect}
    (h : ∀ d, (go d).Raises format step t) : (s.withDevice t i go).Raises format step t := by
  rw [withDevice]
  split
  · exact h _
  · exact Effect.raises_noSuchIndex

end Effects

/-- A request of a client that a handler of the caller exchanges. -/
structure Delegation where
  client : Nat
  method : Http.Method
  path : Text
  parameters : Table Text
  conditional : Bool
  expected : Expected
  handler : Handler expected.Document Text

namespace Delegation

/-- The request that is exchanged if a client is asked. -/
def request (d : Delegation) (c : Client) : Http.Request :=
  c.compose d.method d.path d.parameters [] d.conditional

/-- The fetch that the handler is given. -/
def fetch (d : Delegation) (c : Client) (format : DocumentFormat) :
    Call (Option d.expected.Document) :=
  Exchange.fetch format (d.expected.decoder format) (d.request c)

/-- How the fetches of the handler end, in their order. -/
def outcomes (d : Delegation) (c : Client) (format : DocumentFormat) (t : Traffic) :
    List (Except Call.Failure (Option d.expected.Document)) :=
  d.handler.outcomes (d.fetch c format) t

end Delegation

/-- What a step leaves to a handler of the caller, if anything. -/
def Step.delegation? : Step → Option Delegation
  | request client method path parameters conditional expected reaction =>
    reaction.map fun r =>
      ⟨client, method, path, parameters, conditional, expected, r.handler⟩
  | handle client method path parameters conditional expected handler =>
    some ⟨client, method, path, parameters, conditional, expected, handler⟩
  | _ => none

/-- No handler of the caller constructs an error in the step. -/
def Step.PassesOn : Step → Prop
  | request _ _ _ _ _ _ reaction => reaction ≠ some .replace
  | handle _ _ _ _ _ _ handler => handler.PassesOn none
  | _ => True

lemma Step.PassesOn.handler {step : Step} (h : step.PassesOn) {d : Delegation}
    (hd : step.delegation? = some d) : d.handler.PassesOn none := by
  cases step with
  | request client method path parameters conditional expected reaction =>
    obtain ⟨r, rfl, rfl⟩ := Option.map_eq_some_iff.mp hd
    exact Reaction.passesOn_handler fun hr => h (congrArg some hr)
  | handle client method path parameters conditional expected handler =>
    cases hd
    exact h
  | _ => cases hd

lemma perform_of_delegation {step : Step} {d : Delegation} (hd : step.delegation? = some d)
    (s : Session) (format : DocumentFormat) (t : Traffic) :
    s.perform format t step = s.withClient t d.client fun c =>
      .call s t (d.handler.run (d.fetch c format)) .text := by
  cases step with
  | request client method path parameters conditional expected reaction =>
    obtain ⟨r, rfl, rfl⟩ := Option.map_eq_some_iff.mp hd
    rfl
  | handle client method path parameters conditional expected handler =>
    cases hd
    rfl
  | _ => cases hd

/-- **The library raises causes**, in any session, by any step that leaves nothing to a handler. -/
theorem raises_perform (s : Session) {format : DocumentFormat} {t : Traffic}
    (ht : ∀ r ∈ t.pending, r.Unexplained format) {step : Step}
    (hstep : step.delegation? = none) :
    (s.perform format t step).Raises format step t := by
  cases step with
  | connect transport apiVersion baseUrl =>
    rw [perform]
    split
    · exact Effect.raises_answer _
    · rename_i e h
      exact Effect.raises_fail (Client.cause_of_connect h)
    · exact Effect.raises_noTransport
  | copy i => exact raises_withClient fun _ => Effect.raises_answer _
  | setTimeout i ms => exact raises_withClient fun _ => Effect.raises_answer _
  | describe i => exact raises_withClient fun _ => Effect.raises_answer _
  | url i path parameters => exact raises_withClient fun _ => Effect.raises_answer _
  | compose i method path parameters body conditional =>
    exact raises_withClient fun _ => Effect.raises_answer _
  | exchange q => exact Effect.raises_call ht (Exchange.raises_roundTrip q) _
  | request i method path parameters conditional expected reaction =>
    obtain rfl : reaction = none := Option.map_eq_none_iff.mp hstep
    exact raises_withClient fun c =>
      Effect.raises_call ht (Exchange.raises_fetch (expected.onlyUnreadable_decoder format) _) _
  | handle i method path parameters conditional expected handler => cases hstep
  | device i id =>
    refine raises_withClient fun c => ?_
    split
    · exact Effect.raises_answer _
    · rename_i e h
      exact Effect.raises_fail (Device.cause_of_make h)
  | create i moduleId authentication =>
    exact raises_withDevice fun d => Effect.raises_call ht (d.raises_store moduleId _ false) _
  | update i moduleId authentication =>
    exact raises_withDevice fun d => Effect.raises_call ht (d.raises_store moduleId _ true) _
  | get i moduleId =>
    -- the device is named by its position in the step, which is where a missing module is raised
    exact raises_withDevice fun d => Effect.raises_call ht (d.raises_get moduleId i) _
  | list i => exact raises_withDevice fun d => Effect.raises_call ht d.raises_list _
  | delete i moduleId =>
    exact raises_withDevice fun d => Effect.raises_call ht (d.raises_delete moduleId) _
  | readMetrics => exact Effect.raises_answer _

/-! ### One turn -/

section Turn

variable {s : Session} {format : DocumentFormat} {turn : Turn} {e : HubError}

lemma cause_of_step (hreplies : ∀ r ∈ turn.replies, r.Unexplained format)
    (hstep : turn.step.delegation? = none)
    (he : (s.step format turn).1.outcome = .error (.hub e)) :
    Cause turn.step (s.step format turn).1.sent
      (Http.Reply.upcoming turn.replies (s.step format turn).1.sent.length) e := by
  have hraises : (s.perform format (s.traffic turn.replies) turn.step).Raises format turn.step
      (s.traffic turn.replies) := s.raises_perform hreplies hstep
  obtain ⟨qs, hopens, htraffic, hcause⟩ := hraises e he
  have hsent : (s.step format turn).1.sent = qs := by
    show (s.perform format (s.traffic turn.replies) turn.step).traffic.sent = qs
    rw [htraffic, Traffic.sent_after hopens]
    rfl
  rwa [hsent]

variable {d : Delegation} {c : Client}

lemma perform_turn_of_delegation (format : DocumentFormat) (hd : turn.step.delegation? = some d)
    (hc : s.clients[d.client]? = some c) :
    s.perform format (s.traffic turn.replies) turn.step =
      .call s (s.traffic turn.replies) (d.handler.run (d.fetch c format)) .text := by
  rw [perform_of_delegation hd, withClient, hc]

/-- A turn that is left to a handler sends one request for each fetch, if the log lets it through. -/
lemma sent_of_delegation (hd : turn.step.delegation? = some d)
    (hc : s.clients[d.client]? = some c)
    (hopens : (s.traffic turn.replies).Opens format (d.request c)) :
    (s.step format turn).1.sent =
      List.replicate (d.outcomes c format (s.traffic turn.replies)).length (d.request c) := by
  show (s.perform format (s.traffic turn.replies) turn.step).traffic.sent = _
  rw [perform_turn_of_delegation format hd hc]
  show (d.handler.run (d.fetch c format) (s.traffic turn.replies)).2.sent = _
  rw [Delegation.fetch, Handler.traffic_run, Traffic.sent_after (Traffic.opensAll_replicate hopens _)]
  rfl

/-- What the library raised in a turn that is left to a handler. -/
lemma cause_of_delegation (hreplies : ∀ r ∈ turn.replies, r.Unexplained format)
    (hd : turn.step.delegation? = some d) (hc : s.clients[d.client]? = some c) {k : Nat}
    (hk : (d.outcomes c format (s.traffic turn.replies))[k]? = some (.error (.hub e))) :
    Cause turn.step (s.step format turn).1.sent (Http.Reply.upcoming turn.replies (k + 1)) e := by
  have hsent : (s.step format turn).1.sent ≠ [] := by
    rw [sent_of_delegation hd hc (Handler.fetched_of_outcomes hk).1]
    have hlength : k < (d.outcomes c format (s.traffic turn.replies)).length :=
      (List.getElem?_eq_some_iff.mp hk).1
    intro hnil
    rw [List.replicate_eq_nil_iff] at hnil
    omega
  exact Handler.cause_of_outcomes (d.expected.onlyUnreadable_decoder format) hreplies hsent hk

/-- A turn in which no handler constructs errors ends with one that the library raised for the reply
read last. -/
lemma cause_of_passesOn (hreplies : ∀ r ∈ turn.replies, r.Unexplained format)
    (hstep : turn.step.PassesOn) (he : (s.step format turn).1.outcome = .error (.hub e)) :
    Cause turn.step (s.step format turn).1.sent
      (Http.Reply.upcoming turn.replies (s.step format turn).1.sent.length) e := by
  cases hd : turn.step.delegation? with
  | none => exact cause_of_step hreplies hd he
  | some d =>
    have he' : (s.perform format (s.traffic turn.replies) turn.step).outcome =
      .error (.hub e) := he
    cases hc : s.clients[d.client]? with
    | none =>
      rw [perform_of_delegation hd, withClient, hc] at he'
      cases he'
    | some c =>
      rw [perform_turn_of_delegation format hd hc] at he'
      obtain ⟨k, hlength, hk⟩ := (hstep.handler hd).exists_last (Effect.error_of_call he')
      have hcause := cause_of_delegation hreplies hd hc hk
      have hconsumed : (s.step format turn).1.sent.length = k + 1 := by
        rw [sent_of_delegation hd hc (Handler.fetched_of_outcomes hk).1, List.length_replicate]
        exact hlength
      rwa [hconsumed]

end Turn

/-! ### Runs -/

/-- The report of a turn is that of its step in the session that the turns before it have left. -/
lemma getElem?_run (s : Session) (format : DocumentFormat) (turns : List Turn) (i : Nat) :
    (s.run format turns)[i]? =
      turns[i]?.map fun turn => ((s.after format (turns.take i)).step format turn).1 := by
  induction turns generalizing s i with
  | nil => simp
  | cons turn r ih =>
    cases i with
    | zero => simp
    | succ i => simpa using ih (s.step format turn).2 i

/-- **The fields of every error agree** with its kind and with what the step did, in every run.

Where no handler of the caller constructs errors, the replies read are all that the step consumed, one
for each request that it sent.  A handler may also keep an error of a fetch and end with it later; such
an error still agrees with the replies read by the time of that fetch. -/
theorem errors_well_formed (s : Session) (format : DocumentFormat) (turns : List Turn)
    {i : Nat} {turn : Turn} {report : Report} {e : HubError}
    (hturn : turns[i]? = some turn) (hreport : (s.run format turns)[i]? = some report)
    (hreplies : ∀ r ∈ turn.replies, r.Unexplained format)
    (he : report.outcome = .error (.hub e)) :
    (turn.step.PassesOn →
      e.WellFormed turn.step report.sent
        (Http.Reply.upcoming turn.replies report.sent.length)) ∧
    ∀ d c k, turn.step.delegation? = some d →
      (s.after format (turns.take i)).clients[d.client]? = some c →
      (d.outcomes c format ((s.after format (turns.take i)).traffic turn.replies))[k]? =
        some (.error (.hub e)) →
      e.WellFormed turn.step report.sent (Http.Reply.upcoming turn.replies (k + 1)) := by
  obtain rfl : ((s.after format (turns.take i)).step format turn).1 = report := by
    rw [getElem?_run, hturn, Option.map_some] at hreport
    exact Option.some.inj hreport
  constructor
  · intro hstep
    exact (cause_of_passesOn hreplies hstep he).wellFormed
  · intro d c k hd hc hk
    exact (cause_of_delegation hreplies hd hc hk).wellFormed

/-- A handler retries after a refusal and passes on the second one. -/
theorem errors_well_formed_retry :
    let client : Client := ⟨ascii "v", ⟨.https, ascii "hub"⟩, 100⟩
    let session : Session := { clients := [client] }
    let replies : List Http.Reply := [{ status := 500 }, { status := 503 }]
    let turn : Turn := ⟨.request 0 .get (ascii "/a") ∅ false .nothing (some .retry), replies⟩
    let q := client.compose .get (ascii "/a") ∅ [] false
    ((session.run .none [⟨.describe 0, []⟩, turn])[1]?).map (·.outcome) =
        some (.error (.hub (.refused 503 none))) ∧
      (HubError.refused 503 none).WellFormed turn.step [q, q] replies := by
  intro client session replies turn q
  let report : Report := (session.step .none turn).1
  have hturn : [⟨.describe 0, []⟩, turn][1]? = some turn := rfl
  have hreport : (session.run .none [⟨.describe 0, []⟩, turn])[1]? = some report := rfl
  have hreplies : ∀ r ∈ turn.replies, r.Unexplained .none := fun r _ _ _ => .inr rfl
  have he : report.outcome = .error (.hub (.refused 503 none)) := rfl
  have hstep : turn.step.PassesOn := by
    show some Reaction.retry ≠ some .replace
    decide
  have hsent : report.sent = [q, q] := rfl
  have hwell := (errors_well_formed session .none _ hturn hreport hreplies he).1 hstep
  rw [hsent] at hwell
  exact ⟨by rw [hreport, Option.map_some, he], hwell⟩

end Session

end ModuleRegistry
