import Mathlib.Tactic.Lemma
import ModuleRegistry.Session.Basic

/-!
# Calls as sequences of exchanges

A call may fetch many times, recover from errors or fail before it sends anything.  Whatever it
decides, the traffic only ever sees one exchange after another: no call sends a request without
reading a reply, counts without sending, or logs on its own account.  This module states that once,
so that a fact about whole sessions needs to be checked for one exchange only.

`Traffic.after` is the traffic after a list of requests has been exchanged.  A request whose opening
entry the log cannot take leaves no trace in it, so only requests that the log lets through count as
exchanged (`Traffic.OpensAll`).  The replies that answer them are those that `Http.Reply.upcoming`
reads off the script: its replies in order, and absent ones when it has run out.

Main statements:

* `Handler.repeats_run`: a handler tries the one request that it was given, and no other;
* `Session.onlyExchanges_perform`: every step of a session exchanges a list of requests and does
  nothing else to the traffic.
-/

namespace ModuleRegistry

/-! ## The replies of a script -/

/-- The replies that the given number of requests get from a script. -/
def Http.Reply.upcoming : List Http.Reply → Nat → List Http.Reply
  | _, 0 => []
  | script, n + 1 => script.head?.getD .absent :: upcoming script.tail n

@[simp] lemma Http.Reply.upcoming_zero (script : List Http.Reply) :
    Http.Reply.upcoming script 0 = [] := by
  cases script <;> rfl

@[simp] lemma Http.Reply.upcoming_succ (script : List Http.Reply) (n : Nat) :
    Http.Reply.upcoming script (n + 1) =
      script.head?.getD .absent :: Http.Reply.upcoming script.tail n := by
  cases script <;> rfl

@[simp] lemma Http.Reply.length_upcoming (script : List Http.Reply) (n : Nat) :
    (Http.Reply.upcoming script n).length = n := by
  induction n generalizing script with
  | zero => simp
  | succ n ih => simp [ih]

/-- A reply is read in its position. -/
lemma Http.Reply.getElem?_upcoming {script : List Http.Reply} {n i : Nat} (h : i < n) :
    (Http.Reply.upcoming script n)[i]? = some (script[i]?.getD .absent) := by
  induction i generalizing script n with
  | zero =>
    obtain ⟨n, rfl⟩ := Nat.exists_eq_succ_of_ne_zero (Nat.ne_of_gt h)
    rw [upcoming_succ, List.getElem?_cons_zero, List.head?_eq_getElem?]
  | succ i ih =>
    obtain ⟨n, rfl⟩ := Nat.exists_eq_succ_of_ne_zero (Nat.ne_of_gt (Nat.zero_lt_of_lt h))
    rw [upcoming_succ, List.getElem?_cons_succ, ih (Nat.lt_of_succ_lt_succ h), List.getElem?_tail]

/-! ## Traffic after several exchanges -/

namespace Traffic

variable {format : DocumentFormat} {t t' : Traffic} {q : Http.Request} {qs : List Http.Request}

/-- What the log lets through is up to the logger. -/
lemma opens_congr (h : t'.logger = t.logger) : t'.Opens format q ↔ t.Opens format q := by
  rw [Opens, Opens, fault?_congr h]

/-- The log lets a list of requests through. -/
def OpensAll (t : Traffic) (format : DocumentFormat) (qs : List Http.Request) : Prop :=
  ∀ q ∈ qs, t.Opens format q

lemma opensAll_nil : t.OpensAll format [] := fun _ h => absurd h List.not_mem_nil

lemma OpensAll.congr (h : t.OpensAll format qs) (hlogger : t'.logger = t.logger) :
    t'.OpensAll format qs :=
  fun q hq => (opens_congr hlogger).2 (h q hq)

lemma OpensAll.tail (h : t.OpensAll format (q :: qs)) :
    (Exchange.roundTrip format q t).2.OpensAll format qs :=
  OpensAll.congr (fun q' hq' => h q' (List.mem_cons_of_mem q hq'))
    (Exchange.logger_roundTrip format q t)

/-- The traffic after requests have been exchanged in order. -/
def after (t : Traffic) (format : DocumentFormat) (qs : List Http.Request) : Traffic :=
  qs.foldl (fun t q => (Exchange.roundTrip format q t).2) t

@[simp] lemma after_nil (t : Traffic) : t.after format [] = t := rfl

@[simp] lemma after_cons (t : Traffic) (q : Http.Request) (qs : List Http.Request) :
    t.after format (q :: qs) = (Exchange.roundTrip format q t).2.after format qs := rfl

@[simp] lemma logger_after (t : Traffic) (qs : List Http.Request) :
    (t.after format qs).logger = t.logger := by
  induction qs generalizing t with
  | nil => rfl
  | cons q qs ih => rw [after_cons, ih, Exchange.logger_roundTrip]

lemma sent_after (h : t.OpensAll format qs) : (t.after format qs).sent = t.sent ++ qs := by
  induction qs generalizing t with
  | nil => simp
  | cons q qs ih =>
    rw [after_cons, ih h.tail, Exchange.sent_roundTrip (h q List.mem_cons_self), List.append_assoc]
    rfl

lemma pending_after (h : t.OpensAll format qs) :
    (t.after format qs).pending = t.pending.drop qs.length := by
  induction qs generalizing t with
  | nil => simp
  | cons q qs ih =>
    rw [after_cons, ih h.tail, Exchange.pending_roundTrip (h q List.mem_cons_self)]
    simp

/-- Each exchange uses up one reply, so the next one gets the reply in its own position. -/
lemma nextReply_after (h : t.OpensAll format qs) :
    (t.after format qs).nextReply = t.pending[qs.length]?.getD .absent := by
  rw [nextReply, pending_after h, List.head?_drop]

lemma opensAll_replicate (h : t.Opens format q) (n : Nat) :
    t.OpensAll format (List.replicate n q) := by
  intro q' hq'
  rwa [List.eq_of_mem_replicate hq']

/-- A request that the log does not let through leaves no trace, however often it is tried. -/
lemma after_replicate_of_not_opens (h : ¬t.Opens format q) (n : Nat) :
    t.after format (List.replicate n q) = t := by
  obtain ⟨reason, hreason⟩ := Option.ne_none_iff_exists'.1 h
  induction n with
  | zero => rfl
  | succ n ih => rw [List.replicate_succ, after_cons, Exchange.roundTrip_of_fault? hreason, ih]

end Traffic

/-! ## Calls -/

/-- A call does nothing to the traffic but exchange requests that the log lets through. -/
def Call.OnlyExchanges {α : Type} (format : DocumentFormat) (c : Call α) : Prop :=
  ∀ t : Traffic, ∃ qs, t.OpensAll format qs ∧ (c t).2 = t.after format qs

/-- A call tries one request, any number of times, and does nothing else to the traffic. -/
def Call.Repeats {α : Type} (format : DocumentFormat) (q : Http.Request) (c : Call α) : Prop :=
  ∀ t, ∃ n, (c t).2 = t.after format (List.replicate n q)

section Calls

variable {α ρ : Type} (format : DocumentFormat)

lemma Call.onlyExchanges_done (outcome : Except Call.Failure α) :
    (Call.done outcome).OnlyExchanges format :=
  fun _ => ⟨[], Traffic.opensAll_nil, rfl⟩

variable {format}

/-- A request that is tried in vain is not exchanged. -/
lemma Call.Repeats.onlyExchanges {c : Call α} {q : Http.Request} (h : c.Repeats format q) :
    c.OnlyExchanges format := by
  intro t
  obtain ⟨n, hn⟩ := h t
  by_cases hopens : t.Opens format q
  · exact ⟨_, Traffic.opensAll_replicate hopens n, hn⟩
  · exact ⟨[], Traffic.opensAll_nil, hn.trans (Traffic.after_replicate_of_not_opens hopens n)⟩

/-- Nothing else is sent by a call that tries one request. -/
lemma Call.Repeats.sent {c : Call α} {q q' : Http.Request} (h : c.Repeats format q) {t : Traffic}
    (hq' : q' ∈ (c t).2.sent) : q' ∈ t.sent ∨ q' = q := by
  obtain ⟨n, hn⟩ := h t
  by_cases hopens : t.Opens format q
  · rw [hn, Traffic.sent_after (Traffic.opensAll_replicate hopens n), List.mem_append] at hq'
    exact hq'.imp_right List.eq_of_mem_replicate
  · rw [hn, Traffic.after_replicate_of_not_opens hopens] at hq'
    exact .inl hq'

lemma Exchange.repeats_roundTrip {q : Http.Request} :
    (Exchange.roundTrip format q).Repeats format q :=
  fun _ => ⟨1, rfl⟩

/-- **A handler repeats one request.**  It tries the request that its fetch sends, as often as it
fetches, whatever it makes of the outcomes. -/
lemma Handler.repeats_run {decode : Decoder ρ} {q : Http.Request} (h : Handler ρ α) :
    (h.run (Exchange.fetch format decode q)).Repeats format q := by
  intro t
  induction h generalizing t with
  | done outcome => exact ⟨0, rfl⟩
  | fetch next ih =>
    obtain ⟨n, hn⟩ := ih (Exchange.fetch format decode q t).1 (Exchange.fetch format decode q t).2
    refine ⟨n + 1, ?_⟩
    rw [Handler.run_fetch, hn, Exchange.traffic_fetch, List.replicate_succ, Traffic.after_cons]

variable (format)

lemma Device.onlyExchanges_onModule (moduleId : Text) {c : Call α} (hc : c.OnlyExchanges format) :
    (Device.onModule moduleId c).OnlyExchanges format := by
  rw [Device.onModule]
  split
  · exact Call.onlyExchanges_done format _
  · exact hc

lemma Device.onlyExchanges_get (d : Device) (moduleId : Text) :
    (d.get format moduleId).OnlyExchanges format :=
  onlyExchanges_onModule format moduleId (Handler.repeats_run _).onlyExchanges

lemma Device.onlyExchanges_list (d : Device) : (d.list format).OnlyExchanges format :=
  (Handler.repeats_run _).onlyExchanges

lemma Device.onlyExchanges_delete (d : Device) (moduleId : Text) :
    (d.delete format moduleId).OnlyExchanges format :=
  onlyExchanges_onModule format moduleId (Handler.repeats_run _).onlyExchanges

/-- A document that cannot be written ends the call before the exchange. -/
lemma Device.onlyExchanges_store (d : Device) (moduleId : Text)
    (authentication : Option AuthMechanism) (conditional : Bool) :
    (d.store format moduleId authentication conditional).OnlyExchanges format := by
  refine onlyExchanges_onModule format moduleId ?_
  split
  · exact Call.onlyExchanges_done format _
  · exact (Handler.repeats_run _).onlyExchanges

end Calls

/-! ## Steps of a session -/

namespace Session

variable (format : DocumentFormat) (s : Session) (t : Traffic)

/-- A step does nothing to the traffic before it but exchange requests that the log lets through. -/
def Effect.OnlyExchanges (e : Effect) : Prop :=
  ∃ qs, t.OpensAll format qs ∧ e.traffic = t.after format qs

lemma Effect.onlyExchanges_answer (a : Answer) : (answer s t a).OnlyExchanges format t :=
  ⟨[], Traffic.opensAll_nil, rfl⟩

lemma Effect.onlyExchanges_fail (f : Failure) : (fail s t f).OnlyExchanges format t :=
  ⟨[], Traffic.opensAll_nil, rfl⟩

lemma Effect.onlyExchanges_call {α : Type} {c : Call α} (hc : c.OnlyExchanges format)
    (f : α → Answer) : (call s t c f).OnlyExchanges format t :=
  hc t

variable {s t}

lemma onlyExchanges_withClient {i : Nat} {go : Client → Effect}
    (h : ∀ c, (go c).OnlyExchanges format t) : (s.withClient t i go).OnlyExchanges format t := by
  rw [withClient]
  split
  · exact h _
  · exact Effect.onlyExchanges_fail format s t _

lemma onlyExchanges_withDevice {i : Nat} {go : Device → Effect}
    (h : ∀ d, (go d).OnlyExchanges format t) : (s.withDevice t i go).OnlyExchanges format t := by
  rw [withDevice]
  split
  · exact h _
  · exact Effect.onlyExchanges_fail format s t _

lemma onlyExchanges_exchange (c : Client) (method : Http.Method) (path : Text)
    (parameters : Table Text) (conditional : Bool) (expected : Expected)
    (handler : Option (Handler expected.Document Text)) :
    (s.exchange t format c method path parameters conditional expected handler).OnlyExchanges
      format t := by
  cases handler with
  | none => exact Effect.onlyExchanges_call format s t (Handler.repeats_run _).onlyExchanges _
  | some h => exact Effect.onlyExchanges_call format s t (Handler.repeats_run h).onlyExchanges _

/-- **A step exchanges requests and does nothing else to the traffic.**  One case for each kind of
step: those that make, change or describe something leave the traffic alone, and the others are
calls. -/
theorem onlyExchanges_perform (s : Session) (t : Traffic) (step : Step) :
    (s.perform format t step).OnlyExchanges format t := by
  cases step with
  | connect transport apiVersion baseUrl =>
    rw [perform]
    split
    · exact Effect.onlyExchanges_answer format _ t _
    · exact Effect.onlyExchanges_fail format s t _
    · exact Effect.onlyExchanges_fail format s t _
  | copy i =>
    exact onlyExchanges_withClient format fun _ => Effect.onlyExchanges_answer format _ t _
  | setTimeout i ms =>
    exact onlyExchanges_withClient format fun _ => Effect.onlyExchanges_answer format _ t _
  | describe i =>
    exact onlyExchanges_withClient format fun _ => Effect.onlyExchanges_answer format s t _
  | url i path parameters =>
    exact onlyExchanges_withClient format fun _ => Effect.onlyExchanges_answer format s t _
  | compose i method path parameters body conditional =>
    exact onlyExchanges_withClient format fun _ => Effect.onlyExchanges_answer format s t _
  | exchange q =>
    exact Effect.onlyExchanges_call format s t Exchange.repeats_roundTrip.onlyExchanges _
  | request i method path parameters conditional expected reaction =>
    exact onlyExchanges_withClient format fun c =>
      onlyExchanges_exchange format c method path parameters conditional expected _
  | handle i method path parameters conditional expected handler =>
    exact onlyExchanges_withClient format fun c =>
      onlyExchanges_exchange format c method path parameters conditional expected _
  | device i id =>
    refine onlyExchanges_withClient format fun c => ?_
    split
    · exact Effect.onlyExchanges_answer format _ t _
    · exact Effect.onlyExchanges_fail format s t _
  | create i moduleId authentication =>
    exact onlyExchanges_withDevice format fun d =>
      Effect.onlyExchanges_call format s t (d.onlyExchanges_store format moduleId _ false) _
  | update i moduleId authentication =>
    exact onlyExchanges_withDevice format fun d =>
      Effect.onlyExchanges_call format s t (d.onlyExchanges_store format moduleId _ true) _
  | get i moduleId =>
    exact onlyExchanges_withDevice format fun d =>
      Effect.onlyExchanges_call format s t (d.onlyExchanges_get format moduleId) _
  | list i =>
    exact onlyExchanges_withDevice format fun d =>
      Effect.onlyExchanges_call format s t (d.onlyExchanges_list format) _
  | delete i moduleId =>
    exact onlyExchanges_withDevice format fun d =>
      Effect.onlyExchanges_call format s t (d.onlyExchanges_delete format moduleId) _
  | readMetrics => exact Effect.onlyExchanges_answer format s t _

/-- A turn exchanges the requests that it reports, and the log lets them through. -/
lemma exchanges_perform (s : Session) (turn : Turn) :
    (s.traffic turn.replies).OpensAll format (s.step format turn).1.sent ∧
      (s.perform format (s.traffic turn.replies) turn.step).traffic =
        (s.traffic turn.replies).after format (s.step format turn).1.sent := by
  obtain ⟨qs, hopens, hqs⟩ := s.onlyExchanges_perform format (s.traffic turn.replies) turn.step
  have hsent : (s.step format turn).1.sent = qs := by
    show (s.perform format (s.traffic turn.replies) turn.step).traffic.sent = qs
    rw [hqs, Traffic.sent_after hopens]
    rfl
  rw [hqs, hsent]
  exact ⟨hopens, rfl⟩

end Session

end ModuleRegistry
