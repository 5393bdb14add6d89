import ModuleRegistry.Proofs.Exchanges
import ModuleRegistry.Proofs.Totals

/-!
# Accounting for exchanges

A session that keeps metrics counts every exchange once as a request, once as a latency, and once
more as a failure if the transport failed or the hub refused.  Nothing else counts: not the steps
that send nothing, not the decoding of a body, and not what a handler makes of an outcome.

`Session.exchanged` lists what a turn exchanged, every request with the reply that answers it, and
`Exchange.counts` the updates that such a list makes.  The invariant is that the store is what these
updates make of the store before: one exchange preserves it (`Exchange.metrics_roundTrip`), hence one
turn does (`Session.metrics_step`), since a turn does nothing to the metrics but exchange, and hence a
run does (`Session.metrics_after`).  What remains is to sum the updates up.

Main statement: `Session.accounts_for_every_exchange`, the counts of a session that began with an
empty store are those of its exchanges.
-/

namespace ModuleRegistry

open Text (ascii)

/-! ## What exchanges count -/

namespace Exchange

open Metrics (total)
open Metrics.Update (increments observations)

/-- What exchanges count, in order. -/
def counts (exchanged : List (Http.Request × Http.Reply)) : List Metrics.Update :=
  exchanged.flatMap fun x => updates x.2

@[simp] lemma counts_cons (x : Http.Request × Http.Reply)
    (exchanged : List (Http.Request × Http.Reply)) :
    counts (x :: exchanged) = updates x.2 ++ counts exchanged := rfl

@[simp] lemma counts_append (a b : List (Http.Request × Http.Reply)) :
    counts (a ++ b) = counts a ++ counts b :=
  List.flatMap_append

lemma requests_ne_failures : requests ≠ failures := by decide

section One

variable (r : Http.Reply)

lemma total_requests_updates : total (increments requests) (updates r) = 1 := by
  cases hr : r.failed <;> simp [updates, increments, hr, requests_ne_failures]

lemma total_latency_updates : total (observations latency) (updates r) = 1 := by
  cases hr : r.failed <;> simp [updates, observations, hr]

lemma total_failures_updates :
    total (increments failures) (updates r) = if r.failed then 1 else 0 := by
  cases hr : r.failed <;> simp [updates, increments, hr, requests_ne_failures.symm]

/-- An exchange counts under two names, once at most under each. -/
lemma total_updates_le (name : Text) : total (increments name) (updates r) ≤ 1 := by
  by_cases hrequests : name = requests
  · rw [hrequests, total_requests_updates]
  · by_cases hfailures : name = failures
    · rw [hfailures, total_failures_updates]
      split <;> decide
    · cases hr : r.failed <;> simp [updates, increments, hr, hrequests, hfailures]

lemma increments_nonneg {u : Metrics.Update} (hu : u ∈ updates r) (name : Text) :
    0 ≤ u.increments name := by
  have hcases : u = .increment requests 1 ∨ u = .observe latency r.latencyMs ∨
      u = .increment failures 1 := by
    cases hr : r.failed <;> simp [updates, hr] at hu <;> tauto
  rcases hcases with rfl | rfl | rfl
  · rw [increments]
    split <;> decide
  · exact Int.le_refl 0
  · rw [increments]
    split <;> decide

end One

variable (exchanged : List (Http.Request × Http.Reply))

lemma total_requests_counts : total (increments requests) (counts exchanged) = exchanged.length := by
  induction exchanged with
  | nil => rfl
  | cons x xs ih =>
    rw [counts_cons, Metrics.total_append, total_requests_updates, ih, List.length_cons]
    omega

lemma total_latency_counts : total (observations latency) (counts exchanged) = exchanged.length := by
  induction exchanged with
  | nil => rfl
  | cons x xs ih =>
    rw [counts_cons, Metrics.total_append, total_latency_updates, ih, List.length_cons]
    omega

lemma total_failures_counts :
    total (increments failures) (counts exchanged) = exchanged.countP (·.2.failed) := by
  induction exchanged with
  | nil => rfl
  | cons x xs ih =>
    rw [counts_cons, Metrics.total_append, total_failures_updates, ih, List.countP_cons]
    split <;> omega

lemma total_counts_le (name : Text) :
    total (increments name) (counts exchanged) ≤ exchanged.length := by
  induction exchanged with
  | nil => exact Int.le_refl 0
  | cons x xs ih =>
    have hx := total_updates_le x.2 name
    rw [counts_cons, Metrics.total_append, List.length_cons]
    omega

/-- No counter of an exchange ever goes down, so words hold the counts of fewer than 2⁶³ exchanges. -/
lemma fits_counts (h : exchanged.length < 2 ^ 63) : Metrics.Fits (counts exchanged) := by
  refine Metrics.fits_of_nonneg (fun u hu name => ?_) fun name => ?_
  · obtain ⟨x, -, hx⟩ := List.mem_flatMap.1 hu
    exact increments_nonneg x.2 hx name
  · have hle := total_counts_le exchanged name
    omega

end Exchange

open Exchange (counts)

/-! ## Several exchanges -/

namespace Traffic

/-- What requests exchange: each with the reply that answers it. -/
def exchanged (t : Traffic) (qs : List Http.Request) : List (Http.Request × Http.Reply) :=
  qs.zip (Http.Reply.upcoming t.pending qs.length)

variable {t : Traffic} {format : DocumentFormat} {q : Http.Request} {qs : List Http.Request}

/-- The requests behind the first get the replies behind the first. -/
lemma exchanged_cons (t : Traffic) (q : Http.Request) (qs : List Http.Request) :
    t.exchanged (q :: qs) = (q, t.nextReply) :: (t.send q).exchanged qs := by
  rw [exchanged, List.length_cons, Http.Reply.upcoming_succ, List.zip_cons_cons]
  rfl

lemma exchanged_roundTrip (h : t.Opens format q) (qs : List Http.Request) :
    (Exchange.roundTrip format q t).2.exchanged qs = (t.send q).exchanged qs := by
  rw [exchanged, exchanged, Exchange.pending_roundTrip h, pending_send]

lemma map_fst_exchanged (t : Traffic) (qs : List Http.Request) :
    (t.exchanged qs).map Prod.fst = qs :=
  List.map_fst_zip (Nat.le_of_eq (Http.Reply.length_upcoming _ _).symm)

/-- Requests count what they exchange, and nothing else. -/
lemma metrics_after (h : t.OpensAll format qs) :
    (t.after format qs).metrics = t.metrics.map (·.applyAll (counts (t.exchanged qs))) := by
  induction qs generalizing t with
  | nil =>
    cases hm : t.metrics <;> simp [hm, exchanged, counts]
  | cons q qs ih =>
    have hq : t.Opens format q := h q List.mem_cons_self
    rw [after_cons, ih h.tail, Exchange.metrics_roundTrip hq, exchanged_roundTrip hq,
      exchanged_cons, Option.map_map]
    refine congrArg (t.metrics.map ·) (funext fun m => ?_)
    exact (m.applyAll_append _ _).symm

end Traffic

namespace Session

variable (s : Session) (format : DocumentFormat)

/-- What a turn exchanges: each request that it sends with the reply that answers it. -/
def exchangedBy (turn : Turn) : List (Http.Request × Http.Reply) :=
  (s.traffic turn.replies).exchanged (s.step format turn).1.sent

/-- What turns in order exchange. -/
def exchanged (s : Session) (format : DocumentFormat) :
    List Turn → List (Http.Request × Http.Reply)
  | [] => []
  | turn :: r => s.exchangedBy format turn ++ (s.step format turn).2.exchanged format r

/-- **A turn counts what it exchanges**, and nothing else. -/
lemma metrics_step (turn : Turn) :
    (s.step format turn).2.metrics =
      s.metrics.map (·.applyAll (counts (s.exchangedBy format turn))) := by
  obtain ⟨hopens, htraffic⟩ := s.exchanges_perform format turn
  show (s.perform format (s.traffic turn.replies) turn.step).traffic.metrics = _
  rw [htraffic, Traffic.metrics_after hopens]
  rfl

/-- **A run counts what it exchanges**, and nothing else. -/
lemma metrics_after (turns : List Turn) :
    (s.after format turns).metrics =
      s.metrics.map (·.applyAll (counts (s.exchanged format turns))) := by
  induction turns generalizing s with
  | nil => cases hm : s.metrics <;> simp [hm, exchanged, counts]
  | cons turn r ih =>
    rw [after_cons, ih, metrics_step, Option.map_map, exchanged, Exchange.counts_append]
    refine congrArg (s.metrics.map ·) (funext fun m => ?_)
    exact (m.applyAll_append _ _).symm

lemma map_fst_exchanged (turns : List Turn) :
    (s.exchanged format turns).map Prod.fst = (s.run format turns).flatMap (·.sent) := by
  induction turns generalizing s with
  | nil => rfl
  | cons turn r ih =>
    rw [exchanged, run_cons, List.map_append, List.flatMap_cons, ih, exchangedBy,
      Traffic.map_fst_exchanged]

/-- **Every exchange is accounted for exactly once.**  Take a session with an empty store of metrics
and any turns.

* The requests that the transport records are those of the exchanges, in order.
* The store is what the updates of the exchanges make of an empty one.  It counts as many requests and
  as many latencies as there are exchanges, and as failures the exchanges whose reply has an error or a
  status outside 200 to 299.  This is what a reading of the metrics answers.
* If there are fewer than 2⁶³ exchanges, counters in words of 64 bits read the same, after every single
  update. -/
theorem accounts_for_every_exchange (s : Session) (format : DocumentFormat) (turns : List Turn) :
    let start : Session := { s with metrics := some {} }
    let exchanged := start.exchanged format turns
    let failed := exchanged.countP fun x => x.2.error ≠ [] ∨ x.2.status < 200 ∨ 299 < x.2.status
    let updates := exchanged.flatMap fun x => Exchange.updates x.2
    exchanged.map Prod.fst = (start.run format turns).flatMap (·.sent) ∧
    (∃ m, (start.after format turns).metrics = some m ∧ m = Metrics.applyAll {} updates ∧
      m.counter (ascii "hub.requests") = exchanged.length ∧
      m.sampleCount (ascii "hub.request.latency_ms") = exchanged.length ∧
      m.counter (ascii "hub.request.failures") = failed) ∧
    (∀ replies, ((start.after format turns).step format ⟨.readMetrics, replies⟩).1.outcome =
      .ok (.counts exchanged.length failed exchanged.length)) ∧
    (exchanged.length < 2 ^ 63 → ∀ earlier, earlier <+: updates → ∀ name,
      (Metrics.wordCounter earlier name).toInt = (Metrics.applyAll {} earlier).counter name) := by
  intro start exchanged failed updates
  have hfailed : exchanged.countP (·.2.failed) = failed :=
    List.countP_congr fun x _ => by rw [Http.Reply.failed_iff, decide_eq_true_iff]
  let m := Metrics.applyAll {} updates
  have hm : (start.after format turns).metrics = some m := start.metrics_after format turns
  have hrequests : m.counter Exchange.requests = exchanged.length := by
    rw [Metrics.counter_applyAll, Metrics.counter_empty, zero_add]
    exact Exchange.total_requests_counts exchanged
  have hlatencies : m.sampleCount Exchange.latency = exchanged.length := by
    rw [Metrics.sampleCount_applyAll, Metrics.sampleCount_empty, zero_add]
    exact Exchange.total_latency_counts exchanged
  have hfailures : m.counter Exchange.failures = failed := by
    rw [Metrics.counter_applyAll, Metrics.counter_empty, zero_add, ← hfailed]
    exact Exchange.total_failures_counts exchanged
  refine ⟨start.map_fst_exchanged format turns, ⟨m, hm, rfl, hrequests, hlatencies, hfailures⟩,
    fun replies => ?_, fun hlength earlier hearlier name => ?_⟩
  · show Except.ok (Answer.counts
      (((start.after format turns).metrics.getD {}).counter Exchange.requests)
      (((start.after format turns).metrics.getD {}).counter Exchange.failures)
      (((start.after format turns).metrics.getD {}).sampleCount Exchange.latency)) = _
    rw [hm, Option.getD_some, hrequests, hlatencies, hfailures]
  · rw [Metrics.toInt_wordCounter name (Exchange.fits_counts exchanged hlength) hearlier,
      Metrics.counter_applyAll_eq, Metrics.counter_empty, zero_add]

/-- A handler that fetches again after a refusal, and a lookup that fails before it sends anything. -/
theorem accounts_for_every_exchange_retried :
    let turns : List Turn :=
      [⟨.connect true (ascii "v") (ascii "https://h"), []⟩,
        ⟨.request 0 .get (ascii "a") ∅ false .nothing (some .retry),
          [{ status := 503 }, { status := 204 }]⟩,
        ⟨.device 0 (ascii "d"), []⟩,
        ⟨.get 0 (ascii " "), [{ status := 204 }]⟩]
    let start : Session := { metrics := some {} }
    let updates := (start.exchanged .none turns).flatMap fun x => Exchange.updates x.2
    (start.exchanged .none turns).length = 2 ∧
    ((start.after .none turns).step .none ⟨.readMetrics, []⟩).1.outcome = .ok (.counts 2 1 2) ∧
    (Metrics.wordCounter updates (ascii "hub.requests")).toInt = 2 := by
  intro turns start updates
  obtain ⟨-, ⟨m, -, hm, hrequests, -⟩, hreading, hwords⟩ :=
    accounts_for_every_exchange {} .none turns
  have hlength : (start.exchanged .none turns).length = 2 := rfl
  refine ⟨hlength, hreading [], ?_⟩
  rw [hwords (by rw [hlength]; decide) updates (List.prefix_refl updates), ← hm, hrequests]
  exact congrArg Nat.cast hlength

end Session

end ModuleRegistry
