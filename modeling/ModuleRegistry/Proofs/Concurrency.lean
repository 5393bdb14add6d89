import Mathlib.Logic.Relation
import ModuleRegistry.Proofs.Accounting

/-!
# Exchanges side by side

Calls run on tasks of their own and share one store of metrics.  An exchange makes its updates one by
one, each of them whole, and between any two of them other exchanges make theirs and readers look at
the store.

An `Exchange.Underway` is an exchange somewhere between its first update and its last; that what it has
made and what it has left are the updates of its reply, in their order, is part of the type.  A `Pool`
holds a store and the exchanges that share it, and in a `Pool.Step` any one of them makes its next
update.  A schedule is a sequence of such steps.

The invariant (`Pool.Counted`) is that the store is what the updates made so far give in some order.
Order does not matter to the readings, so these are sums over the exchanges, and of every exchange,
however far it is, it has counted no more failures than latencies and no more latencies than requests.

Main statement: `Pool.readings_consistent`.
-/

namespace ModuleRegistry

open Text (ascii)

/-! ## Exchanges under way -/

open Metrics (total)
open Metrics.Update (increments observations)

namespace Exchange

/-- An exchange that has made some of its updates and has the others left. -/
structure Underway where
  reply : Http.Reply
  made : List Metrics.Update
  left : List Metrics.Update
  split : made ++ left = updates reply

namespace Underway

/-- The exchange that has everything left to count. -/
def start (r : Http.Reply) : Underway := ⟨r, [], updates r, rfl⟩

/-- The exchange that has nothing left to count. -/
def finish (r : Http.Reply) : Underway := ⟨r, updates r, [], List.append_nil _⟩

@[simp] lemma reply_start (r : Http.Reply) : (start r).reply = r := rfl

@[simp] lemma made_start (r : Http.Reply) : (start r).made = [] := rfl

lemma made_eq_of_left {x : Underway} (h : x.left = []) : x.made = updates x.reply := by
  have hsplit := x.split
  rwa [h, List.append_nil] at hsplit

lemma made_eq (x : Underway) :
    x.made = [] ∨ x.made = [.increment requests 1] ∨
      x.made = [.increment requests 1, .observe latency x.reply.latencyMs] ∨
      x.made = updates x.reply := by
  obtain ⟨r, made, left, hsplit⟩ := x
  rcases made with _ | ⟨a, _ | ⟨b, _ | ⟨c, rest⟩⟩⟩
  · exact .inl rfl
  · obtain ⟨rfl, -⟩ : a = .increment requests 1 ∧ _ := by simpa [updates] using hsplit
    exact .inr (.inl rfl)
  · obtain ⟨rfl, rfl, -⟩ :
        a = .increment requests 1 ∧ b = .observe latency r.latencyMs ∧ _ := by
      simpa [updates] using hsplit
    exact .inr (.inr (.inl rfl))
  · -- three updates are all that an exchange makes, so nothing is left
    have hlength : (updates r).length ≤ 3 := by cases hr : r.failed <;> simp [updates, hr]
    have hleft : left = [] := by
      have hsum := congrArg List.length hsplit
      simp only [List.length_append, List.length_cons] at hsum
      exact List.eq_nil_of_length_eq_zero (by omega)
    exact .inr (.inr (.inr (made_eq_of_left hleft)))

/-- **However far an exchange is**, it has counted no failure without its latency, and no latency
without its request. -/
lemma totals_le (x : Underway) :
    total (increments failures) x.made ≤ total (observations latency) x.made ∧
      ((total (observations latency) x.made : Nat) : Int) ≤ total (increments requests) x.made := by
  rcases x.made_eq with h | h | h | h
  · simp [h]
  · simp [h, increments, observations, requests_ne_failures.symm]
  · simp [h, increments, observations, requests_ne_failures.symm]
  · rw [h, total_failures_updates, total_latency_updates, total_requests_updates]
    split <;> simp

end Underway

end Exchange

/-! ## Pools -/

/-- A store of metrics with the exchanges that share it. -/
structure Pool where
  metrics : Metrics
  exchanges : List Exchange.Underway

namespace Pool

/-- The exchanges that get the given replies, before any of them has counted anything. -/
def start (replies : List Http.Reply) : Pool := ⟨{}, replies.map Exchange.Underway.start⟩

/-- Any one of the exchanges makes its next update. -/
inductive Step : Pool → Pool → Prop
  | update {m : Metrics} {before after : List Exchange.Underway} {r : Http.Reply}
      {made left : List Metrics.Update} {u : Metrics.Update}
      (h : made ++ u :: left = Exchange.updates r)
      (h' : made ++ [u] ++ left = Exchange.updates r) :
      Step ⟨m, before ++ ⟨r, made, u :: left, h⟩ :: after⟩
        ⟨m.apply u, before ++ ⟨r, made ++ [u], left, h'⟩ :: after⟩

/-- A schedule leads from one pool to the other. -/
abbrev Reaches : Pool → Pool → Prop := Relation.ReflTransGen Step

/-- No exchange of a pool has anything left to count. -/
def Finished (p : Pool) : Prop := ∀ x ∈ p.exchanges, x.left = []

/-- The updates made so far, exchange by exchange. -/
def made (p : Pool) : List Metrics.Update := p.exchanges.flatMap (·.made)

/-- The store of a pool is what the updates made so far give in some order, and the exchanges are
those of the given replies. -/
structure Counted (replies : List Http.Reply) (p : Pool) : Prop where
  replies : p.exchanges.map (·.reply) = replies
  metrics : ∃ us, p.metrics = Metrics.applyAll {} us ∧ us.Perm p.made

variable {replies : List Http.Reply} {p q : Pool}

lemma counted_start (replies : List Http.Reply) : (start replies).Counted replies := by
  constructor
  · simp [start, Function.comp_def]
  · refine ⟨[], rfl, ?_⟩
    simp [made, start]

/-- A step adds one update to those made, wherever its exchange stands among the others. -/
lemma Counted.step (h : p.Counted replies) (hstep : Step p q) : q.Counted replies := by
  cases hstep with
  | @update m before after r made left u hsplit hsplit' =>
    obtain ⟨hreplies, us, hm, hperm⟩ := h
    refine ⟨by simpa using hreplies, us ++ [u], ?_, ?_⟩
    · have hm' : m = Metrics.applyAll {} us := hm
      show m.apply u = _
      rw [Metrics.applyAll_append, ← hm']
      rfl
    · let b := before.flatMap (·.made)
      let a := after.flatMap (·.made)
      have hmade : us.Perm (b ++ made ++ a) := by simpa [Pool.made, b, a] using hperm
      have hnext : (us ++ [u]).Perm (b ++ made ++ [u] ++ a) := by
        calc (us ++ [u]).Perm (b ++ made ++ a ++ [u]) := hmade.append_right [u]
          _ = b ++ made ++ (a ++ [u]) := List.append_assoc ..
          List.Perm _ (b ++ made ++ ([u] ++ a)) := List.perm_append_comm.append_left _
          _ = b ++ made ++ [u] ++ a := (List.append_assoc ..).symm
      simpa [Pool.made, b, a] using hnext

lemma counted_of_reaches (h : Reaches (start replies) p) : p.Counted replies := by
  induction h with
  | refl => exact counted_start replies
  | tail _ hstep ih => exact ih.step hstep

/-- The others stand still while one exchange makes all the updates that it has left. -/
lemma reaches_alone (m : Metrics) (before after : List Exchange.Underway) {r : Http.Reply}
    {made left : List Metrics.Update} (h : made ++ left = Exchange.updates r) :
    Reaches ⟨m, before ++ ⟨r, made, left, h⟩ :: after⟩
      ⟨m.applyAll left, before ++ .finish r :: after⟩ := by
  induction left generalizing m made with
  | nil =>
    obtain rfl : made = Exchange.updates r := by rwa [List.append_nil] at h
    exact .refl
  | cons u left ih =>
    have h' : made ++ [u] ++ left = Exchange.updates r := by
      rw [← h, List.append_assoc, List.singleton_append]
    exact .head (.update h h') (ih (m.apply u) h')

/-- **An exchange that is not disturbed is a schedule** in which only it makes updates, whichever the
others are and wherever they stand.  If the log does not let it begin, it makes none. -/
theorem reaches_roundTrip (format : DocumentFormat) (q : Http.Request) (t : Traffic)
    (before after : List Exchange.Underway) {m : Metrics} (h : t.metrics = some m) :
    ∃ m', (Exchange.roundTrip format q t).2.metrics = some m' ∧
      (t.Opens format q → Reaches ⟨m, before ++ .start t.nextReply :: after⟩
        ⟨m', before ++ .finish t.nextReply :: after⟩) ∧
      (¬t.Opens format q → m' = m) := by
  by_cases hopens : t.Opens format q
  · have hsplit : [] ++ Exchange.updates t.nextReply = Exchange.updates t.nextReply := rfl
    refine ⟨m.applyAll (Exchange.updates t.nextReply), ?_,
      fun _ => reaches_alone m before after hsplit, fun hnot => absurd hopens hnot⟩
    rw [Exchange.metrics_roundTrip hopens, h, Option.map_some]
  · obtain ⟨reason, hreason⟩ := Option.ne_none_iff_exists'.1 hopens
    refine ⟨m, ?_, fun hopens' => absurd hopens' hopens, fun _ => rfl⟩
    rw [Exchange.roundTrip_of_fault? hreason, h]

/-! ### Readings of a pool -/

lemma Counted.counter (h : p.Counted replies) (name : Text) :
    p.metrics.counter name = total (increments name) p.made := by
  obtain ⟨-, us, hm, hperm⟩ := h
  rw [hm, Metrics.counter_applyAll, Metrics.counter_empty, zero_add, Metrics.total_perm _ hperm]

lemma Counted.sampleCount (h : p.Counted replies) (name : Text) :
    p.metrics.sampleCount name = total (observations name) p.made := by
  obtain ⟨-, us, hm, hperm⟩ := h
  rw [hm, Metrics.sampleCount_applyAll, Metrics.sampleCount_empty, zero_add,
    Metrics.total_perm _ hperm]

open Exchange (requests latency failures)

/-- Exchange by exchange the counts are in order, so their sums are. -/
lemma Counted.readings_le (h : p.Counted replies) :
    p.metrics.counter failures ≤ p.metrics.sampleCount latency ∧
      (p.metrics.sampleCount latency : Int) ≤ p.metrics.counter requests := by
  rw [h.counter, h.counter, h.sampleCount, made]
  generalize p.exchanges = xs
  induction xs with
  | nil => simp
  | cons x xs ih =>
    obtain ⟨hfailures, hlatency⟩ := x.totals_le
    simp only [List.flatMap_cons, Metrics.total_append, Int.natCast_add]
    omega

/-- An exchange that is done has counted its request and its latency, and its failure if it failed. -/
lemma Counted.readings_of_finished (h : p.Counted replies) (hfinished : p.Finished) :
    p.metrics.counter requests = replies.length ∧
      p.metrics.sampleCount latency = replies.length ∧
      p.metrics.counter failures = replies.countP (·.failed) := by
  have hmade : ∀ x ∈ p.exchanges, x.made = Exchange.updates x.reply := fun x hx =>
    Exchange.Underway.made_eq_of_left (hfinished x hx)
  rw [h.counter, h.counter, h.sampleCount, ← h.replies, made]
  generalize p.exchanges = xs at hmade
  clear h hfinished
  induction xs with
  | nil => simp
  | cons x xs ih =>
    obtain ⟨hrequests, hlatency, hfailures⟩ := ih fun y hy => hmade y (List.mem_cons_of_mem x hy)
    have hx : x.made = Exchange.updates x.reply := hmade x List.mem_cons_self
    simp only [List.flatMap_cons, Metrics.total_append, List.map_cons, List.length_cons,
      List.countP_cons, hx, hrequests, hlatency, hfailures, Exchange.total_requests_updates,
      Exchange.total_latency_updates, Exchange.total_failures_updates]
    refine ⟨by push_cast; omega, by omega, ?_⟩
    split <;> simp [add_comm]

/-! ### Schedules that end -/

/-- How many updates are left to make. -/
def remaining (p : Pool) : Nat := (p.exchanges.flatMap (·.left)).length

/-- Unless all exchanges are done, one of them can go on, whatever the others do. -/
lemma exists_step_of_not_finished (h : ¬p.Finished) :
    ∃ q, Step p q ∧ p.remaining = q.remaining + 1 := by
  obtain ⟨x, hx, hleft⟩ : ∃ x ∈ p.exchanges, x.left ≠ [] := by
    simpa [Finished] using h
  obtain ⟨before, after, hp⟩ := List.append_of_mem hx
  obtain ⟨r, made, _ | ⟨u, left⟩, hsplit⟩ := x
  · exact absurd rfl hleft
  · have hsplit' : made ++ [u] ++ left = Exchange.updates r := by
      rw [← hsplit, List.append_assoc, List.singleton_append]
    obtain ⟨m, exchanges⟩ := p
    obtain rfl : exchanges = _ := hp
    refine ⟨_, .update hsplit hsplit', ?_⟩
    simp only [remaining, List.flatMap_append, List.flatMap_cons, List.length_append,
      List.length_cons]
    omega

lemma exists_finished (p : Pool) : ∃ q, Reaches p q ∧ q.Finished := by
  induction hn : p.remaining generalizing p with
  | zero =>
    refine ⟨p, .refl, ?_⟩
    by_contra h
    obtain ⟨q, -, hq⟩ := exists_step_of_not_finished h
    omega
  | succ n ih =>
    by_cases h : p.Finished
    · exact ⟨p, .refl, h⟩
    · obtain ⟨q, hstep, hq⟩ := exists_step_of_not_finished h
      obtain ⟨q', hreaches, hfinished⟩ := ih q (by omega)
      exact ⟨q', .head hstep hreaches, hfinished⟩

/-- **Whoever reads while exchanges are under way reads counts that agree**: no more failures than
latencies and no more latencies than requests, wherever the schedule stands.  When all exchanges are
done, which a schedule can always come to, the counts do not depend on the schedule: they are the
number of exchanges, the same number, and the number of those that failed.

The updates of a schedule are those that exchanges make: from a store that it shares with any other
exchanges under way, an exchange goes from its start to its end in a schedule where the others stand
still, or counts nothing if the log does not let it begin. -/
theorem readings_consistent (replies : List Http.Reply) (p : Pool)
    (h : Reaches (start replies) p) :
    (p.metrics.counter (ascii "hub.request.failures") ≤
        p.metrics.sampleCount (ascii "hub.request.latency_ms") ∧
      (p.metrics.sampleCount (ascii "hub.request.latency_ms") : Int) ≤
        p.metrics.counter (ascii "hub.requests")) ∧
    (p.Finished →
      p.metrics.counter (ascii "hub.requests") = replies.length ∧
      p.metrics.sampleCount (ascii "hub.request.latency_ms") = replies.length ∧
      p.metrics.counter (ascii "hub.request.failures") =
        replies.countP fun r => r.error ≠ [] ∨ ¬(200 ≤ r.status ∧ r.status ≤ 299)) ∧
    (∃ q, Reaches p q ∧ q.Finished) ∧
    ∀ (format : DocumentFormat) (q : Http.Request) (t : Traffic)
      (before after : List Exchange.Underway) (m : Metrics), t.metrics = some m →
      ∃ m', (Exchange.roundTrip format q t).2.metrics = some m' ∧
        (t.Opens format q → Reaches ⟨m, before ++ .start t.nextReply :: after⟩
          ⟨m', before ++ .finish t.nextReply :: after⟩) ∧
        (¬t.Opens format q → m' = m) := by
  have hcounted := counted_of_reaches h
  refine ⟨hcounted.readings_le, fun hfinished => ?_, exists_finished p,
    fun format q t before after m hm => reaches_roundTrip format q t before after hm⟩
  obtain ⟨hrequests, hlatency, hfailures⟩ := hcounted.readings_of_finished hfinished
  refine ⟨hrequests, hlatency, hfailures.trans ?_⟩
  have hsame : replies.countP (·.failed) =
      replies.countP fun r => r.error ≠ [] ∨ ¬(200 ≤ r.status ∧ r.status ≤ 299) := by
    refine List.countP_congr fun r _ => ?_
    simp [Http.Reply.failed_iff]
  rw [hsame]

/-- Two exchanges in turns, of which the second fails. -/
theorem readings_consistent_in_turns :
    let kept : Http.Reply := { status := 204 }
    let lost : Http.Reply := { error := ascii "connection reset" }
    ∃ p, Reaches (start [kept, lost]) p ∧ p.Finished ∧
      p.metrics.counter (ascii "hub.requests") = 2 ∧
      p.metrics.sampleCount (ascii "hub.request.latency_ms") = 2 ∧
      p.metrics.counter (ascii "hub.request.failures") = 1 := by
  intro kept lost
  let asked : Metrics.Update := .increment requests 1
  let timed : Metrics.Update := .observe latency 0
  let failed : Metrics.Update := .increment failures 1
  have h₁ := @Step.update {} [.start kept] [] lost [] [timed, failed] asked rfl rfl
  have h₂ := @Step.update (.applyAll {} [asked]) [] [⟨lost, [asked], [timed, failed], rfl⟩]
    kept [] [timed] asked rfl rfl
  have h₃ := @Step.update (.applyAll {} [asked, asked]) [⟨kept, [asked], [timed], rfl⟩] []
    lost [asked] [failed] timed rfl rfl
  have h₄ := @Step.update (.applyAll {} [asked, asked, timed]) [⟨kept, [asked], [timed], rfl⟩] []
    lost [asked, timed] [] failed rfl rfl
  have h₅ := @Step.update (.applyAll {} [asked, asked, timed, failed]) []
    [⟨lost, [asked, timed, failed], [], rfl⟩] kept [asked] [] timed rfl rfl
  let p : Pool := ⟨.applyAll {} [asked, asked, timed, failed, timed],
    [⟨kept, [asked, timed], [], rfl⟩, ⟨lost, [asked, timed, failed], [], rfl⟩]⟩
  have hreaches : Reaches (start [kept, lost]) p :=
    ((((Relation.ReflTransGen.single h₁).tail h₂).tail h₃).tail h₄).tail h₅
  have hfinished : p.Finished := by simp [p, Finished]
  exact ⟨p, hreaches, hfinished, (readings_consistent [kept, lost] p hreaches).2.1 hfinished⟩

end Pool

end ModuleRegistry
