import Mathlib.Algebra.BigOperators.Group.List.Basic
import Mathlib.Algebra.Order.BigOperators.Group.List
import Mathlib.Algebra.Ring.Int.Defs
import Mathlib.Data.List.Induction
import Mathlib.Data.List.Infix
import Mathlib.Tactic.Lemma
import ModuleRegistry.Metrics

/-!
# Totals of updates

The counters and the sizes of histograms in a store are sums: what the store held before, and what
each update adds.  `Metrics.total` is such a sum, and as a sum it does not depend on the order of the
updates (`total_perm`).

A counter here is an integer of any size.  `Metrics.wordCounter` is what a store shows that keeps its
counters in words of 64 bits.  As long as the sums fit into a word (`Metrics.Fits`), it is the same
(`toInt_wordCounter`); updates that never take anything away fit if they do at the end
(`fits_of_nonneg`).
-/

namespace ModuleRegistry.Metrics

/-! ## Readings are sums -/

/-- What updates amount to together, if `f` says what each of them amounts to. -/
def total {M : Type} [AddCommMonoid M] (f : Update → M) (us : List Update) : M := (us.map f).sum

section Total

variable {M : Type} [AddCommMonoid M] (f : Update → M)

@[simp] lemma total_nil : total f [] = 0 := rfl

@[simp] lemma total_cons (u : Update) (us : List Update) :
    total f (u :: us) = f u + total f us := by
  rw [total, List.map_cons, List.sum_cons, total]

lemma total_perm {us vs : List Update} (h : us.Perm vs) : total f us = total f vs :=
  (h.map f).sum_eq

lemma total_append (us vs : List Update) : total f (us ++ vs) = total f us + total f vs := by
  rw [total, List.map_append, List.sum_append, total, total]

end Total

lemma counter_applyAll (m : Metrics) (us : List Update) (name : Text) :
    (m.applyAll us).counter name = m.counter name + total (Update.increments name) us := by
  induction us generalizing m with
  | nil => simp
  | cons u us ih => rw [applyAll_cons, ih, counter_apply, total_cons, add_assoc]

lemma sampleCount_applyAll (m : Metrics) (us : List Update) (name : Text) :
    (m.applyAll us).sampleCount name =
      m.sampleCount name + total (Update.observations name) us := by
  induction us generalizing m with
  | nil => simp
  | cons u us ih => rw [applyAll_cons, ih, sampleCount_apply, total_cons, add_assoc]

/-! ## The amounts of a counter -/

/-- The amount by which an update increments the counter of a name, if it is one of that counter. -/
def Update.amount? (name : Text) : Update → Option Int
  | .increment n amount => if name = n then some amount else none
  | _ => none

/-- The amounts by which updates increment the counter of a name. -/
def amounts (name : Text) (us : List Update) : List Int := us.filterMap (Update.amount? name)

lemma Update.increments_eq (u : Update) (name : Text) :
    u.increments name = (u.amount? name).getD 0 := by
  cases u with
  | increment n amount => by_cases h : name = n <;> simp [increments, amount?, h]
  | observe n value => rfl
  | gauge n value => rfl

variable (m : Metrics) (u : Update) (us : List Update) (name : Text)

lemma total_increments_eq : total (Update.increments name) us = (amounts name us).sum := by
  induction us with
  | nil => rfl
  | cons u us ih =>
    rw [total_cons, ih, Update.increments_eq, amounts, amounts, List.filterMap_cons]
    cases u.amount? name <;> simp

lemma counter_applyAll_eq : (m.applyAll us).counter name = m.counter name + (amounts name us).sum := by
  rw [counter_applyAll, total_increments_eq]

/-! ## Counters in words -/

/-- Counters that are kept in words of 64 bits, after one more update. -/
def countWord (words : Table Int64) : Update → Table Int64
  | .increment name amount =>
    words.insert name ((words.get? name).getD 0 + Int64.ofInt amount)
  | _ => words

/-- The counter of a name after some updates, kept in a word of 64 bits. -/
def wordCounter : Int64 := ((us.foldl countWord ∅).get? name).getD 0

/-- The sum of each counter fits into a word after any of the updates. -/
def Fits : Prop :=
  ∀ earlier, earlier <+: us → ∀ name,
    -2 ^ 63 ≤ (amounts name earlier).sum ∧ (amounts name earlier).sum < 2 ^ 63

lemma getD_countWord (words : Table Int64) :
    ((countWord words u).get? name).getD 0 =
      (words.get? name).getD 0 + Int64.ofInt (u.increments name) := by
  cases u with
  | increment n amount =>
    by_cases h : name = n
    · simp [countWord, Update.increments, h]
    · simp [countWord, Update.increments, h]
  | observe n value => simp [countWord, Update.increments]
  | gauge n value => simp [countWord, Update.increments]

lemma wordCounter_eq : wordCounter us name = Int64.ofInt (amounts name us).sum := by
  rw [← total_increments_eq, wordCounter]
  induction us using List.reverseRecOn with
  | nil => rfl
  | append_singleton us u ih =>
    rw [List.foldl_append, List.foldl_cons, List.foldl_nil, getD_countWord, ih, total_append,
      total_cons, total_nil, add_zero, Int64.ofInt_add]

variable {us}

lemma toInt_wordCounter (h : Fits us) {earlier : List Update} (hearlier : earlier <+: us) :
    (wordCounter earlier name).toInt = (amounts name earlier).sum := by
  obtain ⟨hlow, hhigh⟩ := h earlier hearlier name
  rw [wordCounter_eq, Int64.toInt_ofInt_of_le hlow hhigh]

/-- What is left of the updates can only add, so an earlier sum is between zero and the last one. -/
lemma fits_of_nonneg (hnonneg : ∀ u ∈ us, ∀ name, 0 ≤ u.increments name)
    (hlast : ∀ name, total (Update.increments name) us < 2 ^ 63) : Fits us := by
  have htotal (vs : List Update) (h : ∀ u ∈ vs, u ∈ us) (name : Text) :
      0 ≤ total (Update.increments name) vs := by
    refine List.sum_nonneg fun n hn => ?_
    obtain ⟨u, hu, rfl⟩ := List.mem_map.1 hn
    exact hnonneg u (h u hu) name
  rintro earlier ⟨rest, rfl⟩ name
  have hearlier := htotal earlier (fun u hu => List.mem_append_left rest hu) name
  have hrest := htotal rest (fun u hu => List.mem_append_right earlier hu) name
  have hsum := hlast name
  rw [total_append] at hsum
  rw [← total_increments_eq]
  omega

end ModuleRegistry.Metrics
