import ModuleRegistry.Proofs.Totals

/-!
# Readings of a store

A store of metrics is made of updates, and what it shows under a name is made of the updates of that
name alone: a counter of its increments (`Metrics.amounts`), a histogram of its observations
(`Metrics.values`) and a gauge of its settings (`Metrics.settings`), of which the last one counts.  A
store that held something before adds to it.

So it makes no difference to a reading which other updates there are, and for the two kinds that are
summed up, in which order the updates come.

Main statement: `Metrics.readings_exact`.
-/

namespace ModuleRegistry.Metrics

/-- What a store measures under a name. -/
inductive Kind where
  | counter
  | histogram
  | gauge
deriving DecidableEq

namespace Update

/-- The kind of metric that an update is about. -/
def kind : Update → Kind
  | .increment .. => .counter
  | .observe .. => .histogram
  | .gauge .. => .gauge

/-- The name that an update is about. -/
def name : Update → Text
  | .increment n _ => n
  | .observe n _ => n
  | .gauge n _ => n

/-- Whether an update is one of the given kind under the given name. -/
def concerns (k : Kind) (n : Text) (u : Update) : Bool := u.kind = k ∧ n = u.name

/-- The value that an update adds to the histogram of a name, if it adds one. -/
def value? (name : Text) : Update → Option Float
  | .observe n value => if name = n then some value else none
  | _ => none

/-- The value that an update gives to the gauge of a name, if it gives one. -/
def setting? (name : Text) : Update → Option Float
  | .gauge n value => if name = n then some value else none
  | _ => none

variable {u : Update} {name : Text}

lemma amount?_of_not_concerns (h : u.concerns .counter name = false) : u.amount? name = none := by
  cases u <;> simp_all [concerns, kind, Update.name, amount?]

lemma value?_of_not_concerns (h : u.concerns .histogram name = false) : u.value? name = none := by
  cases u <;> simp_all [concerns, kind, Update.name, value?]

lemma setting?_of_not_concerns (h : u.concerns .gauge name = false) : u.setting? name = none := by
  cases u <;> simp_all [concerns, kind, Update.name, setting?]

end Update

/-! ## What the updates of a name supply -/

/-- The values that updates observe under a name. -/
def values (name : Text) (us : List Update) : List Float := us.filterMap (Update.value? name)

/-- The values to which updates set the gauge of a name. -/
def settings (name : Text) (us : List Update) : List Float := us.filterMap (Update.setting? name)

lemma filterMap_filter_of_none {α : Type} {f : Update → Option α} {p : Update → Bool}
    (h : ∀ u, p u = false → f u = none) (us : List Update) :
    (us.filter p).filterMap f = us.filterMap f := by
  rw [List.filterMap_filter]
  refine List.filterMap_congr fun u _ => ?_
  cases hu : p u <;> simp [h, hu]

variable (m : Metrics) (u : Update) (us : List Update) (name : Text)

/-! ## Readings from any store -/

lemma samples_apply : (m.apply u).samples name = m.samples name ++ (u.value? name).toList := by
  cases u with
  | increment n amount => simp [apply, samples, Update.value?]
  | observe n value =>
    by_cases h : name = n
    · simp [apply, samples, Update.value?, h]
    · simp [apply, samples, Update.value?, h]
  | gauge n value => simp [apply, samples, Update.value?]

lemma samples_applyAll : (m.applyAll us).samples name = m.samples name ++ values name us := by
  induction us generalizing m with
  | nil => simp [values]
  | cons u us ih =>
    rw [applyAll_cons, ih, samples_apply, List.append_assoc, values, values, List.filterMap_cons]
    cases u.value? name <;> rfl

lemma get?_gauges_apply :
    (m.apply u).gauges.get? name = (u.setting? name).or (m.gauges.get? name) := by
  cases u with
  | increment n amount => simp [apply, Update.setting?]
  | observe n value => simp [apply, Update.setting?]
  | gauge n value =>
    by_cases h : name = n
    · simp [apply, Update.setting?, h]
    · simp [apply, Update.setting?, h]

lemma get?_gauges_applyAll :
    (m.applyAll us).gauges.get? name = (settings name us).getLast?.or (m.gauges.get? name) := by
  induction us generalizing m with
  | nil => rfl
  | cons u us ih =>
    rw [applyAll_cons, ih, get?_gauges_apply, settings, settings, List.filterMap_cons]
    cases u.setting? name with
    | none => rfl
    | some value =>
      rw [List.getLast?_cons]
      cases (us.filterMap (Update.setting? name)).getLast? <;> rfl

/-- **A store reads exactly what was put under a name.**

* After any of the updates, a counter is the sum of the amounts of its name, and a histogram has as many
  values as were observed under its name.  The counter is the same if it is kept in a word, provided
  that the sums fit.
* Whatever the store held before, no reading depends on the updates of another kind or name.
* Updates in another order give the same counters and histogram sizes. -/
theorem readings_exact :
    (∀ earlier, earlier <+: us → ∀ name,
      (applyAll {} earlier).counter name = (amounts name earlier).sum ∧
      (applyAll {} earlier).sampleCount name = (values name earlier).length ∧
      (Fits us → (wordCounter earlier name).toInt = (amounts name earlier).sum)) ∧
    (∀ (m : Metrics) (name : Text),
      let only (k : Kind) := m.applyAll (us.filter (Update.concerns k name))
      (m.applyAll us).counter name = (only .counter).counter name ∧
      (m.applyAll us).samples name = (only .histogram).samples name ∧
      (m.applyAll us).gauges.get? name = (only .gauge).gauges.get? name) ∧
    ∀ us', us.Perm us' → ∀ name,
      (applyAll {} us').counter name = (applyAll {} us).counter name ∧
      (applyAll {} us').sampleCount name = (applyAll {} us).sampleCount name := by
  refine ⟨fun earlier hearlier name => ⟨?_, ?_, fun hfits => ?_⟩, fun m name => ⟨?_, ?_, ?_⟩,
    fun us' hperm name => ⟨?_, ?_⟩⟩
  · rw [counter_applyAll_eq, counter_empty, zero_add]
  · rw [sampleCount, samples_applyAll]
    rfl
  · exact toInt_wordCounter name hfits hearlier
  · rw [counter_applyAll_eq, counter_applyAll_eq, amounts, amounts,
      filterMap_filter_of_none fun u => Update.amount?_of_not_concerns]
  · rw [samples_applyAll, samples_applyAll, values, values,
      filterMap_filter_of_none fun u => Update.value?_of_not_concerns]
  · rw [get?_gauges_applyAll, get?_gauges_applyAll, settings, settings,
      filterMap_filter_of_none fun u => Update.setting?_of_not_concerns]
  · rw [counter_applyAll, counter_applyAll, total_perm _ hperm]
  · rw [sampleCount_applyAll, sampleCount_applyAll, total_perm _ hperm]

/-- The empty name is used for all three kinds.  Its counter goes up to the greatest word and down again;
backwards it goes below zero first. -/
theorem readings_exact_bounds :
    let us : List Update :=
      [.increment [] (2 ^ 63 - 1), .observe [] 1, .increment [] (-1), .gauge [] 2]
    Fits us ∧ (wordCounter us []).toInt = 2 ^ 63 - 2 ∧
      (applyAll {} us).counter [] = 2 ^ 63 - 2 ∧
      (applyAll {} us.reverse).counter [] = (applyAll {} us).counter [] ∧
      (applyAll {} us.reverse).sampleCount [] = 1 := by
  intro us
  have hfits : Fits us := by
    have hempty : ∀ earlier ∈ us.inits,
        -2 ^ 63 ≤ (amounts [] earlier).sum ∧ (amounts [] earlier).sum < 2 ^ 63 := by decide
    intro earlier hearlier name
    cases name with
    | nil => exact hempty earlier ((List.mem_inits _ _).2 hearlier)
    | cons b r =>
      have hothers : ∀ u ∈ us, u.amount? (b :: r) = none := by simp [us, Update.amount?]
      have hnone : amounts (b :: r) earlier = [] :=
        List.filterMap_eq_nil_iff.2 fun u hu => hothers u (hearlier.subset hu)
      rw [hnone]
      decide
  obtain ⟨hexact, -, hperm⟩ := readings_exact us
  obtain ⟨hcounter, hcount, hword⟩ := hexact us (List.prefix_refl us) []
  obtain ⟨hcounter', hcount'⟩ := hperm us.reverse (List.reverse_perm us).symm []
  exact ⟨hfits, hword hfits, hcounter, hcounter', hcount'.trans hcount⟩

end ModuleRegistry.Metrics
