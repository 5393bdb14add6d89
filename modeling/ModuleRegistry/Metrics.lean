import ModuleRegistry.Table

/-!
# Metrics

A store of named measurements in memory.  A counter is a sum of increments, a histogram the list of
the values observed, a gauge the value set last.  The three kinds are separate: an update of one
kind changes no reading of another, even under the same name, and a name that was never used reads
as zero.

The store is changed by `Update`s, so that a run of the library can be described by the updates that
it makes and these can be counted or interleaved before they are applied.
-/

namespace ModuleRegistry

/-- The counters, histograms and gauges of a run. -/
structure Metrics where
  counters : Table Int := ∅
  histograms : Table (List Float) := ∅
  gauges : Table Float := ∅

namespace Metrics

instance : Inhabited Metrics := ⟨{}⟩

/-- One change of a store. -/
inductive Update where
  | increment (name : Text) (amount : Int)
  | observe (name : Text) (value : Float)
  | gauge (name : Text) (value : Float)

/-! ## Readings -/

/-- The value of a counter; one that was never incremented stands at zero. -/
def counter (m : Metrics) (name : Text) : Int := (m.counters.get? name).getD 0

/-- The values of a histogram, oldest first. -/
def samples (m : Metrics) (name : Text) : List Float := (m.histograms.get? name).getD []

/-- How many values a histogram holds. -/
def sampleCount (m : Metrics) (name : Text) : Nat := (m.samples name).length

@[simp] theorem counter_empty (name : Text) : ({} : Metrics).counter name = 0 := rfl

@[simp] theorem sampleCount_empty (name : Text) : ({} : Metrics).sampleCount name = 0 := rfl

/-! ## Updates -/

/-- A store when one update has been made. -/
def apply (m : Metrics) : Update → Metrics
  | .increment name amount =>
    { m with counters := m.counters.insert name (m.counter name + amount) }
  | .observe name value =>
    { m with histograms := m.histograms.insert name (m.samples name ++ [value]) }
  | .gauge name value => { m with gauges := m.gauges.insert name value }

/-- A store when some updates have been made, one after the other. -/
def applyAll (m : Metrics) (updates : List Update) : Metrics := updates.foldl apply m

@[simp] theorem applyAll_nil (m : Metrics) : m.applyAll [] = m := rfl

@[simp] theorem applyAll_cons (m : Metrics) (u : Update) (r : List Update) :
    m.applyAll (u :: r) = (m.apply u).applyAll r := rfl

@[simp] theorem applyAll_append (m : Metrics) (a b : List Update) :
    m.applyAll (a ++ b) = (m.applyAll a).applyAll b :=
  List.foldl_append

/-- What an update adds to the counter of a name. -/
def Update.increments (name : Text) : Update → Int
  | .increment n amount => if name = n then amount else 0
  | _ => 0

/-- How many values an update adds to the histogram of a name. -/
def Update.observations (name : Text) : Update → Nat
  | .observe n _ => if name = n then 1 else 0
  | _ => 0

theorem counter_apply (m : Metrics) (u : Update) (name : Text) :
    (m.apply u).counter name = m.counter name + u.increments name := by
  cases u with
  | increment n amount =>
    by_cases h : name = n <;> simp [apply, counter, Update.increments, h]
  | observe n value => simp [apply, counter, Update.increments]
  | gauge n value => simp [apply, counter, Update.increments]

theorem sampleCount_apply (m : Metrics) (u : Update) (name : Text) :
    (m.apply u).sampleCount name = m.sampleCount name + u.observations name := by
  cases u with
  | increment n amount => simp [apply, sampleCount, samples, Update.observations]
  | observe n value =>
    by_cases h : name = n <;> simp [apply, sampleCount, samples, Update.observations, h]
  | gauge n value => simp [apply, sampleCount, samples, Update.observations]

end Metrics

end ModuleRegistry
