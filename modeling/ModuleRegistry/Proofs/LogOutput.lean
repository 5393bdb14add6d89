import Mathlib.Data.List.Basic
import ModuleRegistry.Proofs.Records

/-!
# What a logger writes

A logger of records takes one entry after the other, each at its time, and appends a line to its output
or nothing (`Log.Logger.append`).  What it has written after all of them is what the accepted ones give,
in their order (`Log.Logger.output_eq`).

Which entries are accepted is up to the name of a level that the logger was made with.
`Log.Level.Means` says what a name means without the reader of names: the six levels are called by their
own names, and a name that is none of these means `info`.

How an entry is written is up to its parts.  The fields come as a list, in which a key may occur more
than once; the record lists each key once, in ascending order, with the value supplied last.

Main statement: `Log.Logger.output_canonical`.
-/

namespace ModuleRegistry

open Text (ascii)

namespace Log

/-! ## Names of levels -/

/-- What a name means as the level of a logger. -/
inductive Level.Means : Text → Level → Prop
  | named (l : Level) : Means l.name l
  | other {s : Text} (h : ∀ l : Level, s ≠ l.name) : Means s .info

lemma Level.means_iff {s : Text} {l : Level} : Means s l ↔ l = ofName s := by
  constructor
  · rintro (_ | h)
    · exact (ofName_name l).symm
    · exact (ofName_of_forall_ne h).symm
  · rintro rfl
    exact ofName_cases .named (fun _ h => .other h) s

/-! ## Output -/

/-- An entry at the time at which it is logged. -/
structure Event where
  stamp : Text
  entry : Entry
deriving DecidableEq

/-- The line of an event, with its end. -/
def Event.line (v : Event) : Text := v.entry.line v.stamp

namespace Logger

/-- The output of a logger of records after one more event. -/
def append (l : Logger) (output : Text) (v : Event) : Text :=
  if l.accepts v.entry then output ++ v.line else output

/-- The output of a logger of records after some events. -/
def output (l : Logger) (events : List Event) : Text := events.foldl l.append []

/-- The events that a logger writes. -/
def written (l : Logger) (events : List Event) : List Event := events.filter (l.accepts ·.entry)

lemma append_eq (l : Logger) (output : Text) (v : Event) :
    l.append output v = output ++ (l.written [v]).flatMap Event.line := by
  cases h : l.accepts v.entry <;> simp [append, written, h]

lemma foldl_append_eq (l : Logger) (output : Text) (events : List Event) :
    events.foldl l.append output = output ++ (l.written events).flatMap Event.line := by
  induction events generalizing output with
  | nil => exact (List.append_nil output).symm
  | cons v r ih =>
    have hcons : l.written (v :: r) = l.written [v] ++ l.written r :=
      List.filter_append [v] r
    rw [List.foldl_cons, ih, append_eq, hcons, List.flatMap_append, List.append_assoc]

/-- **The output is that of the accepted events**, one after the other. -/
lemma output_eq (l : Logger) (events : List Event) :
    l.output events = (l.written events).flatMap Event.line :=
  l.foldl_append_eq [] events

/-- What is written are the events whose entries are kept. -/
lemma map_entry_written (l : Logger) (events : List Event) :
    (l.written events).map Event.entry = l.keep (events.map Event.entry) := by
  rw [written, keep, List.filter_map]
  rfl

lemma written_eq_of_means {name : Text} {threshold : Level} (h : Level.Means name threshold)
    (structured : Bool) (events : List Event) :
    (ofName name structured).written events = events.filter (threshold ≤ ·.entry.level) := by
  rw [Level.means_iff.1 h]
  rfl

end Logger

/-! ## Records -/

lemma tag_eq (name value : Text) :
    tag name value =
      if value = [] then [] else ascii "[" ++ name ++ ascii "=" ++ value ++ ascii "] " := by
  cases value <;> rfl

lemma fieldBlock_eq (fields : Table Text) :
    fieldBlock fields =
      if fields.toList = [] then []
      else ascii " \x7b" ++
        (ascii ", ").intercalate (fields.toList.map fun f => f.1 ++ ascii "=" ++ f.2) ++
          ascii "\x7d" := by
  rw [fieldBlock, Table.isEmpty, Text.join_eq_intercalate]
  cases fields.toList <;> rfl

/-- **The output of a logger of records is canonical.**

* Made with any name of a level, it holds in their order the lines of those events whose entries are at
  or above what the name means, and of no others.  These are the entries that the logger keeps.
* A higher threshold therefore writes a sublist of what a lower one writes.
* A line is its time and its record.  The record gives the level and the subsystem, the identifiers
  that are not empty, the message, and the fields if there are any: each key once, in ascending order,
  with the value supplied last for it.
* The order in which fields with different keys are supplied makes no difference. -/
theorem Logger.output_canonical (events : List Event) :
    let lines (threshold : Level) : List Text :=
      (events.filter (threshold ≤ ·.entry.level)).map fun v =>
        ascii "[" ++ v.stamp ++ ascii "] " ++ v.entry.record ++ ascii "\n"
    (∀ name, ∃ threshold, Level.Means name threshold ∧
      (ofName name false).output events = (lines threshold).flatten ∧
      (ofName name false).keep (events.map Event.entry) =
        (events.filter (threshold ≤ ·.entry.level)).map Event.entry) ∧
    (∀ lower higher : Level, lower ≤ higher → (lines higher).Sublist (lines lower)) ∧
    (∀ (e : Entry) (supplied : List (Text × Text)), e.fields = .ofList supplied →
      ∃ fields : List (Text × Text), fields.Pairwise (fun f g => f.1 < g.1) ∧
        (∀ key value, (key, value) ∈ fields ↔ Table.SuppliedLast supplied key value) ∧
        e.record =
          ascii "[" ++ e.level.label ++ ascii "] [" ++ e.subsystem ++ ascii "] " ++
          (if e.deviceId = [] then [] else ascii "[deviceId=" ++ e.deviceId ++ ascii "] ") ++
          (if e.correlationId = [] then []
            else ascii "[correlationId=" ++ e.correlationId ++ ascii "] ") ++
          e.message ++
          (if fields = [] then []
            else ascii " \x7b" ++
              (ascii ", ").intercalate (fields.map fun f => f.1 ++ ascii "=" ++ f.2) ++
              ascii "\x7d")) ∧
    ∀ (e : Entry) (supplied supplied' : List (Text × Text)), supplied.Perm supplied' →
      (supplied.map Prod.fst).Nodup →
      { e with fields := .ofList supplied' }.record =
        { e with fields := .ofList supplied }.record := by
  intro lines
  refine ⟨fun name => ?_, fun lower higher h => ?_, fun e supplied hfields => ?_,
    fun e supplied supplied' hperm hkeys => ?_⟩
  · have hmeans : Level.Means name (Level.ofName name) := Level.means_iff.2 rfl
    refine ⟨Level.ofName name, hmeans, ?_, ?_⟩
    · rw [output_eq, written_eq_of_means hmeans, List.flatMap_def]
      rfl
    · rw [← map_entry_written, written_eq_of_means hmeans]
  · refine List.Sublist.map _ (List.monotone_filter_right events fun v hv => ?_)
    exact decide_eq_true (Level.le_trans h (of_decide_eq_true hv))
  · refine ⟨e.fields.toList, e.fields.ascending, fun key value => ?_, ?_⟩
    · rw [hfields]
      exact Table.mem_toList_ofList_iff
    · rw [Entry.record, fieldBlock_eq, tag_eq, tag_eq]
      rfl
  · rw [Table.ofList_eq_of_perm hperm hkeys]

/-- A level in capitals means `info`; of two entries the one at `debug` is dropped.  A key is supplied
twice around another one, and two keys are supplied in either order. -/
theorem Logger.output_canonical_unordered :
    let e : Entry := { level := .warn, subsystem := ascii "Hub", message := ascii "late" }
    let events : List Event := [⟨ascii "t", { level := .debug }⟩, ⟨ascii "u", e⟩]
    let twice := [(ascii "b", ascii "2"), (ascii "a", ascii "1"), (ascii "b", ascii "3")]
    let once := [(ascii "b", ascii "3"), (ascii "a", ascii "1")]
    (ofName (ascii "TRACE") false).output events = ascii "[u] [WARN] [Hub] late\n" ∧
    ((events.filter (.info ≤ ·.entry.level)).map Event.line).Sublist (events.map Event.line) ∧
    { e with fields := .ofList twice }.record =
      ascii "[WARN] [Hub] late \x7ba=1, b=3\x7d" ∧
    { e with fields := .ofList once.reverse }.record = { e with fields := .ofList once }.record := by
  intro e events twice once
  obtain ⟨hnamed, hfiltered, hrecord, hperm⟩ := output_canonical events
  refine ⟨?_, ?_, ?_, ?_⟩
  · obtain ⟨threshold, hmeans, houtput, -⟩ := hnamed (ascii "TRACE")
    obtain rfl : threshold = .info := Level.means_iff.1 hmeans
    exact houtput
  · exact hfiltered .trace .info (by decide)
  · obtain ⟨fields, hascending, hfields, hshape⟩ :=
      hrecord { e with fields := .ofList twice } twice rfl
    obtain rfl : fields = (Table.ofList twice).toList :=
      Table.toList_eq_of_mem_iff hascending (Table.ofList twice).ascending fun f =>
        (hfields f.1 f.2).trans Table.mem_toList_ofList_iff.symm
    exact hshape
  · exact hperm e once once.reverse (List.reverse_perm once).symm (by decide)

end Log

end ModuleRegistry
