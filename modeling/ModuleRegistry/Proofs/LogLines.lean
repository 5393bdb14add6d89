import ModuleRegistry.Proofs.LogOutput

/-!
# Lines of a log

Whoever reads a log cuts it at the line feeds.  An entry is meant to be one line, but its texts go into
the record byte by byte, and a line feed in one of them ends the line early.  What comes behind it then
reads as a line of its own, whatever it pretends to be.

`Log.Event.texts` are the texts that an event brings along; everything else in its line is fixed.  The
line has one line feed for its end and one for each in these texts (`Log.Event.count_line`), so the log
reads back as it was written exactly if they hold none.

Main statements:

* `Log.Logger.lines_read_back_iff`: how many lines an event makes, and when a log reads back;
* `Log.Logger.entry_breaks`: the message of a failed exchange makes two lines.
-/

namespace ModuleRegistry

open Text (ascii)

/-! ## Counting bytes -/

namespace Text

lemma count_join {b : UInt8} {sep : Text} (h : b ∉ sep) (l : List Text) :
    (join sep l).count b = l.flatten.count b := by
  induction l with
  | nil => rfl
  | cons s r ih =>
    cases r with
    | nil => simp
    | cons t r => simp [join, ih, List.count_eq_zero.2 h, List.count_append]

/-- The pieces of a split hold no separator. -/
lemma not_mem_of_mem_splitOn {sep : UInt8} {s t : Text} (h : t ∈ s.splitOn sep) : sep ∉ t := by
  by_cases hsep : sep ∈ s
  · have hsplit := before_append_after hsep
    have hlength : (after sep s).length < s.length := by
      rw [← congrArg List.length hsplit, List.length_append, List.length_cons]
      omega
    rw [← hsplit, List.splitOn_append_cons_self_of_not_mem (not_mem_before sep s)] at h
    rcases List.mem_cons.1 h with rfl | h
    · exact not_mem_before sep s
    · exact not_mem_of_mem_splitOn h
  · rw [List.splitOn_eq_singleton hsep, List.mem_singleton] at h
    exact h ▸ hsep
termination_by s.length

/-- Lines are cut where each of them ends. -/
lemma splitOn_flatMap_append {sep : UInt8} {l : List Text} (h : ∀ s ∈ l, sep ∉ s) :
    (l.flatMap (· ++ [sep])).splitOn sep = l ++ [[]] := by
  induction l with
  | nil => exact List.splitOn_eq_singleton (by simp)
  | cons s r ih =>
    have hs : sep ∉ s := h s List.mem_cons_self
    have hr : ∀ t ∈ r, sep ∉ t := fun t ht => h t (List.mem_cons_of_mem s ht)
    rw [List.flatMap_cons, List.append_assoc, List.singleton_append,
      List.splitOn_append_cons_self_of_not_mem hs, ih hr, List.cons_append]

end Text

namespace Log

/-! ## The texts of an event -/

/-- The texts that a caller puts into an entry. -/
def Entry.texts (e : Entry) : List Text :=
  [e.subsystem, e.deviceId, e.correlationId, e.message] ++
    e.fields.toList.flatMap fun f => [f.1, f.2]

/-- The texts of an entry and its time. -/
def Event.texts (v : Event) : List Text := v.stamp :: v.entry.texts

/-- The line of an event without its end. -/
def Event.content (v : Event) : Text := ascii "[" ++ v.stamp ++ ascii "] " ++ v.entry.record

lemma Event.line_eq_content (v : Event) : v.line = v.content ++ ['\n'.toUInt8] := rfl

/-- The byte that ends a line. -/
abbrev lineFeed : UInt8 := '\n'.toUInt8

lemma count_tag {name : Text} (h : name.count lineFeed = 0) (value : Text) :
    (tag name value).count lineFeed = value.count lineFeed := by
  have hbegin : (ascii "[").count lineFeed = 0 := by decide
  have hequals : (ascii "=").count lineFeed = 0 := by decide
  have hend : (ascii "] ").count lineFeed = 0 := by decide
  rw [tag_eq]
  split
  · next hempty => rw [hempty]
  · simp only [List.count_append, hbegin, h, hequals, hend]
    omega

lemma count_fields (l : List (Text × Text)) :
    (l.map fun f => f.1 ++ ascii "=" ++ f.2).flatten.count lineFeed =
      (l.flatMap fun f => [f.1, f.2]).flatten.count lineFeed := by
  have hequals : (ascii "=").count lineFeed = 0 := by decide
  induction l with
  | nil => rfl
  | cons f r ih =>
    simp only [List.map_cons, List.flatMap_cons, List.flatten_cons, List.flatten_append,
      List.flatten_nil, List.count_append, List.count_nil, hequals, ih]
    omega

lemma count_fieldBlock (fields : Table Text) :
    (fieldBlock fields).count lineFeed =
      (fields.toList.flatMap fun f => [f.1, f.2]).flatten.count lineFeed := by
  have hbegin : (ascii " \x7b").count lineFeed = 0 := by decide
  have hend : (ascii "\x7d").count lineFeed = 0 := by decide
  have hsep : lineFeed ∉ ascii ", " := by decide
  rw [← count_fields, fieldBlock]
  split
  · next hempty => rw [List.isEmpty_iff.1 hempty]; rfl
  · rw [List.count_append, List.count_append, hbegin, hend, Text.count_join hsep]
    omega

lemma count_record (e : Entry) : e.record.count lineFeed = e.texts.flatten.count lineFeed := by
  have hbegin : (ascii "[").count lineFeed = 0 := by decide
  have hlabel : e.level.label.count lineFeed = 0 := by cases e.level <;> decide
  have hmiddle : (ascii "] [").count lineFeed = 0 := by decide
  have hend : (ascii "] ").count lineFeed = 0 := by decide
  have hdevice : (ascii "deviceId").count lineFeed = 0 := by decide
  have hcorrelation : (ascii "correlationId").count lineFeed = 0 := by decide
  simp only [Entry.record, Entry.texts, List.flatten_append, List.flatten_cons, List.flatten_nil,
    List.count_append, List.count_nil, hbegin, hlabel, hmiddle, hend, count_tag hdevice,
    count_tag hcorrelation, count_fieldBlock]
  omega

/-- The content of a line has the line feeds of the texts that the event brings along. -/
lemma Event.count_content (v : Event) :
    v.content.count lineFeed = v.texts.flatten.count lineFeed := by
  have hbegin : (ascii "[").count lineFeed = 0 := by decide
  have hend : (ascii "] ").count lineFeed = 0 := by decide
  simp only [content, texts, List.flatten_cons, List.count_append, hbegin, hend, count_record]
  omega

lemma Event.lineFeed_not_mem_content_iff (v : Event) :
    lineFeed ∉ v.content ↔ ∀ t ∈ v.texts, lineFeed ∉ t := by
  rw [← List.count_eq_zero, count_content, List.count_eq_zero, List.mem_flatten]
  simp

lemma Event.count_line (v : Event) :
    v.line.count lineFeed = 1 + v.texts.flatten.count lineFeed := by
  rw [line_eq_content, List.count_append, count_content, Nat.add_comm]
  rfl

/-- **A log of records keeps one line for each entry exactly if the texts of the entries do.**

* Whatever an event brings along, the text that it adds to the output ends in a line feed.  It has one
  more line feed than the texts of the event, hence one alone exactly if these have none.
* The output of any events, cut at its line feeds, gives back the line of each event that was written,
  in order and with nothing behind the last of them, exactly if none of these events has a line feed in
  one of its texts. -/
theorem Logger.lines_read_back_iff (name : Text) (events : List Event) :
    let l := ofName name false
    (∀ output v, l.accepts v.entry = true → ∃ added, l.append output v = output ++ added ∧
      added.getLast? = some lineFeed ∧
      added.count lineFeed = 1 + v.texts.flatten.count lineFeed ∧
      (added.count lineFeed = 1 ↔ ∀ t ∈ v.texts, lineFeed ∉ t)) ∧
    ((l.output events).splitOn lineFeed =
        (l.written events).map (fun v => ascii "[" ++ v.stamp ++ ascii "] " ++ v.entry.record) ++
          [[]] ↔
      ∀ v ∈ l.written events, ∀ t ∈ v.texts, lineFeed ∉ t) := by
  intro l
  refine ⟨fun output v hv => ⟨v.line, if_pos hv, ?_, v.count_line, ?_⟩, ?_⟩
  · rw [Event.line_eq_content]
    exact List.getLast?_concat
  · rw [Event.count_line, ← Event.lineFeed_not_mem_content_iff, ← List.count_eq_zero,
      Event.count_content]
    omega
  · have houtput : l.output events =
        ((l.written events).map Event.content).flatMap (· ++ [lineFeed]) := by
      rw [output_eq, List.flatMap_map]
      rfl
    rw [houtput]
    constructor
    · intro h v hv
      rw [← Event.lineFeed_not_mem_content_iff]
      apply Text.not_mem_of_mem_splitOn
      rw [h]
      exact List.mem_append_left _ (List.mem_map_of_mem hv)
    · intro h
      refine Text.splitOn_flatMap_append fun s hs => ?_
      obtain ⟨v, hv, rfl⟩ := List.mem_map.1 hs
      exact v.lineFeed_not_mem_content_iff.2 (h v hv)

/-- A line feed in a message that the level drops does no harm; one in a field makes two lines. -/
theorem Logger.lines_read_back_iff_dropped :
    let l := ofName (ascii "info") false
    let plain : Event := ⟨ascii "t", { level := .info, message := ascii "ready" }⟩
    let dropped : Event := ⟨ascii "t", { level := .debug, message := ascii "a\nb" }⟩
    let broken : Event :=
      ⟨ascii "t", { level := .warn, fields := .ofList [(ascii "k", ascii "\n")] }⟩
    (l.output [plain, dropped]).splitOn lineFeed = [ascii "[t] [INFO] [] ready", []] ∧
    l.accepts broken.entry = true ∧
    ∃ added, l.append (ascii "x") broken = ascii "x" ++ added ∧ added.count lineFeed = 2 := by
  intro l plain dropped broken
  obtain ⟨happend, -⟩ := lines_read_back_iff (ascii "info") []
  obtain ⟨-, hread⟩ := lines_read_back_iff (ascii "info") [plain, dropped]
  have hwritten : l.written [plain, dropped] = [plain] := by decide
  have htexts : ∀ v ∈ l.written [plain, dropped], ∀ t ∈ v.texts, lineFeed ∉ t := by
    rw [hwritten]
    decide
  have haccepts : l.accepts broken.entry = true := by decide
  obtain ⟨added, hadded, -, hcount, -⟩ := happend (ascii "x") broken haccepts
  exact ⟨hread.2 htexts, haccepts, added, hadded, hcount⟩

/-- **A message breaks its line.**  The reason that a transport gives goes into the message of a failed
exchange, and a line feed in it makes two lines of one entry. -/
theorem Logger.entry_breaks :
    let v : Event :=
      ⟨ascii "2026-01-01T00:00:00.000Z",
        { level := .warn
          subsystem := ascii "HubClient"
          message := ascii "Transport error: reset\nby peer" }⟩
    let output := (ofName (ascii "info") false).output [v]
    output.count lineFeed = 2 ∧
      output.splitOn lineFeed =
        [ascii "[2026-01-01T00:00:00.000Z] [WARN] [HubClient] Transport error: reset",
          ascii "by peer", []] := by
  decide

end Log

end ModuleRegistry
