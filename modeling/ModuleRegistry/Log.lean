import ModuleRegistry.Table
import ModuleRegistry.Text.Utf8

/-!
# The log

An `Entry` is what a part of the library has to say at some `Level`.  A `Logger` keeps the entries
at or above its threshold (`Logger.keep`), so a higher threshold keeps a sublist of what a lower one
keeps (`keep_sublist_of_le`).

In text form an entry is one `record`:

    [LEVEL] [subsystem] [deviceId=..] [correlationId=..] message {key=value, key=value}

The two identifiers and the fields appear only when there are any, and the fields stand in ascending
order of their keys.  A `line` is a record behind its time stamp.  A record holds whatever bytes the
texts of its entry hold; an entry that is to be written as a document needs texts in UTF-8
(`Entry.isUtf8`).
-/

namespace ModuleRegistry.Log

open Text (ascii)

/-! ## Levels -/

/-- How grave an entry is. -/
inductive Level where
  | trace
  | debug
  | info
  | warn
  | error
  | critical
deriving DecidableEq

namespace Level

/-- The place of a level in the order from harmless to grave. -/
def rank : Level → Nat
  | trace => 0
  | debug => 1
  | info => 2
  | warn => 3
  | error => 4
  | critical => 5

instance : LE Level := ⟨fun a b => a.rank ≤ b.rank⟩

instance (a b : Level) : Decidable (a ≤ b) := inferInstanceAs (Decidable (a.rank ≤ b.rank))

theorem le_trans {a b c : Level} (h : a ≤ b) (h' : b ≤ c) : a ≤ c := Nat.le_trans h h'

@[simp] theorem trace_le (a : Level) : trace ≤ a := Nat.zero_le _

/-- The name of a level as it stands in a record. -/
def label : Level → Text
  | trace => ascii "TRACE"
  | debug => ascii "DEBUG"
  | info => ascii "INFO"
  | warn => ascii "WARN"
  | error => ascii "ERROR"
  | critical => ascii "CRITICAL"

/-- The level that a configuration names; any unknown name means `info`. -/
def ofName (name : Text) : Level :=
  if name = ascii "trace" then trace
  else if name = ascii "debug" then debug
  else if name = ascii "warn" then warn
  else if name = ascii "error" then error
  else if name = ascii "critical" then critical
  else info

end Level

/-! ## Entries -/

/-- What a part of the library has to say.  An identifier that is empty counts as absent. -/
structure Entry where
  level : Level
  subsystem : Text := []
  message : Text := []
  fields : Table Text := ∅
  deviceId : Text := []
  correlationId : Text := []
deriving DecidableEq

/-- An identifier in brackets, or nothing if it is empty. -/
def tag (name value : Text) : Text :=
  if value.isEmpty then [] else ascii "[" ++ name ++ ascii "=" ++ value ++ ascii "] "

/-- Fields in braces, or nothing if there are none. -/
def fieldBlock (fields : Table Text) : Text :=
  if fields.isEmpty then []
  else ascii " \x7b" ++
    Text.join (ascii ", ") (fields.toList.map fun f => f.1 ++ ascii "=" ++ f.2) ++ ascii "\x7d"

namespace Entry

/-- An entry in text form, without its time stamp. -/
def record (e : Entry) : Text :=
  ascii "[" ++ e.level.label ++ ascii "] [" ++ e.subsystem ++ ascii "] " ++
    tag (ascii "deviceId") e.deviceId ++ tag (ascii "correlationId") e.correlationId ++
    e.message ++ fieldBlock e.fields

/-- The text that an entry appends to a log at the time `stamp`. -/
def line (stamp : Text) (e : Entry) : Text :=
  ascii "[" ++ stamp ++ ascii "] " ++ e.record ++ ascii "\n"

/-- Whether all texts of an entry are UTF-8. -/
def isUtf8 (e : Entry) : Bool :=
  Text.isUtf8 e.subsystem && Text.isUtf8 e.message && Text.isUtf8 e.deviceId &&
    Text.isUtf8 e.correlationId &&
    e.fields.toList.all fun f => Text.isUtf8 f.1 && Text.isUtf8 f.2

end Entry

/-! ## Loggers -/

/-- Which entries to keep, and whether they are written as documents instead of records. -/
structure Logger where
  threshold : Level
  structured : Bool := false
deriving DecidableEq

namespace Logger

/-- The logger of the level that a configuration names. -/
def ofName (level : Text) (structured : Bool) : Logger := ⟨Level.ofName level, structured⟩

/-- Whether a logger lets an entry pass. -/
def accepts (l : Logger) (e : Entry) : Bool := l.threshold ≤ e.level

/-- The entries that a logger lets pass, in their order. -/
def keep (l : Logger) (entries : List Entry) : List Entry := entries.filter l.accepts

@[simp] theorem keep_nil (l : Logger) : l.keep [] = [] := rfl

@[simp] theorem keep_append (l : Logger) (a b : List Entry) :
    l.keep (a ++ b) = l.keep a ++ l.keep b :=
  List.filter_append ..

/-- What a higher threshold keeps is what it keeps of the entries that a lower one kept. -/
theorem keep_keep_of_le {l m : Logger} (h : l.threshold ≤ m.threshold) (entries : List Entry) :
    m.keep (l.keep entries) = m.keep entries := by
  rw [keep, keep, List.filter_filter, keep]
  refine List.filter_congr fun e _ => ?_
  by_cases he : m.threshold ≤ e.level
  · simp [accepts, he, Level.le_trans h he]
  · simp [accepts, he]

theorem keep_sublist_of_le {l m : Logger} (h : l.threshold ≤ m.threshold) (entries : List Entry) :
    (m.keep entries).Sublist (l.keep entries) :=
  keep_keep_of_le h entries ▸ List.filter_sublist

end Logger

example : Entry.record
    { level := .warn, subsystem := ascii "Hub", message := ascii "late",
      fields := Table.ofList [(ascii "b", ascii "2"), (ascii "a", ascii "1"), (ascii "b", ascii "3")],
      deviceId := ascii "d" } =
    ascii "[WARN] [Hub] [deviceId=d] late \x7ba=1, b=3\x7d" := by decide

end ModuleRegistry.Log
