import ModuleRegistry.Config
import ModuleRegistry.HubError
import ModuleRegistry.Identity
import ModuleRegistry.Log
import ModuleRegistry.Metrics

/-!
# Document formats

Identities travel as documents in a structured format.  How such a document is written and read is
no concern of the exchange rules, so the library takes the format as a parameter: a `DocumentFormat`
says how the values that occur in bodies, in structured logs, in configuration files and on the
command line are written and read.

The rules below hold for every format.  In particular no format is consulted for a blank body, which
is read as no document at all (`Decoder.document`).

A document holds characters and not bytes, so a format may be unable to write an entry whose texts
are not UTF-8.  A plain log takes such an entry, a structured one does not (`Log.Logger.fault?`).
`DocumentFormat.WritesUtf8` says that this is the only reason for which a format gives up.
-/

namespace ModuleRegistry

open Text (ascii)

/-- How documents are written and read.  A failure gives its reason. -/
structure DocumentFormat where
  writeIdentity : Identity → Except Text Text
  readIdentity : Text → Except Text Identity
  readIdentities : Text → Except Text (List Identity)
  /-- The hub's explanation in the body of a refusal, if there is one. -/
  readRemoteError : Text → Option RemoteError
  /-- The settings in the content of a configuration file. -/
  readSettings : Text → Except Text Config.Settings
  /-- An identity that has been read from a document, and so can stand in one, for people. -/
  showIdentity : Identity → Text
  showIdentities : List Identity → Text
  /-- A log entry as a line of a structured log, once the time is known. -/
  writeEntry : Log.Entry → Except Text (Text → Text)
  /-- The metrics of a run for people: numbers, under names in ASCII. -/
  showMetrics : Metrics → Text

namespace DocumentFormat

/-- The format that knows no documents: none can be written, read or shown.  A structured log has the
lines of a plain one, if they are UTF-8. -/
def none : DocumentFormat where
  writeIdentity _ := .error (ascii "no document format")
  readIdentity _ := .error (ascii "no document format")
  readIdentities _ := .error (ascii "no document format")
  readRemoteError _ := .none
  readSettings _ := .error (ascii "no document format")
  showIdentity _ := []
  showIdentities _ := []
  writeEntry e := if e.isUtf8 then .ok (e.line ·) else .error (ascii "invalid UTF-8")
  showMetrics _ := []

/-- A format can write every entry whose texts are UTF-8. -/
def WritesUtf8 (format : DocumentFormat) : Prop :=
  ∀ e : Log.Entry, e.isUtf8 = true → ∃ line, format.writeEntry e = .ok line

theorem writesUtf8_none : DocumentFormat.none.WritesUtf8 := by
  intro e he
  exact ⟨_, if_pos he⟩

end DocumentFormat

/-! ## Structured logs -/

namespace Log.Logger

variable {l : Log.Logger} {format : DocumentFormat} {e : Log.Entry}

/-- Why an entry cannot be written, if a structured log is to take it and cannot. -/
def fault? (l : Log.Logger) (format : DocumentFormat) (e : Log.Entry) : Option Text :=
  if l.structured && l.accepts e then
    match format.writeEntry e with
    | .ok _ => none
    | .error reason => some reason
  else none

/-- An entry can be written unless a structured log is to take it and the format gives up. -/
theorem fault?_eq_none_iff :
    l.fault? format e = none ↔
      (l.structured = true → l.accepts e = true → ∃ line, format.writeEntry e = .ok line) := by
  cases hs : l.structured <;> cases ha : l.accepts e <;> cases hw : format.writeEntry e <;>
    simp [fault?, hs, ha, hw]

/-- **A plain log takes every entry.** -/
theorem fault?_of_plain (h : l.structured = false) : l.fault? format e = none := by
  simp [fault?, h]

/-- A structured log takes every entry in UTF-8, if the format can write those. -/
theorem fault?_of_isUtf8 (hformat : format.WritesUtf8) (he : e.isUtf8 = true) :
    l.fault? format e = none :=
  fault?_eq_none_iff.2 fun _ _ => hformat e he

end Log.Logger

/-! ## Bodies of successful replies -/

/-- A body that is never looked at.  There is no value of this type. -/
inductive NoContent where
deriving DecidableEq

/-- How the body of a successful reply is understood. -/
def Decoder (ρ : Type) : Type := Text → Except HubError (Option ρ)

namespace Decoder

/-- The body does not matter. -/
def ignore : Decoder NoContent := fun _ => .ok none

/-- A blank body is no document; any other is read as one. -/
def document {ρ : Type} (read : Text → Except Text ρ) : Decoder ρ := fun body =>
  if Text.isBlank body then .ok none
  else
    match read body with
    | .ok value => .ok (some value)
    | .error reason => .error (.unreadable reason)

@[simp] theorem ignore_apply (body : Text) : ignore body = .ok none := rfl

@[simp] theorem document_blank {ρ : Type} (read : Text → Except Text ρ) {body : Text}
    (h : Text.isBlank body = true) : document read body = .ok none := by
  simp [document, h]

end Decoder

end ModuleRegistry
