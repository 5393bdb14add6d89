import ModuleRegistry.Http.Reception
import ModuleRegistry.Proofs.LastWriter
import ModuleRegistry.Proofs.Stripping

/-!
# Header lines read back

The fields of a reply arrive as lines, among others that have no colon: the status line and the empty
line at the end.  A line is cut at its first colon (`Http.Cut`).  What is received under a key is then
decided by the last line with that key, and is the core of what stands behind the colon there.

A client that sends fields writes each of them as `Http.fieldLine`.  `Http.Carries` says that lines
carry fields which were written so, whatever stands between them.  Fields whose keys have no colon and
whose values need no stripping come out of such lines as they went in.

Main statement: `Http.Reception.header_lines_read_back`.
-/

namespace ModuleRegistry.Http

open Text (ascii)

/-- What ends the key of a field. -/
abbrev colon : UInt8 := ':'.toUInt8

/-- What may stand around the value of a field. -/
def linearSpaces : Text := ascii " \t\r\n"

lemma isLinearSpace_iff (b : UInt8) : isLinearSpace b = true ↔ b ∈ linearSpaces := by
  have hspaces : linearSpaces = [0x20, 0x09, 0x0D, 0x0A] := by decide
  simp [isLinearSpace, hspaces, or_assoc]

/-! ## Lines and fields -/

/-- The first colon of a line stands between `key` and `rest`. -/
structure Cut (line key rest : Text) : Prop where
  split : line = key ++ colon :: rest
  first : colon ∉ key

/-- A line gives a field with the given key. -/
def HasKey (key line : Text) : Prop := ∃ rest, Cut line key rest

/-- Lines carry fields: each field has its own line, in the form in which it is sent and with or
without a line end, and the lines between them have no colon. -/
inductive Carries : List Text → List (Text × Text) → Prop
  | done : Carries [] []
  | other {line lines fields} (h : colon ∉ line) (hrest : Carries lines fields) :
      Carries (line :: lines) fields
  | field {key value ending lines fields} (hend : ending = [] ∨ ending = ascii "\r\n")
      (hrest : Carries lines fields) :
      Carries ((fieldLine key value ++ ending) :: lines) ((key, value) :: fields)

variable {line key rest value : Text}

lemma exists_cut (h : colon ∈ line) : ∃ key rest, Cut line key rest :=
  ⟨_, _, (Text.before_append_after h).symm, Text.not_mem_before colon line⟩

lemma Cut.mem (h : Cut line key rest) : colon ∈ line := by
  rw [h.split]
  simp

lemma Cut.after_eq (h : Cut line key rest) : Text.after colon line = rest := by
  rw [h.split, Text.after_append_cons h.first]

lemma Cut.readField? (h : Cut line key rest) :
    readField? line = some (key, Text.strip isLinearSpace rest) := by
  rw [Http.readField?, if_pos h.mem, h.after_eq, h.split, Text.before_append_cons h.first]

lemma core_iff : Text.strip isLinearSpace rest = value ↔ Text.Core linearSpaces rest value :=
  Text.strip_eq_iff isLinearSpace_iff

lemma cut_fieldLine (hkey : colon ∉ key) (value ending : Text) :
    Cut (fieldLine key value ++ ending) key (ascii " " ++ value ++ ending) :=
  ⟨by simp [fieldLine, ascii], hkey⟩

lemma core_fieldLine (hvalue : Text.Bare linearSpaces value) {ending : Text}
    (hend : ending = [] ∨ ending = ascii "\r\n") :
    Text.Core linearSpaces (ascii " " ++ value ++ ending) value := by
  have hspace : ascii " " ⊆ linearSpaces := by decide
  have hending : ending ⊆ linearSpaces := by
    rcases hend with rfl | rfl <;> decide
  exact ⟨hvalue, _, _, rfl, hspace, hending⟩

namespace Reception

variable (r : Reception)

/-! ## One line -/

lemma headerLine_of_cut (h : Cut line key rest) :
    (r.headerLine line).2 =
      { r with headers := r.headers.insert key (Text.strip isLinearSpace rest) } := by
  rw [headerLine, h.readField?]

lemma get?_headerLine_of_hasKey (h : HasKey key line) :
    (r.headerLine line).2.headers.get? key =
      some (Text.strip isLinearSpace (Text.after colon line)) := by
  obtain ⟨rest, hcut⟩ := h
  rw [headerLine_of_cut r hcut, hcut.after_eq, Table.get?_insert, if_pos rfl]

lemma get?_headerLine_of_not_hasKey (h : ¬HasKey key line) :
    (r.headerLine line).2.headers.get? key = r.headers.get? key := by
  by_cases hline : colon ∈ line
  · obtain ⟨key', rest, hcut⟩ := exists_cut hline
    have hne : key ≠ key' := by
      rintro rfl
      exact h ⟨rest, hcut⟩
    rw [headerLine_of_cut r hcut, Table.get?_insert, if_neg hne]
  · rw [headerLine_of_no_colon r hline]

lemma headerLine_fieldLine (hkey : colon ∉ key) (hvalue : Text.Bare linearSpaces value)
    {ending : Text} (hend : ending = [] ∨ ending = ascii "\r\n") :
    (r.headerLine (fieldLine key value ++ ending)).2 =
      { r with headers := r.headers.insert key value } := by
  rw [headerLine_of_cut r (cut_fieldLine hkey value ending),
    core_iff.2 (core_fieldLine hvalue hend)]

/-! ## All lines -/

lemma headerLine_headerLines (before : List Text) (line : Text) :
    (r.headerLines before).headerLine line = (line.length, r.headerLines (before ++ [line])) := by
  rw [headerLines, headerLines, List.foldl_append]
  rfl

lemma get?_headerLines_of_lastWith {lines : List Text} (h : LastWith (HasKey key) lines line) :
    (r.headerLines lines).headers.get? key =
      some (Text.strip isLinearSpace (Text.after colon line)) :=
  h.read_foldl (·.headers.get? key) (fun r _ => get?_headerLine_of_hasKey r)
    (fun r _ => get?_headerLine_of_not_hasKey r) r

lemma get?_headerLines_of_forall_not {lines : List Text} (h : ∀ line ∈ lines, ¬HasKey key line) :
    (r.headerLines lines).headers.get? key = r.headers.get? key :=
  read_foldl_of_forall_not (·.headers.get? key) (fun r _ => get?_headerLine_of_not_hasKey r) r h

lemma contains_headerLines_iff (lines : List Text) (key : Text) :
    (headerLines {} lines).headers.contains key = true ↔ ∃ line ∈ lines, HasKey key line := by
  rcases lastWith_or_forall_not (HasKey key) lines with ⟨line, hlast⟩ | hnone
  · rw [Table.contains, get?_headerLines_of_lastWith _ hlast]
    exact iff_of_true rfl ⟨line, hlast.mem, hlast.holds⟩
  · rw [Table.contains, get?_headerLines_of_forall_not _ hnone]
    refine iff_of_false (by simp) ?_
    rintro ⟨line, hline, hkey⟩
    exact hnone line hline hkey

lemma headerLines_filter (lines : List Text) :
    r.headerLines (lines.filter (colon ∈ ·)) = r.headerLines lines := by
  induction lines generalizing r with
  | nil => rfl
  | cons line lines ih =>
    by_cases h : colon ∈ line
    · rw [List.filter_cons_of_pos (by simpa using h)]
      exact ih (r.headerLine line).2
    · rw [List.filter_cons_of_neg (by simpa using h), ih]
      exact congrArg (fun x => headerLines x.2 lines) (headerLine_of_no_colon r h).symm

/-- Lines that carry fields write just these, in order. -/
lemma headerLines_of_carries {lines : List Text} {fields : List (Text × Text)}
    (h : Carries lines fields)
    (hfields : ∀ f ∈ fields, colon ∉ f.1 ∧ Text.Bare linearSpaces f.2) :
    r.headerLines lines =
      { r with headers := fields.foldl (fun t f => t.insert f.1 f.2) r.headers } := by
  induction h generalizing r with
  | done => rfl
  | other hline _ ih =>
    rw [headerLines, List.foldl_cons, headerLine_of_no_colon r hline]
    exact ih r hfields
  | field hend _ ih =>
    obtain ⟨⟨hkey, hvalue⟩, hrest⟩ := List.forall_mem_cons.1 hfields
    rw [headerLines, List.foldl_cons, headerLine_fieldLine r hkey hvalue hend]
    exact ih _ hrest

/-- **Header lines read back.**

* Each line is taken in as a whole when it arrives, behind the lines before it.
* The keys received are the texts before the first colon of a line.  Under each of them stands the core
  of what is behind the colon in the last line with that key; it is empty exactly if there is nothing
  but spaces.
* Lines without a colon make no difference.
* A table whose keys have no colon, and whose values neither begin nor end with a space, is received as
  it is from any lines that carry its fields, in whatever order and with whatever line ends. -/
theorem header_lines_read_back (lines : List Text) :
    let received := headerLines {} lines
    (∀ before line after, lines = before ++ line :: after →
      (headerLines {} before).headerLine line = (line.length, headerLines {} (before ++ [line]))) ∧
    (∀ key, received.headers.contains key = true ↔ ∃ line ∈ lines, HasKey key line) ∧
    (∀ key line rest, LastWith (HasKey key) lines line → Cut line key rest →
      (∀ value, received.headers.get? key = some value ↔ Text.Core linearSpaces rest value) ∧
      (received.headers.get? key = some [] ↔ rest ⊆ linearSpaces)) ∧
    headerLines {} (lines.filter (colon ∈ ·)) = received ∧
    ∀ (headers : Table Text) (fields : List (Text × Text)),
      (∀ f ∈ headers.toList, colon ∉ f.1 ∧ Text.Bare linearSpaces f.2) →
      fields.Perm headers.toList → Carries lines fields → received = { headers := headers } := by
  intro received
  refine ⟨fun before line _ _ => headerLine_headerLines {} before line,
    contains_headerLines_iff lines, fun key line rest hlast hcut => ?_,
    headerLines_filter {} lines, fun headers fields hheaders hperm hcarries => ?_⟩
  · have hvalue : ∀ value,
        received.headers.get? key = some value ↔ Text.Core linearSpaces rest value := by
      intro value
      rw [get?_headerLines_of_lastWith {} hlast, hcut.after_eq, Option.some.injEq, core_iff]
    exact ⟨hvalue, (hvalue []).trans Text.core_nil_iff⟩
  · have hfields : ∀ f ∈ fields, colon ∉ f.1 ∧ Text.Bare linearSpaces f.2 := fun f hf =>
      hheaders f (hperm.mem_iff.1 hf)
    have htable : Table.ofList fields = headers := by
      rw [Table.ofList_eq_of_perm hperm.symm headers.nodup_keys, Table.ofList_toList]
    calc received = { headers := Table.ofList fields } := headerLines_of_carries {} hcarries hfields
      _ = { headers := headers } := by rw [htable]

/-- Two fields between a status line and an empty line, in descending order of their keys; one value
holds a colon and the other is empty.  Where a key is repeated, a line with nothing but spaces behind
its colon empties the value. -/
theorem header_lines_read_back_mixed :
    let lines := [ascii "HTTP/1.1 200 OK\r\n",
      fieldLine (ascii "B") (ascii "x: y") ++ ascii "\r\n", ascii "\r\n",
      fieldLine (ascii "A") [] ++ []]
    let headers : Table Text := .ofList [(ascii "A", []), (ascii "B", ascii "x: y")]
    let repeated := [ascii "B: x: y", ascii "B:\t\r\n"]
    headerLines {} lines = { headers := headers } ∧
      LastWith (HasKey (ascii "B")) repeated (ascii "B:\t\r\n") ∧
      (headerLines {} repeated).headers.get? (ascii "B") = some [] := by
  intro lines headers repeated
  have hheaders : ∀ f ∈ headers.toList, colon ∉ f.1 ∧ Text.Bare linearSpaces f.2 := by decide
  have hcarries : Carries lines [(ascii "B", ascii "x: y"), (ascii "A", [])] :=
    .other (by decide) <| .field (.inr rfl) <| .other (by decide) <| .field (.inl rfl) .done
  have hcut : Cut (ascii "B:\t\r\n") (ascii "B") (ascii "\t\r\n") := ⟨rfl, by decide⟩
  have hlast : LastWith (HasKey (ascii "B")) repeated (ascii "B:\t\r\n") :=
    ⟨[ascii "B: x: y"], [], rfl, ⟨_, hcut⟩, by simp⟩
  obtain ⟨-, -, -, -, hread⟩ := header_lines_read_back lines
  obtain ⟨-, -, hvalue, -⟩ := header_lines_read_back repeated
  exact ⟨hread headers _ hheaders (by decide) hcarries, hlast,
    (hvalue _ _ _ hlast hcut).2.2 (by decide)⟩

end Reception

end ModuleRegistry.Http
