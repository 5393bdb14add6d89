import ModuleRegistry.HubError
import ModuleRegistry.Proofs.Stripping

/-!
# Blanks at the ends of texts

Three functions judge a text by its blanks.  `Text.trim` takes them off both ends, `Text.isBlank` asks
whether there is anything else, and `HubError.requireArgument` rejects a value where there is not.  They
mean the same six bytes, so a value is rejected exactly if trimming leaves nothing of it.  A value that is
taken is not trimmed.

What is trimmed is a core in the sense of `Text.Core`; that there is only one gives the laws of trimming.
`Text.Extent` says the same by positions: a core stands between the first and the last byte that is no
blank.

Main statement: `Text.blank_notions_agree`.
-/

namespace ModuleRegistry.Text

variable {spaces s core : Text}

/-! ## Positions -/

/-- The bytes of a text that are not among the given ones reach from position `i` to position `j`. -/
structure Extent (spaces s : Text) (i j : ℕ) : Prop where
  first : ∃ b ∈ s[i]?, b ∉ spaces
  before : s.take i ⊆ spaces
  last : ∃ b ∈ s[j]?, b ∉ spaces
  after : s.drop (j + 1) ⊆ spaces

lemma getElem?_append_append (l : Text) {k : ℕ} (hk : k < core.length) (r : Text) :
    (l ++ core ++ r)[l.length + k]? = core[k]? := by
  rw [List.append_assoc, List.getElem?_append_right (Nat.le_add_right _ _),
    Nat.add_sub_cancel_left, List.getElem?_append_left hk]

/-- A core that is not empty begins at the first byte that is kept and ends at the last. -/
lemma Core.exists_extent (h : Core spaces s core) (hne : core ≠ []) :
    ∃ i j, Extent spaces s i j ∧ core = (s.drop i).take (j - i + 1) := by
  obtain ⟨⟨hfirst, hlast⟩, l, r, rfl, hl, hr⟩ := h
  have hhead : core.head? = some (core.head hne) := List.head?_eq_some_head hne
  have hend : core.getLast? = some (core.getLast hne) := List.getLast?_eq_getLast_of_ne_nil hne
  have hpos : 0 < core.length := List.length_pos_of_ne_nil hne
  have hlength : core.length - 1 + 1 = core.length := Nat.sub_add_cancel hpos
  -- Both positions lie behind what was taken off in front, in the part that is the core.
  refine ⟨l.length, l.length + (core.length - 1), ⟨⟨_, ?_, hfirst _ hhead⟩, ?_,
    ⟨_, ?_, hlast _ hend⟩, ?_⟩, ?_⟩
  · rw [List.head?_eq_getElem?] at hhead
    exact (getElem?_append_append l hpos r).trans hhead
  · rw [List.append_assoc, List.take_left]
    exact hl
  · rw [List.getLast?_eq_getElem?] at hend
    exact (getElem?_append_append l (Nat.sub_one_lt_of_lt hpos) r).trans hend
  · rw [Nat.add_assoc, hlength, ← List.length_append, List.drop_left]
    exact hr
  · rw [List.append_assoc, List.drop_left, Nat.add_sub_cancel_left, hlength, List.take_left]

/-! ## Trimming -/

lemma isBlankByte_iff (b : UInt8) : isBlankByte b = true ↔ b ∈ blanks :=
  List.contains_iff_mem

lemma trim_eq_iff : trim s = core ↔ Core blanks s core :=
  strip_eq_iff isBlankByte_iff

lemma core_trim (s : Text) : Core blanks s (trim s) :=
  trim_eq_iff.1 rfl

lemma isBlank_iff_trim_eq_nil : isBlank s = true ↔ trim s = [] := by
  rw [trim_eq_iff, core_nil_iff, isBlank, List.all_eq_true]
  exact forall₂_congr fun b _ => isBlankByte_iff b

/-- **One notion of blanks.**

* What trimming leaves is the text without blanks at its two ends: blanks only were taken off, and none
  is left at either end.  No other text is left so.
* Trimming again changes nothing, and neither do blanks that are put around the text.
* A text is blank exactly if nothing is left of it.  Otherwise what is left is the part from its first
  byte that is no blank to the last.
* A value that is not blank is taken as it stands.  For a blank one there is an error that names the
  argument. -/
theorem blank_notions_agree (s : Text) :
    let spaces := ascii " \t\r\n\x0c\x0b"
    (∀ core, trim s = core ↔ Core spaces s core) ∧
    trim (trim s) = trim s ∧
    (∀ l r, l ⊆ spaces → r ⊆ spaces → trim (l ++ s ++ r) = trim s) ∧
    (isBlank s = true ↔ trim s = []) ∧
    (isBlank s = false → ∃ i j, Extent spaces s i j ∧ trim s = (s.drop i).take (j - i + 1)) ∧
    ∀ argument,
      (isBlank s = false → HubError.requireArgument argument s = .ok s) ∧
      (isBlank s = true → ∃ e, HubError.requireArgument argument s = .error e ∧
        e.kind = .argumentEmpty ∧ e.argument = argument) := by
  intro spaces
  have hspaces : spaces = blanks := by decide
  rw [hspaces]
  refine ⟨fun core => trim_eq_iff, ?_, fun l r hl hr => ?_, isBlank_iff_trim_eq_nil, fun h => ?_,
    fun argument => ⟨HubError.requireArgument_present argument, fun h => ?_⟩⟩
  · exact trim_eq_iff.2 (core_trim s).bare.core_self
  · exact trim_eq_iff.2 ((core_trim s).surround hl hr)
  · have hne : trim s ≠ [] := by
      rw [ne_eq, ← isBlank_iff_trim_eq_nil, h]
      exact Bool.false_ne_true
    exact (core_trim s).exists_extent hne
  · exact ⟨_, HubError.requireArgument_blank argument h, rfl, rfl⟩

/-- Neither a NUL byte nor a byte beyond the ASCII range is a blank, so the blank between them stays. -/
theorem blank_notions_agree_bytes :
    let spaces := ascii " \t\r\n\x0c\x0b"
    let s : Text := [0x09, 0x00, 0x20, 0xA0, 0x0B]
    let blank := ascii "\x0b\x0c\n\r\t "
    let argument := ascii "module_id"
    trim s = [0x00, 0x20, 0xA0] ∧
    trim (ascii "\r" ++ s ++ ascii "\n ") = trim s ∧
    isBlank s = false ∧
    (∃ i j, Extent spaces s i j ∧ trim s = (s.drop i).take (j - i + 1)) ∧
    HubError.requireArgument argument s = .ok s ∧
    isBlank blank = true ∧ trim blank = [] ∧
    ∃ e, HubError.requireArgument argument blank = .error e ∧ e.kind = .argumentEmpty ∧
      e.argument = argument := by
  intro spaces s blank argument
  have hs : isBlank s = false := by decide
  have hblank : isBlank blank = true := by decide
  have hcore : Core spaces s [0x00, 0x20, 0xA0] :=
    ⟨by decide, ascii "\t", ascii "\x0b", rfl, by decide, by decide⟩
  obtain ⟨htrim, -, haround, -, hextent, hpresent⟩ := blank_notions_agree s
  obtain ⟨-, -, -, hnothing, -, hmissing⟩ := blank_notions_agree blank
  exact ⟨(htrim _).2 hcore, haround _ _ (by decide) (by decide), hs, hextent hs,
    (hpresent argument).1 hs, hblank, hnothing.1 hblank, (hmissing argument).2 hblank⟩

end ModuleRegistry.Text
