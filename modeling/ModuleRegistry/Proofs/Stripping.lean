import Mathlib.Data.List.DropRight
import ModuleRegistry.Text.Basic

/-!
# Stripping the ends of texts

`Text.strip` drops bytes from the front as long as it accepts them, then from the end.  Said without
these two runs: the `Text.Core` of a text is what is left when accepted bytes only are taken off both
ends, and no accepted byte is left at either of them.

Main statement: `Text.strip_eq_iff`, a strip gives the one core of a text.  So whatever holds of cores
(`Text.core_nil_iff`, `Text.Core.surround`) holds of strips, without another look at their two runs.
-/

namespace ModuleRegistry.Text

variable {p : UInt8 → Bool} {s : Text}

/-! ## One end -/

lemma not_of_getLast?_dropEnd : ∀ b ∈ (dropEnd p s).getLast?, p b = false := by
  intro b hb
  have hne : dropEnd p s ≠ [] := by
    intro h
    simp [h] at hb
  rw [List.getLast?_eq_getLast_of_ne_nil hne] at hb
  obtain rfl := Option.some.inj hb
  have hlast : ¬p ((s.rdropWhile p).getLast hne) = true := List.rdropWhile_last_not p s hne
  exact Bool.eq_false_iff.2 hlast

/-- Nothing before a rejected byte is dropped. -/
lemma dropEnd_append_of_last (hs : ∀ b ∈ s.getLast?, p b = false) (q : Text) :
    dropEnd p (s ++ q) = s ++ dropEnd p q := by
  have hself : s.reverse.dropWhile p = s.reverse := by
    refine List.reverse_eq_iff.1 (List.rdropWhile_eq_self_iff.2 fun hne => ?_)
    simpa using hs _ (List.getLast?_eq_getLast_of_ne_nil hne)
  rw [dropEnd, dropEnd, List.reverse_append, List.dropWhile_append, hself]
  split
  · next hempty =>
    rw [List.isEmpty_iff.1 hempty]
    simp
  · rw [List.reverse_append, List.reverse_reverse]

lemma not_of_head?_dropWhile : ∀ b ∈ (s.dropWhile p).head?, p b = false := by
  intro b hb
  rw [← List.find?_not_eq_head?_dropWhile] at hb
  simpa using List.find?_some hb

lemma dropWhile_of_head? (h : ∀ b ∈ s.head?, p b = false) : s.dropWhile p = s := by
  cases s with
  | nil => rfl
  | cons b r => exact List.dropWhile_cons_of_neg (Bool.eq_false_iff.1 (h b rfl))

/-- The front of a strip is that of the text without its first run. -/
lemma not_of_head?_strip : ∀ b ∈ (strip p s).head?, p b = false := by
  intro b hb
  have hfront : b ∈ (s.dropWhile p).head? := by
    rw [← dropEnd_append_takeEnd p (s.dropWhile p)]
    exact List.mem_head?_append_of_mem_head? hb
  exact not_of_head?_dropWhile b hfront

/-! ## Both ends -/

/-- A text with none of the given bytes at either end. -/
structure Bare (spaces s : Text) : Prop where
  first : ∀ b ∈ s.head?, b ∉ spaces
  last : ∀ b ∈ s.getLast?, b ∉ spaces

lemma bare_iff {spaces : Text} :
    Bare spaces s ↔ s.head?.all (· ∉ spaces) ∧ s.getLast?.all (· ∉ spaces) := by
  simp only [Option.all_eq_true, decide_eq_true_eq]
  exact ⟨fun h => ⟨h.first, h.last⟩, fun h => ⟨h.1, h.2⟩⟩

instance {spaces : Text} : Decidable (Bare spaces s) := decidable_of_iff' _ bare_iff

/-- What is left of a text when nothing but the given bytes is taken off its ends, until none of them
is left there. -/
structure Core (spaces s core : Text) : Prop where
  bare : Bare spaces core
  ends : ∃ l r, s = l ++ core ++ r ∧ l ⊆ spaces ∧ r ⊆ spaces

variable {spaces core : Text}

lemma core_strip (hp : ∀ b, p b = true ↔ b ∈ spaces) (s : Text) : Core spaces s (strip p s) := by
  have hnot {b : UInt8} (hb : p b = false) : b ∉ spaces := fun h => by simp [(hp b).2 h] at hb
  constructor
  · exact ⟨fun b hb => hnot (not_of_head?_strip b hb),
      fun b hb => hnot (not_of_getLast?_dropEnd b hb)⟩
  · refine ⟨_, _, (ends_of_strip p s).symm, fun b hb => ?_, fun b hb => ?_⟩
    · exact (hp b).1 (List.mem_takeWhile_imp hb)
    · exact (hp b).1 (List.all_eq_true.1 (all_takeEnd p (s.dropWhile p)) b hb)

/-- **A strip gives the core of a text**, and a text has no other. -/
lemma strip_eq_iff (hp : ∀ b, p b = true ↔ b ∈ spaces) :
    strip p s = core ↔ Core spaces s core := by
  refine ⟨fun h => h ▸ core_strip hp s, ?_⟩
  rintro ⟨⟨hfirst, hlast⟩, l, r, rfl, hl, hr⟩
  have hnot {b : UInt8} (hb : b ∉ spaces) : p b = false :=
    Bool.eq_false_iff.2 fun h => hb ((hp b).1 h)
  have hright : dropEnd p r = [] := by
    rw [dropEnd, List.reverse_eq_nil_iff, List.dropWhile_eq_nil_iff]
    exact fun b hb => (hp b).2 (hr (List.mem_reverse.1 hb))
  rw [strip, List.append_assoc, List.dropWhile_append_of_pos fun b hb => (hp b).2 (hl hb)]
  cases core with
  | nil =>
    have hrun : r.dropWhile p = [] := List.dropWhile_eq_nil_iff.2 fun b hb => (hp b).2 (hr hb)
    rw [List.nil_append, hrun, dropEnd_nil]
  | cons c t =>
    have hfront : ∀ b ∈ (c :: t ++ r).head?, p b = false := fun b hb => hnot (hfirst b hb)
    rw [dropWhile_of_head? hfront, dropEnd_append_of_last (fun b hb => hnot (hlast b hb)), hright,
      List.append_nil]

/-! ## Cores -/

lemma core_nil_iff : Core spaces s [] ↔ s ⊆ spaces := by
  constructor
  · rintro ⟨-, l, r, rfl, hl, hr⟩
    rw [List.append_nil]
    exact List.append_subset.2 ⟨hl, hr⟩
  · intro h
    exact ⟨⟨by simp, by simp⟩, s, [], by simp, h, by simp⟩

lemma Bare.core_self (h : Bare spaces s) : Core spaces s s :=
  ⟨h, [], [], by simp, by simp, by simp⟩

/-- A core does not change when more of the given bytes are put around the text. -/
lemma Core.surround (h : Core spaces s core) {l r : Text} (hl : l ⊆ spaces) (hr : r ⊆ spaces) :
    Core spaces (l ++ s ++ r) core := by
  obtain ⟨hbare, l', r', rfl, hl', hr'⟩ := h
  refine ⟨hbare, l ++ l', r' ++ r, ?_, ?_, ?_⟩
  · simp only [List.append_assoc]
  · exact List.append_subset.2 ⟨hl, hl'⟩
  · exact List.append_subset.2 ⟨hr', hr⟩

end ModuleRegistry.Text
