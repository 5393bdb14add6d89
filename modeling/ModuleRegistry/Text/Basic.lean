/-!
# Byte text

Identifiers, addresses and header values travel as bytes: nothing in the registry protocol asks
them to be valid in any character encoding.  A `Text` is therefore a list of bytes, and its order
is the lexicographic one on unsigned bytes.

This module holds what the rest of the library asks of text:

* `ascii`, the bytes of a literal;
* the six blank bytes, with `isBlank` (a text of blanks only) and `trim` (a text without the
  blanks at its ends);
* `strip`, which removes from both ends what a predicate accepts, and `dropEnd`, its right half;
* `untilNul`, the part of a text that a reader of NUL-terminated strings sees;
* `before` and `after`, the two sides of the first occurrence of a separator byte.

Main statements: `ends_of_strip` says that a strip only removes accepted bytes, and
`dropEnd_append_takeEnd` gives the pieces back.
-/

namespace ModuleRegistry

/-- A text is the list of its bytes. -/
abbrev Text := List UInt8

namespace Text

/-- The bytes of a literal whose characters are all ASCII. -/
def ascii (s : String) : Text := s.toList.map Char.toUInt8

/-! ## Removing bytes at the ends -/

/-- A text without the longest run at its end whose bytes `p` accepts. -/
def dropEnd (p : UInt8 → Bool) (s : Text) : Text := (s.reverse.dropWhile p).reverse

/-- The longest run at the end of a text whose bytes `p` accepts. -/
def takeEnd (p : UInt8 → Bool) (s : Text) : Text := (s.reverse.takeWhile p).reverse

/-- A text without the bytes at either end that `p` accepts. -/
def strip (p : UInt8 → Bool) (s : Text) : Text := dropEnd p (s.dropWhile p)

@[simp] theorem dropEnd_nil (p : UInt8 → Bool) : dropEnd p [] = [] := rfl

@[simp] theorem strip_nil (p : UInt8 → Bool) : strip p [] = [] := rfl

theorem dropEnd_append_takeEnd (p : UInt8 → Bool) (s : Text) :
    dropEnd p s ++ takeEnd p s = s := by
  rw [dropEnd, takeEnd, ← List.reverse_append, List.takeWhile_append_dropWhile, List.reverse_reverse]

theorem all_takeEnd (p : UInt8 → Bool) (s : Text) : (takeEnd p s).all p := by
  rw [takeEnd, List.all_reverse]
  exact List.all_takeWhile

/-- **A strip removes accepted bytes only**, and keeps everything between them. -/
theorem ends_of_strip (p : UInt8 → Bool) (s : Text) :
    s.takeWhile p ++ strip p s ++ takeEnd p (s.dropWhile p) = s := by
  rw [List.append_assoc, strip, dropEnd_append_takeEnd, List.takeWhile_append_dropWhile]

/-! ## Blanks -/

/-- Space, tab, carriage return, line feed, form feed and vertical tab. -/
def blanks : Text := [0x20, 0x09, 0x0D, 0x0A, 0x0C, 0x0B]

/-- Whether a byte is one of the `blanks`. -/
def isBlankByte (b : UInt8) : Bool := blanks.contains b

/-- Whether a text is empty or holds blanks only. -/
def isBlank (s : Text) : Bool := s.all isBlankByte

/-- A text without the blanks at its ends. -/
def trim (s : Text) : Text := strip isBlankByte s

@[simp] theorem isBlank_nil : isBlank [] = true := rfl

@[simp] theorem isBlank_cons (b : UInt8) (s : Text) :
    isBlank (b :: s) = (isBlankByte b && isBlank s) := rfl

@[simp] theorem isBlank_append (s t : Text) : isBlank (s ++ t) = (isBlank s && isBlank t) :=
  List.all_append

/-! ## Cutting at a byte -/

/-- The part of a text before the first occurrence of `sep`, or all of it. -/
def before (sep : UInt8) (s : Text) : Text := s.takeWhile (· != sep)

/-- The part of a text after the first occurrence of `sep`, or nothing. -/
def after (sep : UInt8) (s : Text) : Text := (s.dropWhile (· != sep)).drop 1

/-- The part of a text before its first NUL byte. -/
def untilNul (s : Text) : Text := before 0 s

theorem bne_of_mem {sep : UInt8} {s : Text} (h : sep ∉ s) : ∀ b ∈ s, (b != sep) = true := by
  intro b hb
  have hne : b ≠ sep := fun e => h (e ▸ hb)
  simpa using hne

theorem not_mem_before (sep : UInt8) (s : Text) : sep ∉ before sep s := by
  intro h
  have := List.all_eq_true.1 (List.all_takeWhile (p := (· != sep)) (l := s)) sep h
  simp at this

theorem before_eq_self {sep : UInt8} {s : Text} (h : sep ∉ s) : before sep s = s := by
  induction s with
  | nil => rfl
  | cons b r ih =>
    have hb : b ≠ sep := fun e => h (by simp [e])
    have hr : sep ∉ r := fun e => h (by simp [e])
    simpa [before, List.takeWhile_cons, hb] using ih hr

/-- Cutting at the first separator loses that separator only. -/
theorem before_append_after {sep : UInt8} {s : Text} (h : sep ∈ s) :
    before sep s ++ sep :: after sep s = s := by
  induction s with
  | nil => simp at h
  | cons b r ih =>
    by_cases hb : b = sep
    · subst hb; simp [before, after]
    · have hr : sep ∈ r := by simpa [Ne.symm hb] using h
      simpa [before, after, List.takeWhile_cons, List.dropWhile_cons, hb] using ih hr

/-- A text is cut where it was put together with a separator that its first part lacks. -/
theorem before_append_cons {sep : UInt8} {s : Text} (h : sep ∉ s) (r : Text) :
    before sep (s ++ sep :: r) = s := by
  rw [before, List.takeWhile_append_of_pos (bne_of_mem h)]
  simp

theorem after_append_cons {sep : UInt8} {s : Text} (h : sep ∉ s) (r : Text) :
    after sep (s ++ sep :: r) = r := by
  rw [after, List.dropWhile_append_of_pos (bne_of_mem h)]
  simp

/-! ## Joining -/

/-- The texts of a list, with `sep` between each two of them. -/
def join (sep : Text) : List Text → Text
  | [] => []
  | [s] => s
  | s :: t :: r => s ++ sep ++ join sep (t :: r)

@[simp] theorem join_nil (sep : Text) : join sep [] = [] := rfl

@[simp] theorem join_singleton (sep s : Text) : join sep [s] = s := rfl

theorem join_eq_intercalate (sep : Text) (l : List Text) : join sep l = sep.intercalate l := by
  induction l with
  | nil => rfl
  | cons s r ih =>
    cases r with
    | nil => simp
    | cons t r => rw [join, ih, List.intercalate_cons_cons]

end Text

end ModuleRegistry
