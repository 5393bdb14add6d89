import ModuleRegistry.Text.Basic

/-!
# Text in UTF-8

A document holds characters, so it can hold a text only if the bytes of that text are some: UTF-8, as
RFC 3629 has it, without overlong forms and without surrogates.  `isUtf8` reads a text from left to
right.  The first byte of a character decides which ranges the bytes behind it have to fall in
(`continuation?`), and these are owed until they have come.

Texts that are put together of such texts are such texts (`isUtf8_append`), and so is every text of
ASCII bytes (`isUtf8_of_isAscii`).
-/

namespace ModuleRegistry.Text

/-- Whether a byte lies in a range, both ends included. -/
def inRange (range : UInt8 × UInt8) (b : UInt8) : Bool := range.1 ≤ b && b ≤ range.2

/-- The range of a byte that goes on with a character, unless the byte before narrows it. -/
def tailRange : UInt8 × UInt8 := (0x80, 0xBF)

/-- The ranges of the bytes that go on with a character, by its first byte; nothing if no character
begins so. -/
def continuation? (b : UInt8) : Option (List (UInt8 × UInt8)) :=
  if b ≤ 0x7F then some []
  else if inRange (0xC2, 0xDF) b then some [tailRange]
  else if b = 0xE0 then some [(0xA0, 0xBF), tailRange]
  else if b = 0xED then some [(0x80, 0x9F), tailRange]
  else if inRange (0xE1, 0xEF) b then some [tailRange, tailRange]
  else if b = 0xF0 then some [(0x90, 0xBF), tailRange, tailRange]
  else if inRange (0xF1, 0xF3) b then some [tailRange, tailRange, tailRange]
  else if b = 0xF4 then some [(0x80, 0x8F), tailRange, tailRange]
  else none

/-- Whether a text pays the bytes that are owed to a character and then is UTF-8. -/
def isUtf8From : List (UInt8 × UInt8) → Text → Bool
  | [], [] => true
  | _ :: _, [] => false
  | range :: owed, b :: r => inRange range b && isUtf8From owed r
  | [], b :: r =>
    match continuation? b with
    | some owed => isUtf8From owed r
    | none => false

/-- Whether the bytes of a text are UTF-8. -/
def isUtf8 (s : Text) : Bool := isUtf8From [] s

/-- Whether all bytes of a text are ASCII. -/
def isAscii (s : Text) : Bool := s.all (· ≤ 0x7F)

@[simp] theorem isUtf8_nil : isUtf8 [] = true := rfl

theorem isUtf8From_append {owed : List (UInt8 × UInt8)} {s t : Text}
    (hs : isUtf8From owed s = true) (ht : isUtf8 t = true) : isUtf8From owed (s ++ t) = true := by
  induction s generalizing owed with
  | nil =>
    cases owed with
    | nil => exact ht
    | cons range owed => exact absurd hs Bool.false_ne_true
  | cons b r ih =>
    cases owed with
    | cons range owed =>
      obtain ⟨hb, hr⟩ := Bool.and_eq_true_iff.1 hs
      exact Bool.and_eq_true_iff.2 ⟨hb, ih hr⟩
    | nil =>
      cases hc : continuation? b with
      | none => simp [isUtf8From, hc] at hs
      | some owed =>
        have hr : isUtf8From owed r = true := by simpa [isUtf8From, hc] using hs
        simpa [isUtf8From, hc] using ih hr

/-- **Texts in UTF-8 can be put together.** -/
theorem isUtf8_append {s t : Text} (hs : isUtf8 s = true) (ht : isUtf8 t = true) :
    isUtf8 (s ++ t) = true :=
  isUtf8From_append hs ht

@[simp] theorem isAscii_append (s t : Text) : isAscii (s ++ t) = (isAscii s && isAscii t) :=
  List.all_append

theorem isUtf8_of_isAscii {s : Text} (h : isAscii s = true) : isUtf8 s = true := by
  induction s with
  | nil => rfl
  | cons b r ih =>
    obtain ⟨hb, hr⟩ := Bool.and_eq_true_iff.1 h
    have hc : continuation? b = some [] := if_pos (of_decide_eq_true hb)
    simpa [isUtf8, isUtf8From, hc] using ih hr

example : isUtf8 [0xC3, 0xA4, 0x20] = true := by decide
example : isUtf8 [0xED, 0xA0, 0x80] = false := by decide

end ModuleRegistry.Text
