import ModuleRegistry.Text.Basic

/-!
# Percent-encoding

Identifiers enter an address percent-encoded (RFC 3986, section 2): an unreserved byte stands for
itself and every other byte is written `%XY` with two upper-case hexadecimal digits.  `encode` is
built byte by byte, so it distributes over concatenation (`encode_append`); `decode` is the usual
reader, which accepts digits of either case and leaves everything else alone.

Main statement: `decode_encode`, what was encoded reads back byte for byte.
-/

namespace ModuleRegistry.Text.Percent

/-- The bytes that stand for themselves: ASCII letters and digits, `-`, `_`, `.` and `~`. -/
def isUnreserved (b : UInt8) : Bool :=
  (0x41 ≤ b && b ≤ 0x5A) || (0x61 ≤ b && b ≤ 0x7A) || (0x30 ≤ b && b ≤ 0x39) ||
    b == 0x2D || b == 0x5F || b == 0x2E || b == 0x7E

/-- The upper-case hexadecimal digit of a number below sixteen. -/
def hexDigit (n : UInt8) : UInt8 := if n < 10 then 0x30 + n else 0x37 + n

/-- The three bytes `%XY` of an escaped byte. -/
def escape (b : UInt8) : Text := [0x25, hexDigit (b / 16), hexDigit (b % 16)]

/-- A byte as it stands in an address. -/
def encodeByte (b : UInt8) : Text := if isUnreserved b then [b] else escape b

/-- A text as it stands in an address. -/
def encode (s : Text) : Text := s.flatMap encodeByte

@[simp] theorem encode_nil : encode [] = [] := rfl

@[simp] theorem encode_cons (b : UInt8) (s : Text) : encode (b :: s) = encodeByte b ++ encode s :=
  rfl

@[simp] theorem encode_append (s t : Text) : encode (s ++ t) = encode s ++ encode t :=
  List.flatMap_append

/-! ## Reading -/

/-- The value of a hexadecimal digit of either case. -/
def hexValue (b : UInt8) : Option UInt8 :=
  if 0x30 ≤ b ∧ b ≤ 0x39 then some (b - 0x30)
  else if 0x41 ≤ b ∧ b ≤ 0x46 then some (b - 0x37)
  else if 0x61 ≤ b ∧ b ≤ 0x66 then some (b - 0x57)
  else none

/-- Replaces each `%XY` by the byte that it stands for; a `%` without two digits after it, like any
other byte, stands for itself. -/
def decode : Text → Text
  | [] => []
  | [a] => [a]
  | [a, b] => [a, b]
  | a :: b :: c :: r =>
    if a = 0x25 then
      match hexValue b, hexValue c with
      | some hi, some lo => (hi * 16 + lo) :: decode r
      | _, _ => a :: decode (b :: c :: r)
    else a :: decode (b :: c :: r)

/-! ## Round trip -/

@[simp] theorem hexValue_hexDigit {n : UInt8} (h : n < 16) : hexValue (hexDigit n) = some n := by
  have key : ∀ i : Fin 16, hexValue (hexDigit (UInt8.ofNat i)) = some (UInt8.ofNat i) := by decide
  have := key ⟨n.toNat, UInt8.lt_iff_toNat_lt.1 h⟩
  simpa using this

theorem div_mul_add_mod (b : UInt8) : b / 16 * 16 + b % 16 = b := by
  apply UInt8.toNat_inj.1
  have := b.toNat_lt
  simp only [UInt8.toNat_add, UInt8.toNat_mul, UInt8.toNat_div, UInt8.toNat_mod, UInt8.reduceToNat]
  omega

theorem decode_cons_of_ne {a : UInt8} (h : a ≠ 0x25) (r : Text) : decode (a :: r) = a :: decode r := by
  match r with
  | [] => rfl
  | [b] => rfl
  | b :: c :: r => simp [decode, h]

theorem div_lt (b : UInt8) : b / 16 < 16 := by
  have := b.toNat_lt
  rw [UInt8.lt_iff_toNat_lt, UInt8.toNat_div]
  simp only [UInt8.reduceToNat]
  omega

theorem mod_lt (b : UInt8) : b % 16 < 16 := by
  rw [UInt8.lt_iff_toNat_lt, UInt8.toNat_mod]
  simp only [UInt8.reduceToNat]
  omega

theorem decode_escape_append (b : UInt8) (r : Text) : decode (escape b ++ r) = b :: decode r := by
  have hi := div_lt b
  have lo := mod_lt b
  simp [escape, decode, hexValue_hexDigit hi, hexValue_hexDigit lo, div_mul_add_mod]

theorem ne_percent_of_isUnreserved {b : UInt8} (h : isUnreserved b = true) : b ≠ 0x25 := by
  rintro rfl
  exact absurd h (by decide)

theorem decode_encodeByte_append (b : UInt8) (r : Text) :
    decode (encodeByte b ++ r) = b :: decode r := by
  rw [encodeByte]
  split
  · next h => exact decode_cons_of_ne (ne_percent_of_isUnreserved h) r
  · exact decode_escape_append b r

/-- **What was encoded reads back**, and so does whatever follows it. -/
theorem decode_encode_append (s r : Text) : decode (encode s ++ r) = s ++ decode r := by
  induction s with
  | nil => rfl
  | cons b s ih => rw [encode_cons, List.append_assoc, decode_encodeByte_append, ih, List.cons_append]

@[simp] theorem decode_encode (s : Text) : decode (encode s) = s := by
  simpa [decode] using decode_encode_append s []

example : encode (ascii "a/b c~") = ascii "a%2Fb%20c~" := by decide
example : decode (ascii "a%2Fb%20c~%") = ascii "a/b c~%" := by decide
example : decode (ascii "%e2%zz") = 0xE2 :: ascii "%zz" := by decide

end ModuleRegistry.Text.Percent
