import ModuleRegistry.Text.Basic

/-!
# Decimal numerals

Status codes and timeouts are written in base ten: the digits without leading zeros, and a minus
sign before those of a negative number.
-/

namespace ModuleRegistry.Text

/-- The decimal numeral of a natural number. -/
def ofNat (n : Nat) : Text := (Nat.toDigits 10 n).map Char.toUInt8

/-- The decimal numeral of an integer. -/
def ofInt : Int → Text
  | .ofNat n => ofNat n
  | .negSucc n => '-'.toUInt8 :: ofNat (n + 1)

@[simp] theorem ofInt_natCast (n : Nat) : ofInt (n : Int) = ofNat n := rfl

example : ofInt 0 = ascii "0" := by decide
example : ofInt 404 = ascii "404" := by decide
example : ofInt (-2147483648) = ascii "-2147483648" := by decide

end ModuleRegistry.Text
