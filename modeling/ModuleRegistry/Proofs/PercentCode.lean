import ModuleRegistry.Proofs.Addresses

/-!
# Percent-encoding as a code

Every text has one encoding, and the encodings are the texts of a certain form.  `Canonical` says the
form without the encoder: unreserved bytes that stand for themselves, and triples `%XY` of upper-case
digits, none of which writes an unreserved byte.  A triple in lower case and a triple for a letter are
read all the same, but nothing is encoded by them.

`Numeral` is what two hexadecimal digits write, by their places in the list of all sixteen; it is
the escape of the encoder (`numeral_iff`), and with that both directions follow the grammar.

Main statement: `canonical_code`.
-/

namespace ModuleRegistry.Text.Percent

/-! ## The form of an encoded text -/

/-- The digits that an encoded text may use, each at the place of its value. -/
def hexDigits : Text := ascii "0123456789ABCDEF"

/-- Two digits write a byte. -/
def Numeral (x y b : UInt8) : Prop :=
  ∃ hi lo : Nat, hexDigits[hi]? = some x ∧ hexDigits[lo]? = some y ∧ b.toNat = 16 * hi + lo

/-- The form of an encoded text. -/
inductive Canonical : Text → Prop where
  | nil : Canonical []
  | byte {b : UInt8} {s : Text} : b ∈ unreserved → Canonical s → Canonical (b :: s)
  | escape {x y b : UInt8} {s : Text} : Numeral x y b → b ∉ unreserved → Canonical s →
      Canonical (0x25 :: x :: y :: s)

/-! ## Digits -/

lemma getElem?_hexDigits {n : UInt8} (h : n < 16) : hexDigits[n.toNat]? = some (hexDigit n) := by
  have key : ∀ i : Fin 16, hexDigits[i.val]? = some (hexDigit (UInt8.ofNat i)) := by decide
  have := key ⟨n.toNat, UInt8.lt_iff_toNat_lt.1 h⟩
  simpa using this

lemma lt_of_getElem?_hexDigits {n : Nat} {x : UInt8} (h : hexDigits[n]? = some x) : n < 16 :=
  (List.getElem?_eq_some_iff.1 h).1

/-- **The digits of a byte are those of its escape**: the quotient and the remainder by sixteen. -/
lemma numeral_iff {x y b : UInt8} : Numeral x y b ↔ escape b = [0x25, x, y] := by
  have hhi := getElem?_hexDigits (div_lt b)
  have hlo := getElem?_hexDigits (mod_lt b)
  rw [UInt8.toNat_div] at hhi
  rw [UInt8.toNat_mod] at hlo
  constructor
  · rintro ⟨hi, lo, hx, hy, hb⟩
    have hlt := lt_of_getElem?_hexDigits hy
    have hdiv : b.toNat / 16 = hi := by omega
    have hmod : b.toNat % 16 = lo := by omega
    rw [← hdiv] at hx
    rw [← hmod] at hy
    rw [escape, Option.some.inj (hhi.symm.trans hx), Option.some.inj (hlo.symm.trans hy)]
  · intro h
    obtain ⟨rfl, rfl⟩ : hexDigit (b / 16) = x ∧ hexDigit (b % 16) = y := by simpa [escape] using h
    exact ⟨_, _, hhi, hlo, by simp only [UInt8.reduceToNat]; omega⟩

lemma encodeByte_of_mem {b : UInt8} (h : b ∈ unreserved) : encodeByte b = [b] := by
  rw [encodeByte, if_pos (mem_unreserved_iff.1 h)]

lemma encodeByte_of_not_mem {b : UInt8} (h : b ∉ unreserved) : encodeByte b = escape b := by
  rw [encodeByte, if_neg (mt mem_unreserved_iff.2 h)]

/-! ## Both directions -/

lemma canonical_encode (s : Text) : Canonical (encode s) := by
  induction s with
  | nil => exact .nil
  | cons b s ih =>
    rw [encode_cons]
    by_cases hb : b ∈ unreserved
    · rw [encodeByte_of_mem hb]
      exact .byte hb ih
    · rw [encodeByte_of_not_mem hb]
      exact .escape (numeral_iff.2 rfl) hb ih

lemma Canonical.encode_decode {u : Text} (h : Canonical u) : encode (decode u) = u := by
  induction h with
  | nil => rfl
  | @byte b u hb _ ih =>
    have hpercent : b ≠ 0x25 := ne_percent_of_isUnreserved (mem_unreserved_iff.1 hb)
    rw [decode_cons_of_ne hpercent, encode_cons, encodeByte_of_mem hb, ih, List.singleton_append]
  | @escape x y b u hnumeral hb _ ih =>
    have hescape : 0x25 :: x :: y :: u = Percent.escape b ++ u := by
      rw [numeral_iff.1 hnumeral]
      rfl
    rw [hescape, decode_escape_append, encode_cons, encodeByte_of_not_mem hb, ih]

/-- A text is in canonical form if decoding loses nothing. -/
lemma canonical_iff {u : Text} : Canonical u ↔ encode (decode u) = u :=
  ⟨Canonical.encode_decode, fun h => h ▸ canonical_encode _⟩

instance : DecidablePred Canonical := fun _ => decidable_of_iff _ canonical_iff.symm

/-- **Percent-encoding is an invertible code with one spelling for each text.**  What was encoded reads
back; texts are encoded byte for byte; and a text is the encoding of some text exactly if it has the
canonical form, which is to say if encoding what is read in it gives it back. -/
theorem canonical_code (s t u : Text) :
    decode (encode s) = s ∧ encode (s ++ t) = encode s ++ encode t ∧
    ((∃ v, encode v = u) ↔ Canonical u) ∧ (Canonical u ↔ encode (decode u) = u) := by
  refine ⟨decode_encode s, encode_append s t, ⟨?_, fun h => ⟨_, h.encode_decode⟩⟩, canonical_iff⟩
  rintro ⟨v, rfl⟩
  exact canonical_encode v

example : Canonical (ascii "a%2F%FF~") := by decide
example : ¬Canonical (ascii "a%2f") := by decide
example : ¬Canonical (ascii "%61") := by decide
example : ¬Canonical (ascii "a%2") := by decide

end ModuleRegistry.Text.Percent
