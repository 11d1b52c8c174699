/-
  ClassBridge.Proofs.Text.Decimal
  ───────────────────────────────
  **The filled buffer is the decimal numeral.**

  Both the digit count and the digits fall into the last digit of `n` and the
  numeral of `n / 10`; so do the digits of `Nat.toDigits`.  Hence the buffer
  holds the encoding of the canonical numeral: `lowDigits_digitCount`.
-/
import ClassBridge.Proofs.Text.Encoding

namespace ClassBridge.Decimal

theorem digitCount_of_lt {n : Nat} (h : n < 10) : digitCount n = 1 := by
  rw [digitCount, if_pos h]

theorem digitCount_of_le {n : Nat} (h : 10 ≤ n) : digitCount n = digitCount (n / 10) + 1 := by
  rw [digitCount, if_neg (by omega)]

/-! ## §1. Single digits. -/

/-- The byte of a digit is the character that shows it. -/
theorem encodeChar_digitChar {d : Nat} (h : d < 10) :
    String.utf8EncodeChar d.digitChar = [48 + UInt8.ofNat d] := by
  have hd : ∀ d : Fin 10, String.utf8EncodeChar d.val.digitChar = [48 + UInt8.ofNat d.val] := by
    decide
  exact hd ⟨d, h⟩

/-! ## §2. Numerals. -/

/-- **The digits put into the buffer are those of the canonical numeral.** -/
theorem lowDigits_digitCount (n : Nat) :
    lowDigits (digitCount n) n = Utf8.encode (String.ofList (Nat.toDigits 10 n)) := by
  induction n using Nat.strongRecOn with
  | ind n ih =>
    by_cases h : n < 10
    · rw [digitCount_of_lt h, Nat.toDigits_of_lt_base h, Utf8.encode_ofList, lowDigits, lowDigits,
        Nat.mod_eq_of_lt h]
      simp [encodeChar_digitChar h]
    · -- the last digit comes off the buffer and off the numeral
      have hmod : n % 10 < 10 := Nat.mod_lt n (by omega)
      have hlast : Nat.toDigits 10 n = Nat.toDigits 10 (n / 10) ++ [(n % 10).digitChar] :=
        Nat.toDigits_of_base_le (by omega) (by omega)
      rw [digitCount_of_le (by omega), lowDigits, ih (n / 10) (by omega), hlast,
        String.ofList_append, Utf8.encode_append, Utf8.encode_ofList [(n % 10).digitChar]]
      simp [encodeChar_digitChar hmod]

theorem numeral_digitCount (n : Nat) :
    numeral (digitCount n) n
      = .ok (Buffer.ofList (lowDigits (digitCount n) n) (length_lowDigits _ n)) := by
  rw [numeral, if_pos rfl]

/-- No digit is a NUL. -/
theorem nul_notMem_toDigits (n : Nat) : Char.ofNat 0 ∉ Nat.toDigits 10 n := by
  intro h
  have hdigit := Nat.isDigit_of_mem_toDigits (by omega) (by omega) h
  exact absurd hdigit (by decide)

end ClassBridge.Decimal
