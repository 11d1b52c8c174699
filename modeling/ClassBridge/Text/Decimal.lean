/-
  ClassBridge.Text.Decimal
  ────────────────────────
  **Decimal numerals in a buffer of exactly their length.**

  `digitCount n` is the length of the numeral of `n`; `numeral size n` fills a
  buffer of that size from its last digit to its first, so the numeral has no
  leading zero unless it is `0` itself.
-/
import ClassBridge.Text.Buffer

namespace ClassBridge.Decimal

/-- How many decimal digits `n` has; zero has one. -/
def digitCount (n : Nat) : Nat :=
  if n < 10 then 1 else digitCount (n / 10) + 1

/-- The `count` lowest decimal digits of `n`, the most significant first. -/
def lowDigits : (count : Nat) → (n : Nat) → List UInt8
  | 0, _ => []
  | count + 1, n => lowDigits count (n / 10) ++ [48 + UInt8.ofNat (n % 10)]

@[simp] theorem length_lowDigits (count n : Nat) : (lowDigits count n).length = count := by
  induction count generalizing n with
  | zero => rfl
  | succ count ih => simp [lowDigits, ih]

/-- The decimal numeral of `n`, in a buffer that must have its digit count. -/
def numeral (size : Nat) (n : Nat) : Except TextFault (Buffer size) :=
  if digitCount n = size then .ok (Buffer.ofList (lowDigits size n) (length_lowDigits size n))
  else .error .numeralSize

end ClassBridge.Decimal
