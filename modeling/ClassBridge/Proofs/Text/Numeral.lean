/-
  ClassBridge.Proofs.Text.Numeral
  ───────────────────────────────
  **Every number has one canonical numeral, and the buffer holds it.**

  `value` reads digits in base ten.  Two facts tie the count of digits and the
  digits themselves to it, and neither is about a particular buffer:

      digitCount_le_iff    `k` digits are enough exactly below `10 ^ k`
      value_lowDigits      the `count` lowest digits of `n` are those of
                           `n % 10 ^ count`: what is still to be filled in
                           and what is filled in make up `n` at every step

  With exactly `digitCount n` digits nothing of `n` is left over and no zero
  stands in front, so reading and writing undo each other (`canonical_iff`).
  `numeral_correct` states this of the numerals that are put into buffers.
-/
import ClassBridge.Proofs.Text.Decimal
import Mathlib.Algebra.Group.Nat.Defs
import Mathlib.Data.List.Induction
import Mathlib.Order.Bounds.Basic

namespace ClassBridge.Decimal

/-! ## §1. How many digits are enough. -/

theorem one_le_digitCount (n : Nat) : 1 ≤ digitCount n := by
  rw [digitCount]
  split <;> omega

/-- **`k` digits are enough exactly below `10 ^ k`.** -/
theorem digitCount_le_iff {k : Nat} (hk : 1 ≤ k) (n : Nat) : digitCount n ≤ k ↔ n < 10 ^ k := by
  induction k, hk using Nat.le_induction generalizing n with
  | base =>
    by_cases h : n < 10
    · rw [digitCount_of_lt h]
      omega
    · -- a second digit is in front of the last one
      have hfront := one_le_digitCount (n / 10)
      rw [digitCount_of_le (by omega)]
      omega
  | succ k hk ih =>
    by_cases h : n < 10
    · have hpow : 10 ^ 1 ≤ 10 ^ (k + 1) := Nat.pow_le_pow_right (by omega) (by omega)
      rw [digitCount_of_lt h]
      omega
    · -- the last digit is one digit, and one factor of ten
      rw [digitCount_of_le (by omega), Nat.add_le_add_iff_right, ih, Nat.pow_succ]
      omega

theorem isLeast_digitCount (n : Nat) : IsLeast {k | 1 ≤ k ∧ n < 10 ^ k} (digitCount n) := by
  refine ⟨⟨one_le_digitCount n, ?_⟩, ?_⟩
  · exact (digitCount_le_iff (one_le_digitCount n) n).1 le_rfl
  · rintro k ⟨hk, hn⟩
    exact (digitCount_le_iff hk n).2 hn

theorem lt_pow_digitCount (n : Nat) : n < 10 ^ digitCount n :=
  (isLeast_digitCount n).1.2

/-! ## §2. Reading digits. -/

/-- The byte of one of the digits from `0` to `9`. -/
def IsDigit (b : UInt8) : Prop := 48 ≤ b.toNat ∧ b.toNat ≤ 57

/-- The number read so far, after one more digit. -/
def readDigit (v : Nat) (b : UInt8) : Nat := 10 * v + (b.toNat - 48)

/-- The number that digits stand for in base ten, the most significant first. -/
def value (digits : List UInt8) : Nat := digits.foldl readDigit 0

theorem value_concat (digits : List UInt8) (b : UInt8) :
    value (digits ++ [b]) = 10 * value digits + (b.toNat - 48) := by
  simp [value, readDigit]

/-- A zero in front counts for nothing. -/
theorem value_zero_cons (digits : List UInt8) : value (48 :: digits) = value digits := by
  simp [value, readDigit]

/-- The byte that is put into the buffer for a digit. -/
theorem toNat_digit {d : Nat} (h : d < 10) : (48 + UInt8.ofNat d).toNat = 48 + d := by
  have hbyte : (UInt8.ofNat d).toNat = d := UInt8.toNat_ofNat_of_lt' (by show d < 256; omega)
  rw [UInt8.toNat_add, hbyte]
  show (48 + d) % 256 = 48 + d
  omega

theorem isDigit_digit {d : Nat} (h : d < 10) : IsDigit (48 + UInt8.ofNat d) := by
  unfold IsDigit
  rw [toNat_digit h]
  omega

/-- A digit is the byte for its own value. -/
theorem IsDigit.eq_digit {b : UInt8} (h : IsDigit b) : b = 48 + UInt8.ofNat (b.toNat - 48) := by
  obtain ⟨hlow, hhigh⟩ := h
  rw [← UInt8.toNat_inj, toNat_digit (by omega)]
  omega

/-! ## §3. Reading undoes writing. -/

theorem isDigit_of_mem_lowDigits {count n : Nat} {b : UInt8} (hb : b ∈ lowDigits count n) :
    IsDigit b := by
  induction count generalizing n with
  | zero => cases hb
  | succ count ih =>
    rw [lowDigits, List.mem_append, List.mem_singleton] at hb
    rcases hb with hb | rfl
    · exact ih hb
    · exact isDigit_digit (Nat.mod_lt n (by omega))

/-- **The lowest digits of `n` are read as what is left of `n` below their
place.** -/
theorem value_lowDigits (count n : Nat) : value (lowDigits count n) = n % 10 ^ count := by
  induction count generalizing n with
  | zero => exact (Nat.mod_one n).symm
  | succ count ih =>
    -- the last digit is `n % 10`, and those in front of it come from `n / 10`
    have hlast : n % 10 < 10 := Nat.mod_lt n (by omega)
    rw [lowDigits, value_concat, ih, toNat_digit hlast, Nat.pow_succ', Nat.mod_mul]
    omega

theorem value_lowDigits_digitCount (n : Nat) : value (lowDigits (digitCount n) n) = n := by
  rw [value_lowDigits, Nat.mod_eq_of_lt (lt_pow_digitCount n)]

theorem value_lt_pow_length {digits : List UInt8} (hd : ∀ b ∈ digits, IsDigit b) :
    value digits < 10 ^ digits.length := by
  induction digits using List.reverseRecOn with
  | nil => exact Nat.one_pos
  | append_singleton digits b ih =>
    have hfront := ih fun c hc => hd c (by simp [hc])
    have hlast := hd b (by simp)
    unfold IsDigit at hlast
    rw [value_concat, List.length_append, List.length_singleton, Nat.pow_succ]
    omega

/-- **Digits are the lowest digits of the number they stand for**, zeros in
front included. -/
theorem lowDigits_value {digits : List UInt8} (hd : ∀ b ∈ digits, IsDigit b) :
    lowDigits digits.length (value digits) = digits := by
  induction digits using List.reverseRecOn with
  | nil => rfl
  | append_singleton digits b ih =>
    have hfront := ih fun c hc => hd c (by simp [hc])
    have hlast := hd b (by simp)
    have hbyte := hlast.eq_digit
    unfold IsDigit at hlast
    -- the last digit comes off the number by one division
    have hdiv : (10 * value digits + (b.toNat - 48)) / 10 = value digits := by omega
    have hmod : (10 * value digits + (b.toNat - 48)) % 10 = b.toNat - 48 := by omega
    rw [List.length_append, List.length_singleton, lowDigits, value_concat, hdiv, hmod, hfront,
      ← hbyte]

/-! ## §4. Canonical numerals. -/

/-- Digits, at least one of them, and a zero in front only if it stands alone. -/
structure Canonical (digits : List UInt8) : Prop where
  nonempty : digits ≠ []
  isDigit : ∀ b ∈ digits, IsDigit b
  zero : digits.head? = some 48 → digits = [48]

/-- Digits behind one that is not zero make a number with that many digits more. -/
theorem pow_length_le_value {b : UInt8} (digits : List UInt8) (hb : IsDigit b) (hne : b ≠ 48) :
    10 ^ digits.length ≤ value (b :: digits) := by
  induction digits using List.reverseRecOn with
  | nil =>
    have hne' : b.toNat ≠ 48 := fun h => hne (UInt8.toNat_inj.1 h)
    unfold IsDigit at hb
    show 1 ≤ 10 * 0 + (b.toNat - 48)
    omega
  | append_singleton digits c ih =>
    rw [← List.cons_append, value_concat, List.length_append, List.length_singleton,
      Nat.pow_succ]
    omega

/-- A canonical numeral has the digit count of its number. -/
theorem Canonical.digitCount_value {digits : List UInt8} (h : Canonical digits) :
    digitCount (value digits) = digits.length := by
  have hpos : 1 ≤ digits.length := List.length_pos_iff.2 h.nonempty
  refine Nat.le_antisymm ((digitCount_le_iff hpos _).2 (value_lt_pow_length h.isDigit)) ?_
  have hcount := one_le_digitCount (value digits)
  cases digits with
  | nil => exact absurd rfl h.nonempty
  | cons b rest =>
    by_cases hb : b = 48
    · have halone : b :: rest = [48] := h.zero (by rw [hb]; rfl)
      rw [halone] at hcount ⊢
      exact hcount
    · have hvalue := pow_length_le_value rest (h.isDigit b (by simp)) hb
      by_contra hfew
      -- fewer digits would only do for a smaller number
      rw [List.length_cons] at hfew
      have hrest : digitCount (value (b :: rest)) ≤ rest.length := by omega
      have hlt := (digitCount_le_iff (by omega) _).1 hrest
      omega

theorem canonical_lowDigits (n : Nat) : Canonical (lowDigits (digitCount n) n) where
  nonempty := by
    have hpos := one_le_digitCount n
    rw [← List.length_pos_iff, length_lowDigits]
    omega
  isDigit := fun _ => isDigit_of_mem_lowDigits
  zero := by
    intro hhead
    have hvalue := value_lowDigits_digitCount n
    have hlength := length_lowDigits (digitCount n) n
    have hdigits : ∀ b ∈ lowDigits (digitCount n) n, IsDigit b := fun _ => isDigit_of_mem_lowDigits
    generalize lowDigits (digitCount n) n = digits at hhead hvalue hlength hdigits ⊢
    obtain ⟨rest, rfl⟩ := List.head?_eq_some_iff.1 hhead
    cases rest with
    | nil => rfl
    | cons b rest =>
      -- without the zero in front the digits would still be enough
      have hlt := value_lt_pow_length fun c hc => hdigits c (List.mem_cons_of_mem 48 hc)
      rw [value_zero_cons] at hvalue
      rw [hvalue] at hlt
      have hle := (digitCount_le_iff (by simp) n).2 hlt
      rw [List.length_cons] at hlength
      omega

/-- **A number has one canonical numeral: its `digitCount` lowest digits.** -/
theorem canonical_iff {digits : List UInt8} {n : Nat} :
    Canonical digits ∧ value digits = n ↔ digits = lowDigits (digitCount n) n := by
  constructor
  · rintro ⟨hc, rfl⟩
    rw [hc.digitCount_value, lowDigits_value hc.isDigit]
  · rintro rfl
    exact ⟨canonical_lowDigits n, value_lowDigits_digitCount n⟩

/-! ## §5. The numeral in the buffer. -/

theorem numeral_eq_ok_iff {size n : Nat} {buffer : Buffer size} :
    numeral size n = .ok buffer
      ↔ digitCount n = size ∧ buffer.toList = lowDigits (digitCount n) n := by
  unfold numeral
  constructor
  · intro h
    split at h
    · next hsize =>
      obtain rfl := Except.ok.inj h
      rw [hsize]
      exact ⟨rfl, Buffer.toList_ofList _⟩
    · cases h
  · rintro ⟨rfl, hbuffer⟩
    rw [if_pos rfl, ← Vector.toList_inj.1 ((Buffer.toList_ofList _).trans hbuffer.symm)]

theorem numeral_eq_error_iff {size n : Nat} {f : TextFault} :
    numeral size n = .error f ↔ size ≠ digitCount n ∧ f = .numeralSize := by
  unfold numeral
  by_cases h : digitCount n = size
  · rw [if_pos h]
    simp [h]
  · rw [if_neg h]
    simp [Ne.symm h, eq_comm]

/-- **A number is written with the least number of digits that is enough, in a
buffer of exactly that size, as its one canonical numeral.**  Reading that
gives the number again, so different numbers have different numerals, and each
canonical numeral is what its number is written as. -/
theorem numeral_correct (n : Nat) :
    IsLeast {k | 1 ≤ k ∧ n < 10 ^ k} (digitCount n)
      ∧ (∀ size f, numeral size n = .error f ↔ size ≠ digitCount n ∧ f = .numeralSize)
      ∧ (∃ buffer, numeral (digitCount n) n = .ok buffer)
      ∧ (∀ size (buffer : Buffer size), numeral size n = .ok buffer →
          Canonical buffer.toList ∧ value buffer.toList = n
            ∧ (buffer.toList.head? = some 48 ↔ n = 0)
            ∧ ∀ digits, Canonical digits → value digits = n → digits = buffer.toList)
      ∧ (∀ n' size size' (buffer : Buffer size) (buffer' : Buffer size'),
          numeral size n = .ok buffer → numeral size' n' = .ok buffer' →
            buffer.toList = buffer'.toList → n = n')
      ∧ ∀ digits, Canonical digits →
          ∃ buffer : Buffer digits.length,
            numeral digits.length (value digits) = .ok buffer ∧ buffer.toList = digits := by
  refine ⟨isLeast_digitCount n, fun _ _ => numeral_eq_error_iff, ?_, ?_, ?_, ?_⟩
  · exact ⟨_, numeral_digitCount n⟩
  · intro size buffer h
    obtain ⟨hc, hv⟩ := canonical_iff.2 (numeral_eq_ok_iff.1 h).2
    refine ⟨hc, hv, ⟨?_, ?_⟩, ?_⟩
    · intro hhead
      rw [← hv, hc.zero hhead]
      rfl
    · rintro rfl
      rw [(numeral_eq_ok_iff.1 h).2, digitCount_of_lt (by omega)]
      rfl
    · intro digits hd hvalue
      rw [canonical_iff.1 ⟨hd, hvalue⟩, (numeral_eq_ok_iff.1 h).2]
  · intro n' size size' buffer buffer' h h' hsame
    -- both are read from the same digits
    have hv := (canonical_iff.2 (numeral_eq_ok_iff.1 h).2).2
    have hv' := (canonical_iff.2 (numeral_eq_ok_iff.1 h').2).2
    rw [← hv, ← hv', hsame]
  · intro digits hd
    have hsize := hd.digitCount_value
    refine ⟨Buffer.ofList digits rfl, numeral_eq_ok_iff.2 ⟨hsize, ?_⟩, Buffer.toList_ofList _⟩
    rw [Buffer.toList_ofList]
    exact canonical_iff.1 ⟨hd, rfl⟩

/-- The largest number of sixty-four bits has twenty digits. -/
example :
    digitCount (2 ^ 64 - 1) = 20 ∧ digitCount (10 ^ 19) = 20 ∧ digitCount (10 ^ 19 - 1) = 19 := by
  decide +kernel

end ClassBridge.Decimal
