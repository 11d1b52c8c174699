/-
  ClassBridge.Proofs.Text.WellFormed
  ──────────────────────────────────
  **Which bytes are a text.**

  The bytes of a character are known by the first of them, which says how many
  there are, and by the range of the second, which keeps out characters that
  have a shorter form, surrogates, and numbers above the last character:

      first byte       second byte                       and then
      00 .. 7F
      C2 .. DF         80 .. BF
      E0 .. EF         80 .. BF, from A0 after E0,       one more
                       up to 9F after ED
      F0 .. F4         80 .. BF, from 90 after F0,       two more
                       up to 8F after F4

  `wellFormed_iff` — sequences of this form, one after another, are exactly
  the encodings of texts; so the table also says what can be decoded.
-/
import ClassBridge.Proofs.Text.Encoding

namespace ClassBridge.Utf8

/-! ## §1. The table. -/

/-- A byte that goes on with a character. -/
def IsTail (b : UInt8) : Prop := 0x80 ≤ b.toNat ∧ b.toNat ≤ 0xBF

/-- The bytes of one character. -/
inductive CharBytes : List UInt8 → Prop where
  | one {a : UInt8} (ha : a.toNat ≤ 0x7F) : CharBytes [a]
  | two {a b : UInt8} (ha : 0xC2 ≤ a.toNat ∧ a.toNat ≤ 0xDF) (hb : IsTail b) : CharBytes [a, b]
  | three {a b c : UInt8} (ha : 0xE0 ≤ a.toNat ∧ a.toNat ≤ 0xEF) (hb : IsTail b) (hc : IsTail c)
      (hlong : a.toNat = 0xE0 → 0xA0 ≤ b.toNat) (hsurrogate : a.toNat = 0xED → b.toNat ≤ 0x9F) :
      CharBytes [a, b, c]
  | four {a b c d : UInt8} (ha : 0xF0 ≤ a.toNat ∧ a.toNat ≤ 0xF4) (hb : IsTail b) (hc : IsTail c)
      (hd : IsTail d) (hlong : a.toNat = 0xF0 → 0x90 ≤ b.toNat)
      (hlast : a.toNat = 0xF4 → b.toNat ≤ 0x8F) : CharBytes [a, b, c, d]

/-- The bytes of characters, one after another. -/
inductive WellFormed : List UInt8 → Prop where
  | nil : WellFormed []
  | append {first rest : List UInt8} (hf : CharBytes first) (hr : WellFormed rest) :
      WellFormed (first ++ rest)

/-! ## §2. One character. -/

/-- A character is encoded by the table. -/
theorem charBytes_encodeChar (c : Char) : CharBytes (String.utf8EncodeChar c) := by
  have hc : c.val.toNat < 0xD800 ∨ 0xDFFF < c.val.toNat ∧ c.val.toNat < 0x110000 := c.valid
  unfold String.utf8EncodeChar
  generalize c.val.toNat = v at hc ⊢
  dsimp only
  split
  · refine .one ?_
    rw [UInt8.toNat_ofNat']
    omega
  · split
    · refine .two ?_ ?_ <;> simp only [IsTail, UInt8.toNat_ofNat'] <;> omega
    · split
      · refine .three ?_ ?_ ?_ ?_ ?_ <;> simp only [IsTail, UInt8.toNat_ofNat'] <;> omega
      · refine .four ?_ ?_ ?_ ?_ ?_ ?_ <;> simp only [IsTail, UInt8.toNat_ofNat'] <;> omega

/-- The character with a given number. -/
theorem exists_toNat_eq {v : Nat} (hv : v < 0xD800 ∨ 0xDFFF < v ∧ v < 0x110000) :
    ∃ c : Char, c.val.toNat = v :=
  ⟨Char.ofNatAux v hv, rfl⟩

theorem ofNat_eq {n : Nat} {b : UInt8} (h : n = b.toNat) : UInt8.ofNat n = b := by
  rw [h, UInt8.ofNat_toNat]

/-- Whatever fits the table is the encoding of a character: its number is put
together from what the bytes have beyond the marks of their ranges. -/
theorem CharBytes.exists_char {bytes : List UInt8} (h : CharBytes bytes) :
    ∃ c : Char, String.utf8EncodeChar c = bytes := by
  cases h with
  | @one a ha =>
    obtain ⟨c, hc⟩ := exists_toNat_eq (v := a.toNat) (by omega)
    refine ⟨c, ?_⟩
    unfold String.utf8EncodeChar
    rw [hc, if_pos ha, UInt8.ofNat_toNat]
  | @two a b ha hb =>
    unfold IsTail at hb
    obtain ⟨c, hc⟩ := exists_toNat_eq (v := (a.toNat - 0xC0) * 64 + (b.toNat - 0x80)) (by omega)
    refine ⟨c, ?_⟩
    unfold String.utf8EncodeChar
    dsimp only
    rw [hc, if_neg (by omega), if_pos (by omega), ofNat_eq (b := a) (by omega),
      ofNat_eq (b := b) (by omega)]
  | @three a b c ha hb hc hlong hsurrogate =>
    unfold IsTail at hb hc
    obtain ⟨ch, hch⟩ := exists_toNat_eq
      (v := (a.toNat - 0xE0) * 4096 + (b.toNat - 0x80) * 64 + (c.toNat - 0x80)) (by omega)
    refine ⟨ch, ?_⟩
    unfold String.utf8EncodeChar
    dsimp only
    rw [hch, if_neg (by omega), if_neg (by omega), if_pos (by omega),
      ofNat_eq (b := a) (by omega), ofNat_eq (b := b) (by omega), ofNat_eq (b := c) (by omega)]
  | @four a b c d ha hb hc hd hlong hlast =>
    unfold IsTail at hb hc hd
    obtain ⟨ch, hch⟩ := exists_toNat_eq
      (v := (a.toNat - 0xF0) * 262144 + (b.toNat - 0x80) * 4096 + (c.toNat - 0x80) * 64
        + (d.toNat - 0x80)) (by omega)
    refine ⟨ch, ?_⟩
    unfold String.utf8EncodeChar
    dsimp only
    rw [hch, if_neg (by omega), if_neg (by omega), if_neg (by omega),
      ofNat_eq (b := a) (by omega), ofNat_eq (b := b) (by omega), ofNat_eq (b := c) (by omega),
      ofNat_eq (b := d) (by omega)]

/-! ## §3. Texts. -/

theorem wellFormed_flatMap (s : List Char) : WellFormed (s.flatMap String.utf8EncodeChar) := by
  induction s with
  | nil => exact .nil
  | cons c s ih => exact .append (charBytes_encodeChar c) ih

theorem WellFormed.exists_chars {bytes : List UInt8} (h : WellFormed bytes) :
    ∃ s : List Char, bytes = s.flatMap String.utf8EncodeChar := by
  induction h with
  | nil => exact ⟨[], rfl⟩
  | append hf _ ih =>
    obtain ⟨c, rfl⟩ := hf.exists_char
    obtain ⟨s, rfl⟩ := ih
    exact ⟨c :: s, rfl⟩

/-- **Well-formed bytes are exactly the encodings of texts.** -/
theorem wellFormed_iff {bytes : List UInt8} : WellFormed bytes ↔ ∃ s, bytes = encode s := by
  constructor
  · intro h
    obtain ⟨s, hs⟩ := h.exists_chars
    exact ⟨String.ofList s, hs.trans (encode_ofList s).symm⟩
  · rintro ⟨s, rfl⟩
    exact wellFormed_flatMap s.toList

theorem decode?_eq_none_iff {bytes : List UInt8} : decode? bytes = none ↔ ¬ WellFormed bytes := by
  rw [wellFormed_iff]
  constructor
  · rintro h ⟨s, rfl⟩
    rw [decode?_encode] at h
    cases h
  · intro h
    cases hd : decode? bytes with
    | none => rfl
    | some s => exact absurd ⟨s, eq_encode_of_decode? hd⟩ h

/-- A character cut short, a longer form than needed, and a surrogate. -/
example : decode? [0xE2, 0x82] = none ∧ decode? [0xC0, 0x80] = none
    ∧ decode? [0xED, 0xA0, 0x80] = none := by
  decide +kernel

end ClassBridge.Utf8
