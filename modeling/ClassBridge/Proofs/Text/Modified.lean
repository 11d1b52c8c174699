/-
  ClassBridge.Proofs.Text.Modified
  ────────────────────────────────
  **Where the encoding of names and the encoding of texts part.**

  Names are written for the machine with two changes:

      character              in a text         in a name
      U+0000                 00                C0 80
      above U+FFFF           four bytes        two surrogates, three bytes each
      any other              the same bytes in both

  `NameBytes` is this table, and `encodeModified` writes by it
  (`writtenAsName_iff`).  Both changes make a character longer, and nothing
  makes one shorter.  So a text is written as a name by its own bytes exactly
  if it has no character of the first two kinds
  (`encodeModified_eq_encode_iff`); a terminated text can only have one above
  U+FFFF.
-/
import ClassBridge.Proofs.Text.Termination
import Mathlib.Data.List.Forall2

namespace ClassBridge

namespace Utf8

/-! ## §1. How a name is written. -/

/-- How one character of a name is written. -/
inductive NameBytes : Char → List UInt8 → Prop where
  /-- NUL, without a zero byte. -/
  | nul : NameBytes (Char.ofNat 0) [0xC0, 0x80]
  /-- A character above U+FFFF, by its high and its low surrogate. -/
  | pair {c : Char} {high low : Nat} (hhigh : 0xD800 ≤ high ∧ high ≤ 0xDBFF)
      (hlow : 0xDC00 ≤ low ∧ low ≤ 0xDFFF)
      (hc : c.toNat = 0x10000 + (high - 0xD800) * 0x400 + (low - 0xDC00)) :
      NameBytes c (threeBytes high ++ threeBytes low)
  /-- Any other character, as in a text. -/
  | plain {c : Char} (hnul : c.toNat ≠ 0) (hc : c.toNat ≤ 0xFFFF) :
      NameBytes c (String.utf8EncodeChar c)

theorem toNat_lt (c : Char) : c.toNat < 0x110000 := by
  have hc : c.val.toNat < 0xD800 ∨ 0xDFFF < c.val.toNat ∧ c.val.toNat < 0x110000 := c.valid
  show c.val.toNat < 0x110000
  omega

/-- The table gives each character one row, and the encoder writes that. -/
theorem nameBytes_iff {c : Char} {bytes : List UInt8} :
    NameBytes c bytes ↔ bytes = encodeModifiedChar c := by
  unfold encodeModifiedChar
  constructor
  · intro h
    cases h with
    | nul => rfl
    | @pair _ high low hhigh hlow hc =>
      -- the two halves are what division by 2 ^ 10 leaves of the number
      have hh : 0xD800 + (c.toNat - 0x10000) / 0x400 = high := by omega
      have hl : 0xDC00 + (c.toNat - 0x10000) % 0x400 = low := by omega
      rw [if_neg (by omega), if_pos (by omega)]
      dsimp only
      rw [hh, hl]
    | plain hnul hc => rw [if_neg hnul, if_neg (by omega)]
  · rintro rfl
    have hlt := toNat_lt c
    split
    · next hnul =>
      obtain rfl : c = Char.ofNat 0 := Char.toNat_inj.1 hnul
      exact .nul
    · next hnul =>
      split
      · exact .pair (by omega) (by omega) (by omega)
      · exact .plain hnul (by omega)

/-- How a name is written: its characters one after another. -/
def WrittenAsName (s : String) (bytes : List UInt8) : Prop :=
  ∃ pieces, List.Forall₂ NameBytes s.toList pieces ∧ bytes = pieces.flatten

theorem forall₂_nameBytes_iff {s : List Char} {pieces : List (List UInt8)} :
    List.Forall₂ NameBytes s pieces ↔ pieces = s.map encodeModifiedChar := by
  induction s generalizing pieces with
  | nil => rw [List.forall₂_nil_left_iff, List.map_nil]
  | cons c s ih =>
    rw [List.forall₂_cons_left_iff, List.map_cons]
    constructor
    · rintro ⟨piece, rest, hpiece, hrest, rfl⟩
      rw [nameBytes_iff.1 hpiece, ih.1 hrest]
    · rintro rfl
      exact ⟨_, _, nameBytes_iff.2 rfl, ih.2 rfl, rfl⟩

/-- **A name is written in one way, the encoder's.** -/
theorem writtenAsName_iff {s : String} {bytes : List UInt8} :
    WrittenAsName s bytes ↔ bytes = encodeModified s := by
  unfold WrittenAsName encodeModified
  simp only [forall₂_nameBytes_iff, exists_eq_left, List.flatMap_def]

/-! ## §2. Characters that are written alike. -/

/-- Neither NUL nor above U+FFFF. -/
def Plain (c : Char) : Prop := c.toNat ≠ 0 ∧ c.toNat ≤ 0xFFFF

theorem encodeModifiedChar_of_plain {c : Char} (h : Plain c) :
    encodeModifiedChar c = String.utf8EncodeChar c :=
  (nameBytes_iff.1 (.plain h.1 h.2)).symm

/-- Any other character is longer in a name than in a text. -/
theorem length_lt_of_not_plain {c : Char} (h : ¬ Plain c) :
    (String.utf8EncodeChar c).length < (encodeModifiedChar c).length := by
  unfold encodeModifiedChar
  by_cases hnul : c.toNat = 0
  · -- one byte in a text, two in a name
    rw [if_pos hnul, encodeChar_ascii (by omega)]
    exact Nat.one_lt_two
  · have habove : 0xFFFF < c.toNat := Nat.lt_of_not_le fun hle => h ⟨hnul, hle⟩
    rw [if_neg hnul, if_pos habove]
    -- six bytes in a name, and no character of a text takes more than four
    have hsize := Char.utf8Size_le_four c
    rw [← String.length_utf8EncodeChar] at hsize
    exact Nat.lt_of_le_of_lt hsize (by decide : 4 < 6)

theorem length_encodeChar_le (c : Char) :
    (String.utf8EncodeChar c).length ≤ (encodeModifiedChar c).length := by
  by_cases h : Plain c
  · exact Nat.le_of_eq (congrArg List.length (encodeModifiedChar_of_plain h).symm)
  · exact Nat.le_of_lt (length_lt_of_not_plain h)

theorem length_flatMap_encodeChar_le (s : List Char) :
    (s.flatMap String.utf8EncodeChar).length ≤ (s.flatMap encodeModifiedChar).length := by
  induction s with
  | nil => exact Nat.le_refl 0
  | cons c s ih =>
    rw [List.flatMap_cons, List.flatMap_cons, List.length_append, List.length_append]
    exact Nat.add_le_add (length_encodeChar_le c) ih

/-! ## §3. Texts that are written alike. -/

theorem flatMap_encodeModifiedChar_eq_iff (s : List Char) :
    s.flatMap encodeModifiedChar = s.flatMap String.utf8EncodeChar ↔ ∀ c ∈ s, Plain c := by
  induction s with
  | nil => exact iff_of_true rfl nofun
  | cons c s ih =>
    rw [List.flatMap_cons, List.flatMap_cons, List.forall_mem_cons]
    constructor
    · intro h
      have hplain : Plain c := by
        by_contra hc
        -- what the first character has too many, the others would have to lack
        have hlen := congrArg List.length h
        rw [List.length_append, List.length_append] at hlen
        have hlt := length_lt_of_not_plain hc
        have hle := length_flatMap_encodeChar_le s
        omega
      rw [encodeModifiedChar_of_plain hplain] at h
      exact ⟨hplain, ih.1 (List.append_cancel_left h)⟩
    · rintro ⟨hc, hs⟩
      rw [encodeModifiedChar_of_plain hc, ih.2 hs]

/-- **A text is a name as it stands exactly if all its characters are plain.** -/
theorem encodeModified_eq_encode_iff {s : String} :
    encodeModified s = encode s ↔ ∀ c ∈ s.toList, Plain c :=
  flatMap_encodeModifiedChar_eq_iff s.toList

/-- No character is above U+FFFF. -/
def InBasicPlane (s : String) : Prop := ∀ c ∈ s.toList, c.toNat ≤ 0xFFFF

/-- The last character of the basic plane stays, and the first one behind it
becomes two surrogates. -/
example : encodeModifiedChar (Char.ofNat 0xFFFF) = String.utf8EncodeChar (Char.ofNat 0xFFFF)
    ∧ encodeModifiedChar (Char.ofNat 0x10000) = [0xED, 0xA0, 0x80, 0xED, 0xB0, 0x80] := by
  decide

end Utf8

namespace ZString

/-- A terminated text holds no NUL, so only one kind of character is left that
is written otherwise in a name. -/
theorem bytes_eq_encodeModified_iff (z : ZString) :
    z.bytes = Utf8.encodeModified z.text ↔ Utf8.InBasicPlane z.text := by
  rw [eq_comm]
  refine Utf8.encodeModified_eq_encode_iff.trans ⟨fun h c hc => (h c hc).2, fun h c hc => ?_⟩
  refine ⟨fun hnul => ?_, h c hc⟩
  obtain rfl : c = Char.ofNat 0 := Char.toNat_inj.1 hnul
  exact z.nul_notMem hc

end ZString
end ClassBridge
