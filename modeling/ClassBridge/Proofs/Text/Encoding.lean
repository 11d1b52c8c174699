/-
  ClassBridge.Proofs.Text.Encoding
  ────────────────────────────────
  **What the bytes of a text say about its characters.**

  A character below U+0080 is written as the one byte with its number, and
  every byte of any other character is 128 or more.  So a byte below 128 is
  never part of a longer sequence:

      ascii_mem_encode       such a byte occurs exactly where its character does
      map_replaceByte_encode substituting it substitutes the character, and
                             leaves every longer sequence as it is
-/
import ClassBridge.Text.Expr

namespace ClassBridge.Utf8

/-! ## §1. The bytes of one character. -/

/-- The byte of an ASCII character. -/
def byteOf (c : Char) : UInt8 := UInt8.ofNat c.toNat

theorem toNat_byteOf {c : Char} (h : c.toNat < 128) : (byteOf c).toNat = c.toNat := by
  have hlt : c.toNat < 256 := by omega
  simp [byteOf, Nat.mod_eq_of_lt hlt]

theorem byteOf_inj {c d : Char} (hc : c.toNat < 128) (hd : d.toNat < 128) :
    byteOf c = byteOf d ↔ c = d := by
  rw [← UInt8.toNat_inj, toNat_byteOf hc, toNat_byteOf hd, Char.toNat_inj]

/-- An ASCII character is its own byte. -/
theorem encodeChar_ascii {c : Char} (h : c.toNat < 128) :
    String.utf8EncodeChar c = [byteOf c] := by
  have hv : c.val.toNat ≤ 0x7f := by
    show c.toNat ≤ 0x7f
    omega
  unfold String.utf8EncodeChar
  exact if_pos hv

/-- Every byte of another character is 128 or more. -/
theorem le_of_mem_encodeChar {c : Char} (h : 128 ≤ c.toNat) {b : UInt8}
    (hb : b ∈ String.utf8EncodeChar c) : 128 ≤ b.toNat := by
  have hv : ¬ c.val.toNat ≤ 0x7f := by
    show ¬ c.toNat ≤ 0x7f
    omega
  unfold String.utf8EncodeChar at hb
  rw [if_neg hv] at hb
  -- sequences of two, three and four bytes
  split at hb
  · simp only [List.mem_cons, List.not_mem_nil, or_false] at hb
    rcases hb with rfl | rfl <;> simp <;> omega
  · split at hb
    · simp only [List.mem_cons, List.not_mem_nil, or_false] at hb
      rcases hb with rfl | rfl | rfl <;> simp <;> omega
    · simp only [List.mem_cons, List.not_mem_nil, or_false] at hb
      rcases hb with rfl | rfl | rfl | rfl <;> simp <;> omega

theorem byteOf_mem_encodeChar {a c : Char} (ha : a.toNat < 128) :
    byteOf a ∈ String.utf8EncodeChar c ↔ c = a := by
  by_cases hc : c.toNat < 128
  · rw [encodeChar_ascii hc, List.mem_singleton, byteOf_inj ha hc]
    exact eq_comm
  · constructor
    · intro h
      have hle := le_of_mem_encodeChar (by omega) h
      rw [toNat_byteOf ha] at hle
      omega
    · rintro rfl
      exact absurd ha hc

/-! ## §2. The bytes of a text. -/

theorem encode_ofList (s : List Char) :
    encode (String.ofList s) = s.flatMap String.utf8EncodeChar := by
  simp [encode]

/-- An ASCII byte occurs in the encoding exactly if its character is in the
text. -/
theorem ascii_mem_encode {a : Char} (ha : a.toNat < 128) {s : String} :
    byteOf a ∈ encode s ↔ a ∈ s.toList := by
  unfold encode
  rw [List.mem_flatMap]
  constructor
  · rintro ⟨c, hc, hb⟩
    rwa [← (byteOf_mem_encodeChar ha).1 hb]
  · intro h
    exact ⟨a, h, (byteOf_mem_encodeChar ha).2 rfl⟩

theorem zero_mem_encode {s : String} : 0 ∈ encode s ↔ Char.ofNat 0 ∈ s.toList :=
  ascii_mem_encode (a := Char.ofNat 0) (by decide)

/-- Texts are encoded one after another. -/
theorem encode_ofList_flatten (parts : List (List Char)) :
    encode (String.ofList parts.flatten)
      = (parts.map fun s => encode (String.ofList s)).flatten := by
  induction parts with
  | nil => rfl
  | cons s rest ih =>
    rw [List.flatten_cons, String.ofList_append, encode_append, ih]
    rfl

/-! ## §3. Substituting one ASCII character for another. -/

/-- One character after the substitution of `new` for `old`. -/
def substitute (old new c : Char) : Char := if c = old then new else c

theorem map_replaceByte_encodeChar {old new : Char} (ho : old.toNat < 128)
    (hn : new.toNat < 128) (c : Char) :
    (String.utf8EncodeChar c).map (Buffer.replaceByte (byteOf old) (byteOf new))
      = String.utf8EncodeChar (substitute old new c) := by
  by_cases hc : c = old
  · subst hc
    rw [encodeChar_ascii ho, substitute, if_pos rfl, encodeChar_ascii hn]
    simp [Buffer.replaceByte]
  · rw [substitute, if_neg hc]
    -- no byte of `c` is the one that is replaced
    have hid : ∀ b ∈ String.utf8EncodeChar c,
        Buffer.replaceByte (byteOf old) (byteOf new) b = b := by
      intro b hb
      unfold Buffer.replaceByte
      refine if_neg ?_
      rintro rfl
      exact hc ((byteOf_mem_encodeChar ho).1 hb)
    rw [List.map_congr_left hid, List.map_id']

/-- **Substituting an ASCII byte substitutes its character**, in a text with
any other characters. -/
theorem map_replaceByte_encode {old new : Char} (ho : old.toNat < 128) (hn : new.toNat < 128)
    (s : List Char) :
    (encode (String.ofList s)).map (Buffer.replaceByte (byteOf old) (byteOf new))
      = encode (String.ofList (s.map (substitute old new))) := by
  rw [encode_ofList, encode_ofList, List.map_flatMap, List.flatMap_map]
  congr 1
  funext c
  exact map_replaceByte_encodeChar ho hn c

end ClassBridge.Utf8
