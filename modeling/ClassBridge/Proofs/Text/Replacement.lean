/-
  ClassBridge.Proofs.Text.Replacement
  ───────────────────────────────────
  **What putting one byte in place of another does.**

  A replacement looks at each byte by itself, so its laws are laws of one byte:

      twice          what was replaced is gone, or was put in again
      and back       nothing else may be taken for what was put in
      part by part   a byte does not ask what stands beside it

  In the encoding of a text an ASCII byte is never part of another character.
  There the replacement is one of characters, and leaves the others whole.

  Main statement: `replace_laws`.
-/
import ClassBridge.Proofs.Text.Joining
import ClassBridge.Proofs.Text.WellFormed
import Mathlib.Data.List.Forall2

namespace ClassBridge

namespace Buffer

/-! ## §1. One byte. -/

theorem replaceByte_replaceByte (old new b : UInt8) :
    replaceByte old new (replaceByte old new b) = replaceByte old new b := by
  unfold replaceByte
  by_cases hb : b = old
  · -- what was put in stays, even if it is the old byte again
    rw [if_pos hb, ite_self]
  · rw [if_neg hb, if_neg hb]

/-- Replaced and then replaced back, a byte is itself again unless it is the one
that is put in for another. -/
theorem replaceByte_back_iff {old new b : UInt8} :
    replaceByte new old (replaceByte old new b) = b ↔ old = new ∨ new ≠ b := by
  unfold replaceByte
  by_cases hb : b = old
  · -- it comes back, whatever was put in for it
    subst hb
    rw [if_pos rfl, if_pos rfl]
    exact iff_of_true rfl ((Decidable.em (b = new)).imp_right Ne.symm)
  · rw [if_neg hb]
    by_cases hn : b = new
    · -- it is taken for one that was put in
      rw [if_pos hn]
      constructor
      · exact fun h => absurd h.symm hb
      · rintro (h | h)
        · exact absurd (hn.trans h.symm) hb
        · exact absurd hn.symm h
    · rw [if_neg hn]
      exact iff_of_true rfl (.inr (Ne.symm hn))

/-! ## §2. All bytes. -/

theorem map_replaceByte_twice (old new : UInt8) (source : List UInt8) :
    (source.map (replaceByte old new)).map (replaceByte old new)
      = source.map (replaceByte old new) := by
  rw [List.map_map]
  exact List.map_congr_left fun b _ => replaceByte_replaceByte old new b

/-- The source is had back exactly if the two bytes are the same, or the one
that is put in was not there before. -/
theorem map_replaceByte_back_iff {old new : UInt8} {source : List UInt8} :
    (source.map (replaceByte old new)).map (replaceByte new old) = source
      ↔ old = new ∨ new ∉ source := by
  -- a list is had back exactly if each of its bytes is
  have hbytes := List.map_inj_left (l := source) (f := replaceByte new old ∘ replaceByte old new)
    (g := id)
  rw [List.map_id, ← List.map_map] at hbytes
  rw [hbytes]
  constructor
  · intro h
    by_cases heq : old = new
    · exact .inl heq
    · exact .inr fun hmem => (replaceByte_back_iff.1 (h new hmem)).elim heq fun hne => hne rfl
  · rintro (heq | hmem) b hb
    · exact replaceByte_back_iff.2 (.inl heq)
    · exact replaceByte_back_iff.2 (.inr fun hne => hmem (hne ▸ hb))

/-! ## §3. Buffers. -/

theorem replace_eq_error_iff {size : Nat} {source : List UInt8} {old new : UInt8}
    {f : TextFault} :
    replace size source old new = .error f ↔ size ≠ source.length ∧ f = .replacementSize := by
  unfold replace
  by_cases h : source.length = size
  · rw [dif_pos h]
    simp [h]
  · rw [dif_neg h]
    simp [Ne.symm h, eq_comm]

/-- What a replacement gives in a buffer of the source's size. -/
def Replaces (old new : UInt8) (source result : List UInt8) : Prop :=
  ∃ buffer, replace source.length source old new = .ok buffer ∧ buffer.toList = result

/-- What joining gives in a buffer of the total length. -/
def Joins (parts : List (List UInt8)) (result : List UInt8) : Prop :=
  ∃ buffer, join (totalLength parts) parts = .ok buffer ∧ buffer.toList = result

theorem replaces_iff {old new : UInt8} {source result : List UInt8} :
    Replaces old new source result ↔ result = source.map (replaceByte old new) := by
  have hreplace : replace source.length source old new
      = .ok (ofList (source.map (replaceByte old new)) (List.length_map _)) := by
    rw [replace, dif_pos rfl]
  unfold Replaces
  rw [hreplace]
  constructor
  · rintro ⟨buffer, hbuffer, rfl⟩
    obtain rfl := Except.ok.inj hbuffer
    exact toList_ofList _
  · rintro rfl
    exact ⟨_, rfl, toList_ofList _⟩

theorem joins_iff {parts : List (List UInt8)} {result : List UInt8} :
    Joins parts result ↔ result = parts.flatten := by
  unfold Joins
  rw [join_totalLength]
  constructor
  · rintro ⟨buffer, hbuffer, rfl⟩
    obtain rfl := Except.ok.inj hbuffer
    exact toList_ofList _
  · rintro rfl
    exact ⟨_, rfl, toList_ofList _⟩

/-- Each part is replaced by itself. -/
theorem forall₂_replaces (old new : UInt8) (parts : List (List UInt8)) :
    List.Forall₂ (Replaces old new) parts (parts.map (List.map (replaceByte old new))) := by
  induction parts with
  | nil => exact .nil
  | cons part rest ih => exact .cons (replaces_iff.2 rfl) ih

/-- Replacing in what is joined is joining what was replaced. -/
theorem exists_joins_replaced {old new : UInt8} {parts : List (List UInt8)}
    {source result : List UInt8} (hjoin : Joins parts source)
    (hresult : Replaces old new source result) :
    ∃ parts', List.Forall₂ (Replaces old new) parts parts' ∧ Joins parts' result := by
  refine ⟨_, forall₂_replaces old new parts, ?_⟩
  -- a map of all bytes is a map of the bytes of each part
  rw [joins_iff, replaces_iff.1 hresult, joins_iff.1 hjoin, List.map_flatten]

end Buffer

/-! ## §4. Texts. -/

namespace Utf8

/-- The character of an ASCII byte. -/
def charOf (b : UInt8) : Char := Char.ofNat b.toNat

theorem toNat_charOf {b : UInt8} (hb : b.toNat < 128) : (charOf b).toNat = b.toNat := by
  have hvalid : b.toNat.isValidChar := .inl (by omega)
  rw [charOf, Char.ofNat, dif_pos hvalid]
  rfl

theorem byteOf_charOf {b : UInt8} (hb : b.toNat < 128) : byteOf (charOf b) = b := by
  rw [byteOf, toNat_charOf hb, UInt8.ofNat_toNat]

/-- One character stands in the place of another, and each of the others in its
own. -/
structure Substituted (old new : Char) (s t : String) : Prop where
  length : t.length = s.length
  replaced : ∀ i : Nat, s.toList[i]? = some old → t.toList[i]? = some new
  kept : ∀ (i : Nat) (c : Char), c ≠ old → s.toList[i]? = some c → t.toList[i]? = some c

theorem substituted_map (old new : Char) (s : String) :
    Substituted old new s (String.ofList (s.toList.map (substitute old new))) where
  length := by rw [← String.length_toList, String.toList_ofList, List.length_map,
    String.length_toList]
  replaced := by
    intro i hi
    rw [String.toList_ofList, List.getElem?_map, hi, Option.map_some, substitute, if_pos rfl]
  kept := by
    intro i c hc hi
    rw [String.toList_ofList, List.getElem?_map, hi, Option.map_some, substitute, if_neg hc]

/-- **Replacing ASCII bytes in a text replaces their characters.** -/
theorem exists_substituted {old new : UInt8} {source result : List UInt8} {s : String}
    (ho : old.toNat < 128) (hn : new.toNat < 128) (hs : decode? source = some s)
    (hresult : Buffer.Replaces old new source result) :
    ∃ t, decode? result = some t ∧ Substituted (charOf old) (charOf new) s t := by
  refine ⟨_, ?_, substituted_map (charOf old) (charOf new) s⟩
  have hco : (charOf old).toNat < 128 := by rwa [toNat_charOf ho]
  have hcn : (charOf new).toNat < 128 := by rwa [toNat_charOf hn]
  -- the bytes of the result are those of the text with the character replaced
  have hmap := map_replaceByte_encode hco hcn s.toList
  rw [byteOf_charOf ho, byteOf_charOf hn, String.ofList_toList] at hmap
  rw [decode?_eq_some_iff, Buffer.replaces_iff.1 hresult, eq_encode_of_decode? hs, hmap]

end Utf8

/-! ## §5. The laws. -/

namespace Buffer

/-- **The laws of replacement.**  It needs a buffer of the source's length and
gives as many bytes.  Done again it changes nothing, and it is undone by the
replacement back exactly if the two bytes are the same or the one put in was
not there before.  Parts may be joined before it or after it.  In a text, with
two ASCII bytes, it gives a text of as many characters, in which the one
character stands for the other and all others are as they were. -/
theorem replace_laws (source : List UInt8) (old new : UInt8) :
    (∀ size f, replace size source old new = .error f
        ↔ size ≠ source.length ∧ f = .replacementSize)
      ∧ ∃ result, Replaces old new source result
        ∧ result.length = source.length
        ∧ Replaces old new result result
        ∧ (Replaces new old result source ↔ old = new ∨ new ∉ source)
        ∧ (∀ parts, Joins parts source →
            ∃ parts', List.Forall₂ (Replaces old new) parts parts' ∧ Joins parts' result)
        ∧ ∀ s, old.toNat < 128 → new.toNat < 128 → Utf8.decode? source = some s →
            ∃ t, Utf8.decode? result = some t
              ∧ Utf8.Substituted (Utf8.charOf old) (Utf8.charOf new) s t := by
  have hresult : Replaces old new source (source.map (replaceByte old new)) := replaces_iff.2 rfl
  refine ⟨fun _ _ => replace_eq_error_iff, _, hresult, List.length_map _, ?_, ?_, ?_, ?_⟩
  · rw [replaces_iff, map_replaceByte_twice]
  · rw [replaces_iff, eq_comm, map_replaceByte_back_iff]
  · exact fun _ hjoin => exists_joins_replaced hjoin hresult
  · exact fun _ ho hn hs => Utf8.exists_substituted ho hn hs hresult

/-- Two letters of two bytes each, with a dot between them: a slash takes the
place of the dot, and may be replaced back. -/
theorem dottedLetters_replaced :
    Utf8.decode? (Utf8.encode "ö.ä") = some "ö.ä"
      ∧ Replaces 0x2E 0x2F (Utf8.encode "ö.ä") (Utf8.encode "ö/ä")
      ∧ Replaces 0x2F 0x2E (Utf8.encode "ö/ä") (Utf8.encode "ö.ä")
      ∧ (∃ parts, List.Forall₂ (Replaces 0x2E 0x2F) [Utf8.encode "ö.", Utf8.encode "ä"] parts
        ∧ Joins parts (Utf8.encode "ö/ä"))
      ∧ Utf8.Substituted '.' '/' "ö.ä" "ö/ä" := by
  obtain ⟨-, result, hresult, -, -, hback, hparts, htext⟩ :=
    replace_laws (Utf8.encode "ö.ä") 0x2E 0x2F
  have hdecode := Utf8.decode?_encode "ö.ä"
  obtain rfl : result = Utf8.encode "ö/ä" := replaces_iff.1 hresult
  obtain ⟨t, ht, hsubstituted⟩ := htext "ö.ä" (by decide) (by decide) hdecode
  obtain rfl : "ö/ä" = t := Option.some.inj ((Utf8.decode?_encode "ö/ä").symm.trans ht)
  exact ⟨hdecode, hresult, hback.2 (.inr (by decide)),
    hparts [Utf8.encode "ö.", Utf8.encode "ä"] (joins_iff.2 rfl), hsubstituted⟩

end Buffer
end ClassBridge
