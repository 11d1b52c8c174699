/-
  ClassBridge.Proofs.Registry.Index
  ─────────────────────────────────
  **An index of a list of keys.**

  `Covers index keys` says that the index finds each key at its position in
  the list and finds nothing else.  That can only be if no key occurs twice
  (`Covers.nodup`), and it is kept by storing a new key at the end of the
  list (`Covers.insert`).
-/
import ClassBridge.Registry.Index

namespace ClassBridge.Index

variable {κ : Type} [DecidableEq κ]

/-! ## §1. The invariant. -/

/-- The index finds each key of the list at its position, and stores nothing
else, not even out of sight. -/
structure Covers (index : Index κ) (keys : List κ) : Prop where
  /-- A key is found exactly where it is. -/
  get?_iff : ∀ key i, index.get? key = some i ↔ keys[i]? = some key
  /-- Every pair that is stored is a key and its position. -/
  stored : ∀ p ∈ index.pairs, keys[p.2]? = some p.1

theorem covers_empty : Covers (⟨[]⟩ : Index κ) [] where
  get?_iff := by
    intro key i
    simp
  stored := by
    intro p hp
    cases hp

/-- A new key is stored at the end. -/
theorem Covers.insert {index : Index κ} {keys : List κ} (h : Covers index keys) {key : κ}
    (hnew : key ∉ keys) : Covers (index.insert key keys.length) (keys ++ [key]) where
  get?_iff := by
    intro key' i
    rw [get?_insert]
    by_cases hk : key' = key
    · subst hk
      rw [if_pos rfl]
      constructor
      · intro hi
        obtain rfl := Option.some.inj hi
        simp
      · intro hi
        -- the key stands at the end only, for it is not among the others
        have hge : ¬ i < keys.length := by
          intro hlt
          rw [List.getElem?_append_left hlt] at hi
          exact hnew (List.mem_of_getElem? hi)
        have hle : i < (keys ++ [key']).length := (List.getElem?_eq_some_iff.1 hi).1
        rw [List.length_append, List.length_singleton] at hle
        congr 1
        omega
    · rw [if_neg hk, h.get?_iff]
      constructor
      · intro hi
        have hlt : i < keys.length := (List.getElem?_eq_some_iff.1 hi).1
        rwa [List.getElem?_append_left hlt]
      · intro hi
        -- another key is not the one at the end
        by_cases hlt : i < keys.length
        · rwa [List.getElem?_append_left hlt] at hi
        · rw [List.getElem?_append_right (by omega)] at hi
          have hmem : key' ∈ [key] := List.mem_of_getElem? hi
          exact absurd (List.mem_singleton.1 hmem) hk
  stored := by
    intro p hp
    rcases List.mem_cons.1 hp with rfl | hp
    · simp
    · have hi := h.stored p hp
      have hlt : p.2 < keys.length := (List.getElem?_eq_some_iff.1 hi).1
      rwa [List.getElem?_append_left hlt]

/-! ## §2. What the invariant says. -/

section

variable {index : Index κ} {keys : List κ} (h : Covers index keys)
include h

/-- No key occurs twice. -/
theorem Covers.nodup : keys.Nodup := by
  refine List.pairwise_iff_getElem.2 ?_
  intro i j hi hj hij heq
  have hgi := (h.get?_iff keys[i] i).2 (List.getElem?_eq_getElem hi)
  have hgj := (h.get?_iff keys[j] j).2 (List.getElem?_eq_getElem hj)
  -- one lookup would find both positions
  rw [heq] at hgi
  have heq' : i = j := Option.some.inj (hgi.symm.trans hgj)
  omega

theorem Covers.get?_eq_none {key : κ} : index.get? key = none ↔ key ∉ keys := by
  constructor
  · intro hn hmem
    obtain ⟨i, hi⟩ := List.mem_iff_getElem?.1 hmem
    rw [(h.get?_iff _ _).2 hi] at hn
    cases hn
  · intro hnot
    cases hg : index.get? key with
    | none => rfl
    | some i => exact absurd (List.mem_of_getElem? ((h.get?_iff _ _).1 hg)) hnot

theorem Covers.contains_iff {key : κ} : index.contains key = true ↔ key ∈ keys := by
  unfold Index.contains
  rw [Option.isSome_iff_ne_none, Ne, h.get?_eq_none, Decidable.not_not]

/-- Every position that is stored is one of the list. -/
theorem Covers.position_lt {p : κ × Nat} (hp : p ∈ index.pairs) : p.2 < keys.length :=
  (List.getElem?_eq_some_iff.1 (h.stored p hp)).1

end

end ClassBridge.Index
