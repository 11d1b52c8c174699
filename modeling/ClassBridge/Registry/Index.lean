/-
  ClassBridge.Registry.Index
  ──────────────────────────
  **Indices: from keys to positions.**

  An index remembers for each key the position it was last stored with.  An
  earlier position of the same key is kept behind it, out of sight.
-/

namespace ClassBridge

/-- Keys and the positions stored for them, the latest first. -/
structure Index (κ : Type) where
  /-- The stored pairs. -/
  pairs : List (κ × Nat) := []

namespace Index

variable {κ : Type} [DecidableEq κ]

/-- The position stored for a key. -/
def get? (index : Index κ) (key : κ) : Option Nat :=
  index.pairs.lookup key

/-- The index in which a key has the given position. -/
def insert (index : Index κ) (key : κ) (position : Nat) : Index κ :=
  ⟨(key, position) :: index.pairs⟩

/-- Whether a key is stored. -/
def contains (index : Index κ) (key : κ) : Bool :=
  (index.get? key).isSome

@[simp] theorem get?_empty (key : κ) : (⟨[]⟩ : Index κ).get? key = none := rfl

theorem get?_insert (index : Index κ) (key key' : κ) (position : Nat) :
    (index.insert key position).get? key' =
      if key' = key then some position else index.get? key' := by
  by_cases h : key' = key
  · subst h; simp [get?, insert]
  · simp [get?, insert, List.lookup_cons, h, beq_eq_false_iff_ne.2 h]

end Index
end ClassBridge
