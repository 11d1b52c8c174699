/-
  ClassBridge.Proofs.Registry.Lookup
  ──────────────────────────────────
  **What a built registry answers.**

  A registry that was built holds the mappings it was given, and each index
  covers one key of them.  So each of the three ways to look a mapping up
  finds a mapping exactly if it was given and has the key, and every position
  that is stored is the position of a mapping: `build_answers`.
-/
import ClassBridge.Proofs.Registry.Building

namespace ClassBridge.Registry

/-! ## §1. One way to look up. -/

/-- Through an index, a mapping is found exactly under its own key. -/
theorem Covers.bind_getElem?_iff {κ : Type} [DecidableEq κ] {index : Index κ}
    {ms : List Mapping} {key : Mapping → κ} (h : index.Covers (ms.map key)) {k : κ} {m : Mapping} :
    ((index.get? k).bind fun i => ms[i]?) = some m ↔ m ∈ ms ∧ key m = k := by
  rw [Option.bind_eq_some_iff]
  constructor
  · rintro ⟨i, hget, hi⟩
    have hkey := (h.get?_iff k i).1 hget
    rw [List.getElem?_map, hi] at hkey
    exact ⟨List.mem_of_getElem? hi, Option.some.inj hkey⟩
  · rintro ⟨hm, rfl⟩
    obtain ⟨i, hi⟩ := List.mem_iff_getElem?.1 hm
    refine ⟨i, ?_, hi⟩
    rw [h.get?_iff, List.getElem?_map, hi]
    rfl

theorem Covers.position_lt_size {κ : Type} [DecidableEq κ] {index : Index κ} {r : Registry}
    {key : Mapping → κ} (h : index.Covers (r.mappings.map key)) {p : κ × Nat}
    (hp : p ∈ index.pairs) : p.2 < r.size := by
  have hlt := h.position_lt hp
  rwa [List.length_map] at hlt

section

variable {r : Registry} (h : Indexed r)
include h

theorem Indexed.get?_iff {t : NativeType} {m : Mapping} :
    r.get? t = some m ↔ m ∈ r.mappings ∧ m.type.id = t.id :=
  Covers.bind_getElem?_iff h.byType

theorem Indexed.findQualifiedName?_iff {s : String} {m : Mapping} :
    r.findQualifiedName? s = some m ↔ m ∈ r.mappings ∧ m.qualifiedName = s :=
  Covers.bind_getElem?_iff h.byQualifiedName

theorem Indexed.findClassName?_iff {s : String} {m : Mapping} :
    r.findClassName? s = some m ↔ m ∈ r.mappings ∧ m.className.text = s :=
  Covers.bind_getElem?_iff h.byClassName

theorem Indexed.get?_eq_none {t : NativeType} :
    r.get? t = none ↔ ∀ m ∈ r.mappings, m.type.id ≠ t.id := by
  rw [Option.eq_none_iff_forall_ne_some]
  constructor
  · intro hn m hm ht
    exact hn m (h.get?_iff.2 ⟨hm, ht⟩)
  · intro hn m hg
    obtain ⟨hm, ht⟩ := h.get?_iff.1 hg
    exact hn m hm ht

theorem Indexed.contains_iff {t : NativeType} :
    r.contains t = true ↔ (r.get? t).isSome = true := by
  unfold contains
  rw [h.byType.contains_iff, Option.isSome_iff_exists]
  constructor
  · intro hmem
    obtain ⟨m, hm, ht⟩ := List.mem_map.1 hmem
    exact ⟨m, h.get?_iff.2 ⟨hm, ht⟩⟩
  · rintro ⟨m, hg⟩
    obtain ⟨hm, ht⟩ := h.get?_iff.1 hg
    exact List.mem_map.2 ⟨m, hm, ht⟩

end

theorem lookup_eq_ok_iff {r : Registry} {t : NativeType} {m : Mapping} :
    r.lookup t = .ok m ↔ r.get? t = some m := by
  unfold lookup
  cases r.get? t with
  | none => simp
  | some m' => simp

theorem lookup_eq_error_iff {r : Registry} {t : NativeType} {e : Error} :
    r.lookup t = .error e ↔ r.get? t = none ∧ e = .unregisteredType t.name := by
  unfold lookup
  cases r.get? t with
  | none => simp [eq_comm]
  | some m' => simp

/-! ## §2. All ways to look up. -/

/-- The registry answers for the mappings that it was given, and for nothing
else. -/
structure Answers (es : List Mapping) (r : Registry) : Prop where
  /-- The mappings come in the order in which they were given. -/
  mappings_eq : r.mappings = es
  /-- Their number. -/
  size_eq : r.size = es.length
  /-- A position stored for a type is that of a mapping. -/
  typePosition : ∀ p ∈ r.byType.pairs, p.2 < r.size
  /-- A position stored for a qualified name is that of a mapping. -/
  qualifiedNamePosition : ∀ p ∈ r.byQualifiedName.pairs, p.2 < r.size
  /-- A position stored for an internal name is that of a mapping. -/
  classNamePosition : ∀ p ∈ r.byClassName.pairs, p.2 < r.size
  /-- No type, no qualified name and no internal name is there twice. -/
  distinct : Distinct es
  /-- A type that was given is found with the names it was given. -/
  get?_given : ∀ t c, ⟨t, c⟩ ∈ es → r.get? t = some ⟨t, c⟩
  /-- By type, what was given for the type. -/
  get?_iff : ∀ t m, r.get? t = some m ↔ m ∈ es ∧ m.type.id = t.id
  /-- Containment is being found by type. -/
  contains_iff : ∀ t, r.contains t = true ↔ (r.get? t).isSome = true
  /-- Looking up a type succeeds with what is found by type. -/
  lookup_ok_iff : ∀ t m, r.lookup t = .ok m ↔ r.get? t = some m
  /-- Looking up fails exactly for a type that was not given, with its name. -/
  lookup_error_iff : ∀ t e, r.lookup t = .error e
    ↔ (∀ m ∈ es, m.type.id ≠ t.id) ∧ e = .unregisteredType t.name
  /-- By qualified name, the mapping that has it. -/
  qualifiedName_iff : ∀ s m, r.findQualifiedName? s = some m ↔ m ∈ es ∧ m.qualifiedName = s
  /-- By internal name, the mapping that has it. -/
  className_iff : ∀ s m, r.findClassName? s = some m ↔ m ∈ es ∧ m.className.text = s
  /-- Each mapping is found again in all three ways. -/
  found_again : ∀ m ∈ r.mappings, r.get? m.type = some m
    ∧ r.findQualifiedName? m.qualifiedName = some m
    ∧ r.findClassName? m.className.text = some m

/-- **A built registry answers exactly for the mappings it was given.** -/
theorem build_answers {es : List Mapping} {r : Registry} (h : build es = .ok r) :
    Answers es r := by
  obtain ⟨hi, rfl⟩ := indexed_of_build h
  exact {
    mappings_eq := rfl
    size_eq := rfl
    typePosition := fun _ => Covers.position_lt_size hi.byType
    qualifiedNamePosition := fun _ => Covers.position_lt_size hi.byQualifiedName
    classNamePosition := fun _ => Covers.position_lt_size hi.byClassName
    distinct := hi.distinct
    get?_given := fun t c hm => hi.get?_iff.2 ⟨hm, rfl⟩
    get?_iff := fun _ _ => hi.get?_iff
    contains_iff := fun _ => hi.contains_iff
    lookup_ok_iff := fun _ _ => lookup_eq_ok_iff
    lookup_error_iff := by
      intro t e
      rw [lookup_eq_error_iff, hi.get?_eq_none]
    qualifiedName_iff := fun _ _ => hi.findQualifiedName?_iff
    className_iff := fun _ _ => hi.findClassName?_iff
    found_again := fun m hm => ⟨hi.get?_iff.2 ⟨hm, rfl⟩, hi.findQualifiedName?_iff.2 ⟨hm, rfl⟩,
      hi.findClassName?_iff.2 ⟨hm, rfl⟩⟩ }

/-- Two mappings of which the second has the internal name of the first as its
qualified name. -/
def crossedMappings : List Mapping :=
  [⟨⟨⟨"a"⟩, "pool::A"⟩,
      ⟨.data, "m.A", ZString.constant "m/A", ZString.constant "Lm/A;"⟩⟩,
    ⟨⟨⟨"b"⟩, "pool::B"⟩,
      ⟨.native, "m/A", ZString.constant "m.A", ZString.constant "Lm.A;"⟩⟩]

theorem crossedMappings_answers :
    ∃ r, build crossedMappings = .ok r ∧ Answers crossedMappings r :=
  ⟨_, rfl, build_answers rfl⟩

end ClassBridge.Registry
