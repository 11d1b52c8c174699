/-
  ClassBridge.Proofs.Registry.Declared
  ────────────────────────────────────
  **Registries of declared classes.**

  A declared class has one internal name for each qualified name, and one
  qualified name for each internal name.  So among declared classes the index
  of internal names says nothing that the index of qualified names does not say:

      get?_slashed            both find the same position
      nodup_classNames_iff    both are free of repetitions, or neither is

  `build_declared` — building fails exactly for a repeated type or a repeated
  qualified name, and the two ways to look up a name agree on every text.
-/
import ClassBridge.Proofs.Derive.Deriving
import ClassBridge.Proofs.Naming.Declaring
import ClassBridge.Proofs.Registry.Lookup

namespace ClassBridge

/-! ## §1. Declared classes. -/

/-- The constants of a class that was declared, by its name or by attributes. -/
inductive Declared (c : ClassConstants) : Prop where
  /-- Under a qualified name. -/
  | named {kind : Kind} {q : String} (declared : Declaration.declare kind q = .ok c)
  /-- By what is derived for a type. -/
  | derived {item : Item} {e : Expansion} (derived : Derive.derive item = .ok e)
      (evaluated : e.constants = .ok c)

/-- Both ways come to a declaration under a qualified name. -/
theorem Declared.exists_declare {c : ClassConstants} (h : Declared c) :
    ∃ kind q, Declaration.declare kind q = .ok c := by
  cases h with
  | named declared => exact ⟨_, _, declared⟩
  | derived derived evaluated =>
    obtain ⟨q, hq⟩ := Derive.constants_of_derive derived
    exact ⟨_, q, hq ▸ evaluated⟩

theorem Declared.className_eq {c : ClassConstants} (h : Declared c) :
    c.className.text = slashed c.qualifiedName := by
  obtain ⟨kind, q, hdeclare⟩ := h.exists_declare
  obtain ⟨_, _, _, rfl, hclass, _⟩ := Declaration.declare_eq_ok_iff.1 hdeclare
  exact hclass

theorem Declared.slash_notMem {c : ClassConstants} (h : Declared c) :
    '/' ∉ c.qualifiedName.toList := by
  obtain ⟨kind, q, hdeclare⟩ := h.exists_declare
  obtain ⟨hcheck, _, _, rfl, _⟩ := Declaration.declare_eq_ok_iff.1 hdeclare
  exact QualifiedName.slash_notMem_of_check hcheck

/-- A declared class has the internal name that belongs to a name without
slashes exactly if it has this name. -/
theorem Declared.className_eq_iff {c : ClassConstants} (h : Declared c) {q : String}
    (hq : '/' ∉ q.toList) : c.className.text = slashed q ↔ c.qualifiedName = q := by
  rw [h.className_eq]
  exact slashed_inj h.slash_notMem hq

namespace Registry

/-! ## §2. Two indices of the same mappings. -/

/-- Indices of two keys find the same position if the same mappings have the
one key and the other. -/
theorem Covers.get?_congr {κ κ' : Type} [DecidableEq κ] [DecidableEq κ'] {index : Index κ}
    {index' : Index κ'} {ms : List Mapping} {key : Mapping → κ} {key' : Mapping → κ'}
    (h : index.Covers (ms.map key)) (h' : index'.Covers (ms.map key')) {k : κ} {k' : κ'}
    (hk : ∀ e ∈ ms, key e = k ↔ key' e = k') : index.get? k = index'.get? k' := by
  ext i
  show index.get? k = some i ↔ index'.get? k' = some i
  rw [h.get?_iff, h'.get?_iff, List.getElem?_map, List.getElem?_map]
  cases hi : ms[i]? with
  | none => simp
  | some e =>
    rw [Option.map_some, Option.map_some, Option.some.injEq, Option.some.injEq]
    exact hk e (List.mem_of_getElem? hi)

section

variable {r : Registry} (h : Indexed r) (hr : ∀ e ∈ r.mappings, Declared e.constants)
include h hr

/-- **Both indices of names find the same position**, for every name without
slashes. -/
theorem Indexed.get?_slashed {q : String} (hq : '/' ∉ q.toList) :
    r.byClassName.get? (slashed q) = r.byQualifiedName.get? q :=
  Covers.get?_congr h.byClassName h.byQualifiedName fun e he => (hr e he).className_eq_iff hq

theorem Indexed.findClassName?_slashed {q : String} (hq : '/' ∉ q.toList) :
    r.findClassName? (slashed q) = r.findQualifiedName? q := by
  rw [findClassName?, findQualifiedName?, h.get?_slashed hr hq]

/-- No class has an internal name with dots. -/
theorem Indexed.findClassName?_of_dot {c : String} (hc : '.' ∈ c.toList) :
    r.findClassName? c = none := by
  have hnone : r.byClassName.get? c = none := by
    rw [h.byClassName.get?_eq_none]
    intro hmem
    obtain ⟨e, he, rfl⟩ := List.mem_map.1 hmem
    have hslashed : e.className.text = slashed e.qualifiedName := (hr e he).className_eq
    rw [hslashed] at hc
    exact dot_notMem_slashed _ hc
  rw [findClassName?, hnone]
  rfl

/-- No class has a qualified name with slashes. -/
theorem Indexed.findQualifiedName?_of_slash {q : String} (hq : '/' ∈ q.toList) :
    r.findQualifiedName? q = none := by
  have hnone : r.byQualifiedName.get? q = none := by
    rw [h.byQualifiedName.get?_eq_none]
    intro hmem
    obtain ⟨e, he, rfl⟩ := List.mem_map.1 hmem
    exact (hr e he).slash_notMem hq
  rw [findQualifiedName?, hnone]
  rfl

end

/-! ## §3. Building from declared classes. -/

section

variable {es : List Mapping} (hes : ∀ e ∈ es, Declared e.constants)
include hes

/-- Declared classes have distinct internal names exactly if their qualified
names are distinct. -/
theorem nodup_classNames_iff : (classNames es).Nodup ↔ (qualifiedNames es).Nodup := by
  unfold classNames qualifiedNames List.Nodup
  rw [List.pairwise_map, List.pairwise_map]
  refine List.Pairwise.iff_of_mem ?_
  intro a b ha hb
  have hb' : b.className.text = slashed b.qualifiedName := (hes b hb).className_eq
  rw [hb']
  exact not_congr ((hes a ha).className_eq_iff (hes b hb).slash_notMem)

theorem distinct_iff : Distinct es ↔ (typeIds es).Nodup ∧ (qualifiedNames es).Nodup := by
  constructor
  · intro hd
    exact ⟨hd.types, hd.qualifiedNames⟩
  · rintro ⟨ht, hq⟩
    exact ⟨ht, hq, (nodup_classNames_iff hes).2 hq⟩

end

theorem not_distinct_of_build {es : List Mapping} {e : Error} (h : build es = .error e) :
    ¬ Distinct es := by
  rcases addAll_cases es indexed_empty with
    ⟨r', hr, _⟩ | ⟨_, _, _, r', _, hes, _, hi, hms, hs, _⟩
  · rw [build, hr] at h
    cases h
  · rw [hms] at hs
    exact hes ▸ (firstClash_of_append (hms ▸ hi.distinct) hs).not_distinct

theorem indexed_of_addAll {done : List Mapping} {r : Registry}
    (h : empty.addAll done = (r, none)) : Indexed r ∧ r.mappings = done := by
  refine indexed_of_build ?_
  rw [build, h]

/-- Two mappings of different types have the same qualified name: the names of
their types, in the order of the list. -/
def SameClass (es : List Mapping) (q first second : String) : Prop :=
  ∃ (i j : Nat) (a b : Mapping), i < j ∧ es[i]? = some a ∧ es[j]? = some b
    ∧ a.type.id ≠ b.type.id ∧ a.type.name = first ∧ b.type.name = second
    ∧ a.qualifiedName = q ∧ b.qualifiedName = q

/-- The refusal of a declared class for its name is for its qualified name. -/
theorem Refusal.onlyOne {earlier : List Mapping} {m : Mapping} {q first second : String}
    (hearlier : ∀ e ∈ earlier, Declared e.constants) (hm : Declared m.constants)
    (h : Refusal earlier m (.duplicateClassName q first second)) :
    m.type.id ∉ typeIds earlier ∧ q = m.qualifiedName ∧ second = m.type.name
      ∧ ∃ a, a.type.name = first ∧ OnlyOne earlier (fun e => e.qualifiedName = q) a := by
  cases h with
  | qualifiedName ht hq => exact ⟨ht, rfl, rfl, _, rfl, hq⟩
  | @className a ht hq hc =>
    -- the qualified name of the other class would be the same
    obtain ⟨i, hi, hname, _⟩ := hc
    have ha : a ∈ earlier := List.mem_of_getElem? hi
    rw [show m.className.text = slashed m.qualifiedName from hm.className_eq] at hname
    have heq : a.qualifiedName = m.qualifiedName :=
      ((hearlier a ha).className_eq_iff hm.slash_notMem).1 hname
    exact absurd (List.mem_map.2 ⟨a, ha, heq⟩) hq

/-- What is reported of a class that is mapped twice is so. -/
theorem sameClass_of_build {es : List Mapping} (hes : ∀ e ∈ es, Declared e.constants)
    {q first second : String} (h : build es = .error (.duplicateClassName q first second)) :
    SameClass es q first second := by
  obtain ⟨k, m, e, hclash, hbuild, hrefusal⟩ := build_of_not_distinct (not_distinct_of_build h)
  obtain rfl := Except.error.inj (hbuild.symm.trans h)
  have hm : Declared m.constants := hes m (List.mem_of_getElem? hclash.at_position)
  have htake : ∀ e ∈ es.take k, Declared e.constants := fun e he =>
    hes e (List.mem_of_mem_take he)
  obtain ⟨ht, rfl, rfl, a, hname, i, hi, hq, _⟩ := hrefusal.onlyOne htake hm
  have ha : a ∈ es.take k := List.mem_of_getElem? hi
  rw [List.getElem?_take, Option.ite_none_right_eq_some] at hi
  refine ⟨i, k, a, m, hi.1, hi.2, hclash.at_position, ?_, hname, rfl, hq, rfl⟩
  intro hid
  exact ht (List.mem_map.2 ⟨a, ha, hid⟩)

/-- The two ways to look a name up are one: they agree where a name has a form
that the other knows, and find nothing where it has none. -/
structure Agrees (r : Registry) : Prop where
  /-- A dotted name is that of the class with its slashed form. -/
  slashed : ∀ q : String, '/' ∉ q.toList → r.findQualifiedName? q = r.findClassName? (slashed q)
  /-- A slashed name is that of the class with its dotted form. -/
  dotted : ∀ c : String, '.' ∉ c.toList → r.findClassName? c = r.findQualifiedName? (dotted c)
  /-- Nothing has an internal name with dots. -/
  dots : ∀ c : String, '.' ∈ c.toList → r.findClassName? c = none
  /-- Nothing has a qualified name with slashes. -/
  slashes : ∀ q : String, '/' ∈ q.toList → r.findQualifiedName? q = none

theorem agrees_of_build {es : List Mapping} (hes : ∀ e ∈ es, Declared e.constants) {r : Registry}
    (h : build es = .ok r) : Agrees r := by
  obtain ⟨hi, rfl⟩ := indexed_of_build h
  exact {
    slashed := fun _ hq => (hi.findClassName?_slashed hes hq).symm
    dotted := by
      intro c hc
      -- its dotted form has no slashes, and it is the slashed form of that
      have hback := hi.findClassName?_slashed hes (slash_notMem_dotted c)
      rwa [slashed_dotted hc] at hback
    dots := fun _ => hi.findClassName?_of_dot hes
    slashes := fun _ => hi.findQualifiedName?_of_slash hes }

/-- **Among declared classes the internal names decide nothing.**  Building fails
exactly if a type is repeated or two types have the same qualified name; before
a mapping is added, both indices of names find the same for it; an error about
a class names two types that have the reported name; and in what was built the
two ways to look up a name agree. -/
theorem build_declared {es : List Mapping} (hes : ∀ e ∈ es, Declared e.constants) :
    ((∃ e, build es = .error e) ↔ ¬ (typeIds es).Nodup ∨ ¬ (qualifiedNames es).Nodup)
      ∧ (∀ done m later r, es = done ++ m :: later → empty.addAll done = (r, none) →
          r.byClassName.get? m.className.text = r.byQualifiedName.get? m.qualifiedName)
      ∧ (∀ q first second, build es = .error (.duplicateClassName q first second) →
          SameClass es q first second)
      ∧ ∀ r, build es = .ok r → Agrees r := by
  refine ⟨?_, ?_, fun _ _ _ => sameClass_of_build hes, fun _ => agrees_of_build hes⟩
  · rw [← Decidable.not_and_iff_not_or_not, ← distinct_iff hes]
    constructor
    · rintro ⟨e, he⟩
      exact not_distinct_of_build he
    · intro hn
      obtain ⟨_, _, e, _, he, _⟩ := build_of_not_distinct hn
      exact ⟨e, he⟩
  · rintro done m later r rfl hdone
    obtain ⟨hi, rfl⟩ := indexed_of_addAll hdone
    have hm : Declared m.constants := hes m (by simp)
    rw [show m.className.text = slashed m.qualifiedName from hm.className_eq]
    exact hi.get?_slashed (fun e he => hes e (List.mem_append_left _ he)) hm.slash_notMem

theorem internalName_nul_free : 0 ∉ Utf8.encode "m/A" := by decide

theorem descriptor_nul_free : 0 ∉ Utf8.encode "Lm/A;" := by decide

/-- The names of a class of data. -/
def namesOfData : ClassConstants :=
  ⟨.data, "m.A", ZString.constant "m/A" internalName_nul_free,
    ZString.constant "Lm/A;" descriptor_nul_free⟩

/-- The names that attributes give a native class. -/
def namesOfNative : ClassConstants :=
  ⟨.native, "a.B", ZString.constant "a/B", ZString.constant "La/B;"⟩

theorem declared_namesOfData : Declared namesOfData :=
  .named (Declaration.declare_eq_ok_iff.2 ⟨rfl, by decide, rfl, rfl, by decide, by decide⟩)

theorem declared_namesOfNative : Declared namesOfNative := by
  have hderive : Derive.derive Derive.renamedTwice
      = .ok (Derive.expansion .native (.quoted "a.B") "Renamed" {}) := rfl
  refine .derived hderive ?_
  rw [Derive.constants_expansion]
  exact Declaration.declare_eq_ok_iff.2 ⟨rfl, by decide, rfl, rfl, by decide, by decide⟩

/-- Two types with a class each. -/
def declaredPair : List Mapping :=
  [⟨⟨⟨"a"⟩, "pool::A"⟩, namesOfData⟩, ⟨⟨⟨"b"⟩, "pool::B"⟩, namesOfNative⟩]

/-- A third type that is mapped to the class of the first. -/
def claimedAgain : Mapping := ⟨⟨⟨"c"⟩, "pool::C"⟩, namesOfData⟩

theorem declared_claimedAgain :
    ∀ e ∈ declaredPair ++ [claimedAgain], Declared e.constants := by
  intro e he
  simp only [declaredPair, claimedAgain, List.cons_append, List.nil_append, List.mem_cons,
    List.not_mem_nil, or_false] at he
  rcases he with rfl | rfl | rfl
  · exact declared_namesOfData
  · exact declared_namesOfNative
  · exact declared_namesOfData

theorem declaredPair_agrees :
    (∃ r, build declaredPair = .ok r ∧ Agrees r)
      ∧ SameClass (declaredPair ++ [claimedAgain]) "m.A" "pool::A" "pool::C" := by
  have hpair : ∀ e ∈ declaredPair, Declared e.constants := fun e he =>
    declared_claimedAgain e (List.mem_append_left _ he)
  obtain ⟨-, -, -, hagrees⟩ := build_declared hpair
  obtain ⟨-, -, hclash, -⟩ := build_declared declared_claimedAgain
  exact ⟨⟨_, rfl, hagrees _ rfl⟩, hclash _ _ _ rfl⟩

end Registry
end ClassBridge
