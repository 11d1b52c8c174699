/-
  ClassBridge.Proofs.Registry.Building
  ────────────────────────────────────
  **Building accepts distinct mappings, and names the first clash.**

  While mappings are added, the three indices cover the mappings added so far
  (`Indexed`).  So what `add` finds is exactly whether the next mapping shares
  its type or a name with one of them:

      add_of_not_shares   one that shares nothing is put behind the others,
                          and the indices cover it, too
      add_of_shares       any other is refused: for its type before its
                          names, for its qualified name before its internal
                          name

  By induction over the mappings (`addAll_cases`) building ends with all of
  them, or at the first that shares something with one before it.
-/
import ClassBridge.Proofs.Registry.Index
import ClassBridge.Registry.Basic

namespace ClassBridge.Registry

/-! ## §1. Keys that are shared. -/

/-- The types of mappings. -/
def typeIds (ms : List Mapping) : List TypeId := ms.map fun m => m.type.id

/-- The dotted names of mappings. -/
def qualifiedNames (ms : List Mapping) : List String := ms.map Mapping.qualifiedName

/-- The internal names of mappings. -/
def classNames (ms : List Mapping) : List String := ms.map fun m => m.className.text

/-- No two mappings have the same type, the same qualified name or the same
internal name.  A qualified name may be the internal name of another class. -/
structure Distinct (ms : List Mapping) : Prop where
  types : (typeIds ms).Nodup
  qualifiedNames : (qualifiedNames ms).Nodup
  classNames : (classNames ms).Nodup

/-- A mapping has its type, its qualified name or its internal name in common
with an earlier one. -/
def Shares (earlier : List Mapping) (m : Mapping) : Prop :=
  ∃ e ∈ earlier, e.type.id = m.type.id ∨ e.qualifiedName = m.qualifiedName
    ∨ e.className.text = m.className.text

theorem not_shares_iff {earlier : List Mapping} {m : Mapping} :
    ¬ Shares earlier m ↔ m.type.id ∉ typeIds earlier
      ∧ m.qualifiedName ∉ qualifiedNames earlier ∧ m.className.text ∉ classNames earlier := by
  simp only [Shares, typeIds, qualifiedNames, classNames, List.mem_map, not_exists, not_and,
    not_or]
  constructor
  · intro h
    exact ⟨fun e he => (h e he).1, fun e he => (h e he).2.1, fun e he => (h e he).2.2⟩
  · intro ⟨ht, hq, hc⟩ e he
    exact ⟨ht e he, hq e he, hc e he⟩

/-- `m` stands at position `k`, and is the first that shares something with a
mapping before it. -/
structure FirstClash (ms : List Mapping) (k : Nat) (m : Mapping) : Prop where
  at_position : ms[k]? = some m
  shares : Shares (ms.take k) m
  first : ∀ j e, j < k → ms[j]? = some e → ¬ Shares (ms.take j) e

/-- `first` is the one mapping of the list with the property. -/
def OnlyOne (ms : List Mapping) (P : Mapping → Prop) (first : Mapping) : Prop :=
  ∃ i : Nat, ms[i]? = some first ∧ P first ∧ ∀ (j : Nat) e, ms[j]? = some e → P e → j = i

/-- How a mapping that shares something with earlier ones is refused. -/
inductive Refusal (earlier : List Mapping) (m : Mapping) : Error → Prop where
  /-- For its type, whatever else it shares. -/
  | type (ht : m.type.id ∈ typeIds earlier) : Refusal earlier m (.duplicateType m.type)
  /-- For the qualified name of the one earlier mapping that has it. -/
  | qualifiedName {first : Mapping} (ht : m.type.id ∉ typeIds earlier)
      (hq : OnlyOne earlier (fun e => e.qualifiedName = m.qualifiedName) first) :
      Refusal earlier m (.duplicateClassName m.qualifiedName first.type.name m.type.name)
  /-- If no earlier mapping has that, for the internal name of the one that
  has it. -/
  | className {first : Mapping} (ht : m.type.id ∉ typeIds earlier)
      (hq : m.qualifiedName ∉ qualifiedNames earlier)
      (hc : OnlyOne earlier (fun e => e.className.text = m.className.text) first) :
      Refusal earlier m (.duplicateClassName m.qualifiedName first.type.name m.type.name)

/-! ## §2. The indices cover what was added. -/

/-- Each index covers the keys of all mappings. -/
structure Indexed (r : Registry) : Prop where
  byType : r.byType.Covers (typeIds r.mappings)
  byQualifiedName : r.byQualifiedName.Covers (qualifiedNames r.mappings)
  byClassName : r.byClassName.Covers (classNames r.mappings)

theorem indexed_empty : Indexed empty where
  byType := Index.covers_empty
  byQualifiedName := Index.covers_empty
  byClassName := Index.covers_empty

/-- Indices that cover their keys have no key twice. -/
theorem Indexed.distinct {r : Registry} (h : Indexed r) : Distinct r.mappings where
  types := h.byType.nodup
  qualifiedNames := h.byQualifiedName.nodup
  classNames := h.byClassName.nodup

/-- Storing the keys of one more mapping. -/
theorem Covers.insert_map {κ : Type} [DecidableEq κ] {index : Index κ} {ms : List Mapping}
    {key : Mapping → κ} (h : index.Covers (ms.map key)) {m : Mapping}
    (hnew : key m ∉ ms.map key) :
    (index.insert (key m) ms.length).Covers ((ms ++ [m]).map key) := by
  have hc := h.insert hnew
  rw [List.length_map] at hc
  rw [List.map_append]
  exact hc

theorem Indexed.push {r : Registry} (h : Indexed r) {m : Mapping}
    (hm : ¬ Shares r.mappings m) : Indexed (r.push m) := by
  obtain ⟨ht, hq, hc⟩ := not_shares_iff.1 hm
  exact ⟨Covers.insert_map h.byType ht, Covers.insert_map h.byQualifiedName hq,
    Covers.insert_map h.byClassName hc⟩

/-- What an index finds is the one mapping with the key. -/
theorem Covers.onlyOne {κ : Type} [DecidableEq κ] {index : Index κ} {ms : List Mapping}
    {key : Mapping → κ} (h : index.Covers (ms.map key)) {k : κ} {i : Nat}
    (hi : index.get? k = some i) :
    ∃ first, ms[i]? = some first ∧ OnlyOne ms (fun e => key e = k) first := by
  have hpos := (h.get?_iff k i).1 hi
  rw [List.getElem?_map, Option.map_eq_some_iff] at hpos
  obtain ⟨first, hfirst, hkey⟩ := hpos
  refine ⟨first, hfirst, i, hfirst, hkey, ?_⟩
  -- the index finds every position that has the key, and it finds only one
  intro j e hj he
  have hget : index.get? k = some j := by
    rw [h.get?_iff, List.getElem?_map, hj, Option.map_some, he]
  exact Option.some.inj (hget.symm.trans hi)

/-! ## §3. One mapping. -/

theorem claimant?_of_qualifiedName {r : Registry} {m first : Mapping} {i : Nat}
    (hi : r.byQualifiedName.get? m.qualifiedName = some i) (hfirst : r.mappings[i]? = some first) :
    r.claimant? m = some first := by
  unfold claimant?
  rw [hi]
  exact hfirst

theorem claimant?_of_className {r : Registry} {m first : Mapping} {i : Nat}
    (hq : r.byQualifiedName.get? m.qualifiedName = none)
    (hi : r.byClassName.get? m.className.text = some i) (hfirst : r.mappings[i]? = some first) :
    r.claimant? m = some first := by
  unfold claimant?
  rw [hq, hi]
  exact hfirst

theorem claimant?_eq_none {r : Registry} {m : Mapping}
    (hq : r.byQualifiedName.get? m.qualifiedName = none)
    (hc : r.byClassName.get? m.className.text = none) : r.claimant? m = none := by
  unfold claimant?
  rw [hq, hc]
  rfl

/-- A mapping that shares nothing is put behind the others. -/
theorem add_of_not_shares {r : Registry} (h : Indexed r) {m : Mapping}
    (hm : ¬ Shares r.mappings m) : r.add m = .ok (r.push m) := by
  obtain ⟨ht, hq, hc⟩ := not_shares_iff.1 hm
  have htype : ¬ r.byType.contains m.type.id = true := mt h.byType.contains_iff.1 ht
  have hclaim : r.claimant? m = none :=
    claimant?_eq_none (h.byQualifiedName.get?_eq_none.2 hq) (h.byClassName.get?_eq_none.2 hc)
  rw [add, if_neg htype, hclaim]

theorem add_of_claimant {r : Registry} (h : Indexed r) {m first : Mapping}
    (ht : m.type.id ∉ typeIds r.mappings) (hclaim : r.claimant? m = some first) :
    r.add m = .error (.duplicateClassName m.qualifiedName first.type.name m.type.name) := by
  have htype : ¬ r.byType.contains m.type.id = true := mt h.byType.contains_iff.1 ht
  rw [add, if_neg htype, hclaim]

/-- A mapping that shares something is refused: for its type first, then for
its qualified name, then for its internal name. -/
theorem add_of_shares {r : Registry} (h : Indexed r) {m : Mapping}
    (hm : Shares r.mappings m) : ∃ e, r.add m = .error e ∧ Refusal r.mappings m e := by
  by_cases ht : m.type.id ∈ typeIds r.mappings
  · have htype : r.byType.contains m.type.id = true := h.byType.contains_iff.2 ht
    refine ⟨.duplicateType m.type, ?_, .type ht⟩
    rw [add, if_pos htype]
  · cases hq : r.byQualifiedName.get? m.qualifiedName with
    | some i =>
      obtain ⟨first, hfirst, hone⟩ := Covers.onlyOne h.byQualifiedName hq
      exact ⟨_, add_of_claimant h ht (claimant?_of_qualifiedName hq hfirst),
        .qualifiedName ht hone⟩
    | none =>
      have hqnot := h.byQualifiedName.get?_eq_none.1 hq
      cases hc : r.byClassName.get? m.className.text with
      | some i =>
        obtain ⟨first, hfirst, hone⟩ := Covers.onlyOne h.byClassName hc
        exact ⟨_, add_of_claimant h ht (claimant?_of_className hq hc hfirst),
          .className ht hqnot hone⟩
      | none =>
        -- nothing is shared after all
        have hcnot := h.byClassName.get?_eq_none.1 hc
        exact absurd hm (not_shares_iff.2 ⟨ht, hqnot, hcnot⟩)

/-! ## §4. All mappings. -/

/-- **Adding mappings ends with all of them, or at the first that shares
something** with a mapping before it.  The indices cover what was added. -/
theorem addAll_cases (rest : List Mapping) {r : Registry} (h : Indexed r) :
    (∃ r', r.addAll rest = (r', none) ∧ Indexed r' ∧ r'.mappings = r.mappings ++ rest)
    ∨ ∃ done m later r' e, rest = done ++ m :: later ∧ r.addAll rest = (r', some e)
        ∧ Indexed r' ∧ r'.mappings = r.mappings ++ done
        ∧ Shares r'.mappings m ∧ Refusal r'.mappings m e := by
  induction rest generalizing r with
  | nil => exact .inl ⟨r, rfl, h, (List.append_nil _).symm⟩
  | cons m rest ih =>
    by_cases hm : Shares r.mappings m
    · -- the scan ends here, with nothing of the rest looked at
      obtain ⟨e, hadd, hrefusal⟩ := add_of_shares h hm
      exact .inr ⟨[], m, rest, r, e, rfl, addAll_cons_error hadd rest, h,
        (List.append_nil _).symm, hm, hrefusal⟩
    · have hadd := add_of_not_shares h hm
      have happend : ∀ ms, (r.push m).mappings ++ ms = r.mappings ++ m :: ms := by
        intro ms
        rw [mappings_push, List.append_assoc]
        rfl
      rw [addAll_cons_ok hadd]
      rcases ih (h.push hm) with
        ⟨r', hr, hi, hms⟩ | ⟨done, m', later, r', e, hrest, hr, hi, hms, hs⟩
      · exact .inl ⟨r', hr, hi, hms.trans (happend rest)⟩
      · refine .inr ⟨m :: done, m', later, r', e, ?_, hr, hi, hms.trans (happend done), hs⟩
        rw [hrest]
        rfl

/-- A registry that was built holds the mappings, and its indices cover them. -/
theorem indexed_of_build {es : List Mapping} {r : Registry} (h : build es = .ok r) :
    Indexed r ∧ r.mappings = es := by
  unfold build at h
  rcases addAll_cases es indexed_empty with ⟨r', hr, hi, hms⟩ | ⟨_, _, _, r', e, _, hr, _⟩
  · rw [hr] at h
    obtain rfl : r' = r := Except.ok.inj h
    exact ⟨hi, hms⟩
  · rw [hr] at h
    cases h

/-! ## §5. The first clash. -/

/-- In a list without repeated keys, a key is not among those before it. -/
theorem key_notMem_take {κ : Type} {key : Mapping → κ} {ms : List Mapping}
    (hn : (ms.map key).Nodup) {j : Nat} {e : Mapping} (hj : ms[j]? = some e) :
    key e ∉ (ms.take j).map key := by
  have htake : ms.take (j + 1) = ms.take j ++ [e] := by
    rw [List.take_add_one, hj]
    rfl
  have hsub : ((ms.take (j + 1)).map key).Nodup :=
    hn.sublist ((List.take_sublist (j + 1) ms).map key)
  rw [htake, List.map_append, List.nodup_append] at hsub
  -- with `e` behind them, a key equal to its key would be there twice
  intro hmem
  exact hsub.2.2 _ hmem _ (by simp) rfl

theorem Distinct.not_shares {ms : List Mapping} (h : Distinct ms) {j : Nat} {e : Mapping}
    (hj : ms[j]? = some e) : ¬ Shares (ms.take j) e :=
  not_shares_iff.2 ⟨key_notMem_take h.types hj, key_notMem_take h.qualifiedNames hj,
    key_notMem_take h.classNames hj⟩

theorem FirstClash.not_distinct {ms : List Mapping} {k : Nat} {m : Mapping}
    (h : FirstClash ms k m) : ¬ Distinct ms :=
  fun hd => hd.not_shares h.at_position h.shares

/-- There is at most one first clash. -/
theorem FirstClash.unique {ms : List Mapping} {k k' : Nat} {m m' : Mapping}
    (h : FirstClash ms k m) (h' : FirstClash ms k' m') : k = k' ∧ m = m' := by
  have hk : k = k' := by
    rcases Nat.lt_trichotomy k k' with hlt | heq | hgt
    · exact absurd h.shares (h'.first k m hlt h.at_position)
    · exact heq
    · exact absurd h'.shares (h.first k' m' hgt h'.at_position)
  subst hk
  exact ⟨rfl, Option.some.inj (h.at_position.symm.trans h'.at_position)⟩

/-- A mapping that shares something with the distinct ones before it. -/
theorem firstClash_of_append {done later : List Mapping} {m : Mapping} (hd : Distinct done)
    (hs : Shares done m) : FirstClash (done ++ m :: later) done.length m where
  at_position := by simp
  shares := by
    rwa [List.take_left]
  first := by
    intro j e hj he
    rw [List.getElem?_append_left hj] at he
    rw [List.take_append_of_le_length (by omega)]
    exact hd.not_shares he

/-- Without distinct mappings there is a first clash, and it is refused. -/
theorem build_of_not_distinct {es : List Mapping} (hn : ¬ Distinct es) :
    ∃ k m e, FirstClash es k m ∧ build es = .error e ∧ Refusal (es.take k) m e := by
  rcases addAll_cases es indexed_empty with
    ⟨r', _, hi, hms⟩ | ⟨done, m, later, r', e, hes, hr, hi, hms, hs, hrefusal⟩
  · have hms' : r'.mappings = es := hms
    exact absurd (hms' ▸ hi.distinct) hn
  · have hdone : r'.mappings = done := hms
    rw [hdone] at hs hrefusal
    subst hes
    refine ⟨done.length, m, e, firstClash_of_append (hdone ▸ hi.distinct) hs, ?_, ?_⟩
    · rw [build, hr]
    · rwa [List.take_left]

/-- **Building succeeds exactly on distinct mappings**, and holds them as they
were given.  Otherwise some mapping is the first to share something with an
earlier one, and the error is the one that this mapping is refused for. -/
theorem build_correct (es : List Mapping) :
    ((∃ r, build es = .ok r) ↔ Distinct es)
    ∧ (∀ r, build es = .ok r → r.mappings = es)
    ∧ (¬ Distinct es → ∃ k m, FirstClash es k m)
    ∧ (∀ k m, FirstClash es k m → ∃ e, build es = .error e ∧ Refusal (es.take k) m e) := by
  refine ⟨⟨?_, ?_⟩, ?_, ?_, ?_⟩
  · rintro ⟨r, hr⟩
    obtain ⟨hi, rfl⟩ := indexed_of_build hr
    exact hi.distinct
  · intro hd
    cases hb : build es with
    | ok r => exact ⟨r, rfl⟩
    | error e =>
      -- an error means a clash, which distinct mappings do not have
      rcases addAll_cases es indexed_empty with
        ⟨r', hr, _⟩ | ⟨_, _, _, r', _, hes, _, hi, hms, hs, _⟩
      · rw [build, hr] at hb
        cases hb
      · rw [hms] at hs
        exact absurd hd (hes ▸ (firstClash_of_append (hms ▸ hi.distinct) hs).not_distinct)
  · intro r hr
    exact (indexed_of_build hr).2
  · intro hn
    obtain ⟨k, m, _, hk, _⟩ := build_of_not_distinct hn
    exact ⟨k, m, hk⟩
  · intro k m hk
    obtain ⟨k', m', e, hk', hb, hrefusal⟩ := build_of_not_distinct hk.not_distinct
    obtain ⟨rfl, rfl⟩ := hk.unique hk'
    exact ⟨e, hb, hrefusal⟩

end ClassBridge.Registry
