/-
  ClassBridge.Proofs.Attribute.Reading
  ────────────────────────────────────
  **What reading attributes comes to.**

  Reading goes through the attributes of an item and through the parameters of
  each, and carries along what was read so far.  What it ends with can be said
  without that:

      fault?        what is wrong with one parameter, or with one attribute
      firstFault?   the first of these in reading order
      given         the parameters of all attributes that are read
      noted         what a list of parameters says

  `read_eq` — reading answers with the first fault, and with what the
  parameters say if there is none.  A flag is then set exactly if it is among
  them (`hasFlag_noted`), and of several texts of one name the last one counts
  (`value?_noted`).
-/
import ClassBridge.Attribute.Basic

namespace ClassBridge

theorem Path.word?_eq_some_iff {p : Path} {w : String} : p.word? = some w ↔ p = ⟨false, [w]⟩ := by
  constructor
  · intro h
    unfold Path.word? at h
    split at h
    · next hr hs =>
      obtain ⟨r, s⟩ := p
      obtain rfl : r = false := hr
      obtain rfl : s = _ := hs
      obtain rfl := Option.some.inj h
      rfl
    · cases h
  · rintro rfl
    rfl

/-! ## §1. One parameter. -/

namespace Param

/-- What is wrong with a parameter. -/
def fault? : Param → Option Attribute.Fault
  | .flag path => if path.word?.isSome then none else some .invalidFlag
  | .value path text =>
    match path.word?, text with
    | none, _ => some .invalidName
    | some name, none => some (.notText name)
    | some _, some _ => none
  | .other => some .invalidParameter

/-- The flag that a parameter sets. -/
def flag? : Param → Option String
  | .flag path => path.word?
  | _ => none

/-- The name and the text that a parameter gives it. -/
def named? : Param → Option (String × TextLiteral)
  | .value path (some t) => path.word?.map fun name => (name, t)
  | _ => none

theorem flag?_eq_some_iff {p : Param} {flag : String} :
    p.flag? = some flag ↔ p = .flag ⟨false, [flag]⟩ := by
  cases p with
  | flag path =>
    show path.word? = some flag ↔ _
    rw [Path.word?_eq_some_iff, Param.flag.injEq]
  | value path text => simp [flag?]
  | other => simp [flag?]

end Param

namespace Attributes

open Attribute (Fault)

/-- What is said by some attributes and by more parameters behind them. -/
def noted (a : Attributes) (ps : List Param) : Attributes :=
  ⟨a.flags ++ ps.filterMap Param.flag?, (ps.filterMap Param.named?).reverse ++ a.values⟩

theorem noted_nil (a : Attributes) : a.noted [] = a := by
  simp [noted]

theorem noted_append (a : Attributes) (ps qs : List Param) :
    a.noted (ps ++ qs) = (a.noted ps).noted qs := by
  simp [noted]

/-- One parameter is refused for what is wrong with it, or else noted. -/
theorem addParam_eq (a : Attributes) (p : Param) :
    a.addParam p = p.fault?.elim (.ok (a.noted [p])) .error := by
  cases p with
  | flag path =>
    cases hw : path.word? with
    | none => simp [addParam, Param.fault?, hw]
    | some flag => simp [addParam, Param.fault?, noted, Param.flag?, Param.named?, hw]
  | value path text =>
    cases hw : path.word? with
    | none => simp [addParam, Param.fault?, hw]
    | some name =>
      cases text with
      | none => simp [addParam, Param.fault?, hw]
      | some t => simp [addParam, Param.fault?, noted, Param.flag?, Param.named?, hw]
  | other => rfl

/-! ## §2. Parameters and attributes in order. -/

/-- Parameters are noted up to the first that is at fault. -/
theorem addParams_eq (a : Attributes) (ps : List Param) :
    a.addParams ps = (ps.findSome? Param.fault?).elim (.ok (a.noted ps)) .error := by
  induction ps generalizing a with
  | nil =>
    show Except.ok a = .ok (a.noted [])
    rw [noted_nil]
  | cons p ps ih =>
    rw [addParams, addParam_eq, List.findSome?_cons]
    cases hp : p.fault? with
    | some f => rfl
    | none =>
      show (a.noted [p]).addParams ps = _
      rw [ih, ← noted_append]
      rfl

end Attributes

namespace Attribute

/-- What is wrong with an attribute: nothing if it is not read at all, else
what keeps it from being a list, and else its first parameter at fault. -/
def fault? (a : Attribute) : Option Fault :=
  if a.isRead then
    match a.params with
    | .ok ps => ps.findSome? Param.fault?
    | .error f => some f
  else none

/-- The parameters that an attribute contributes. -/
def given (a : Attribute) : List Param :=
  if a.isRead then
    match a.params with
    | .ok ps => ps
    | .error _ => []
  else []

theorem isRead_iff {a : Attribute} : a.isRead = true ↔ a.path = ⟨false, [keyword]⟩ := by
  unfold isRead
  rw [beq_iff_eq, Path.word?_eq_some_iff]

theorem mem_given {a : Attribute} {p : Param} :
    p ∈ a.given ↔ a.path = ⟨false, [keyword]⟩ ∧ ∃ ps, a.params = .ok ps ∧ p ∈ ps := by
  rw [← isRead_iff]
  unfold given
  by_cases hr : a.isRead = true
  · rw [if_pos hr]
    cases a.params with
    | ok ps => simp [hr]
    | error f => simp
  · simp [hr]

end Attribute

namespace Attributes

open Attribute (Fault)

theorem addAttribute_eq (a : Attributes) (attr : Attribute) :
    a.addAttribute attr = attr.fault?.elim (.ok (a.noted attr.given)) .error := by
  unfold addAttribute Attribute.fault? Attribute.given
  by_cases hr : attr.isRead = true
  · rw [if_pos hr, if_pos hr, if_pos hr]
    cases attr.params with
    | ok ps => exact addParams_eq a ps
    | error f => rfl
  · rw [if_neg hr, if_neg hr, if_neg hr, noted_nil]
    rfl

/-- The first fault in reading order: attribute by attribute, and within one
from left to right. -/
def firstFault? (attributes : List Attribute) : Option Fault :=
  attributes.findSome? Attribute.fault?

/-- The parameters of all attributes that are read, in order. -/
def given (attributes : List Attribute) : List Param :=
  attributes.flatMap Attribute.given

theorem addAttributes_eq (a : Attributes) (attributes : List Attribute) :
    a.addAttributes attributes
      = (firstFault? attributes).elim (.ok (a.noted (given attributes))) .error := by
  induction attributes generalizing a with
  | nil =>
    show Except.ok a = .ok (a.noted [])
    rw [noted_nil]
  | cons attr rest ih =>
    rw [addAttributes, addAttribute_eq, firstFault?, List.findSome?_cons, given, List.flatMap_cons]
    cases hf : attr.fault? with
    | some f => rfl
    | none =>
      show (a.noted attr.given).addAttributes rest = _
      rw [ih, ← noted_append]
      rfl

/-- **Reading answers with the first fault**, and with what all parameters say
if there is none. -/
theorem read_eq (attributes : List Attribute) :
    read attributes
      = (firstFault? attributes).elim (.ok (noted {} (given attributes))) .error :=
  addAttributes_eq {} attributes

theorem mem_given {attributes : List Attribute} {p : Param} :
    p ∈ given attributes
      ↔ ∃ a ∈ attributes, a.path = ⟨false, [Attribute.keyword]⟩
          ∧ ∃ ps, a.params = .ok ps ∧ p ∈ ps := by
  simp only [given, List.mem_flatMap, Attribute.mem_given]

/-! ## §3. What was read. -/

/-- The texts that parameters give a name, in order. -/
def texts (name : String) (ps : List Param) : List TextLiteral :=
  ps.filterMap fun p => p.named?.bind fun q => if q.1 = name then some q.2 else none

/-- The text that a parameter gives a name. -/
theorem text?_eq_some_iff {p : Param} {name : String} {t : TextLiteral} :
    (p.named?.bind fun q => if q.1 = name then some q.2 else none) = some t
      ↔ p = .value ⟨false, [name]⟩ (some t) := by
  cases p with
  | value path text =>
    cases text with
    | none => simp [Param.named?]
    | some t' =>
      simp only [Param.named?, Option.bind_eq_some_iff, Option.map_eq_some_iff,
        Path.word?_eq_some_iff, Param.value.injEq, Option.some.injEq]
      constructor
      · rintro ⟨_, ⟨w, hw, rfl⟩, hq⟩
        obtain ⟨rfl, ht⟩ := Option.ite_none_right_eq_some.1 hq
        exact ⟨hw, Option.some.inj ht⟩
      · rintro ⟨hp, rfl⟩
        exact ⟨(name, t'), ⟨name, hp, rfl⟩, if_pos rfl⟩
  | flag path => simp [Param.named?]
  | other => simp [Param.named?]

theorem mem_texts {name : String} {ps : List Param} {t : TextLiteral} :
    t ∈ texts name ps ↔ .value ⟨false, [name]⟩ (some t) ∈ ps := by
  simp only [texts, List.mem_filterMap, text?_eq_some_iff, exists_eq_right]

/-- There is no last text of a name exactly if no parameter gives it one. -/
theorem getLast?_texts_eq_none_iff {name : String} {ps : List Param} :
    (texts name ps).getLast? = none ↔ ∀ t, .value ⟨false, [name]⟩ (some t) ∉ ps := by
  rw [List.getLast?_eq_none_iff, List.eq_nil_iff_forall_not_mem]
  simp only [mem_texts]

/-- A flag is set exactly if some parameter is this flag. -/
theorem hasFlag_noted {ps : List Param} {flag : String} :
    (noted {} ps).hasFlag flag = true ↔ .flag ⟨false, [flag]⟩ ∈ ps := by
  simp only [hasFlag, noted, List.nil_append, List.contains_iff_mem, List.mem_filterMap,
    Param.flag?_eq_some_iff, exists_eq_right]

/-- In pairs of which the latest comes first, the latest is found. -/
theorem lookup_reverse (pairs : List (String × TextLiteral)) (name : String) :
    pairs.reverse.lookup name
      = (pairs.filterMap fun q => if q.1 = name then some q.2 else none).getLast? := by
  induction pairs with
  | nil => rfl
  | cons q pairs ih =>
    obtain ⟨k, t⟩ := q
    rw [List.reverse_cons, List.lookup_append, ih, List.filterMap_cons]
    by_cases hk : k = name
    · subst hk
      rw [if_pos rfl, List.getLast?_cons, List.lookup_cons_self]
      -- a later text of the name, if there is one, is found before this one
      cases (pairs.filterMap fun r => if r.1 = k then some r.2 else none).getLast? <;> rfl
    · have hne : (name == k) = false := beq_eq_false_iff_ne.2 fun e => hk e.symm
      rw [if_neg hk, List.lookup_cons, hne]
      exact Option.or_none

/-- Of several texts of one name, the last one counts. -/
theorem value?_noted {ps : List Param} {name : String} :
    (noted {} ps).value? name = (texts name ps).getLast? := by
  rw [value?, noted, List.append_nil, lookup_reverse, List.filterMap_filterMap, texts]

end Attributes
end ClassBridge
