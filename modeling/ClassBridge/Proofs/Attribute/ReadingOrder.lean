/-
  ClassBridge.Proofs.Attribute.ReadingOrder
  ─────────────────────────────────────────
  **The first refusal decides, and else the parameters.**

  What can be wrong with attributes is said here without the functions that look
  for it:

      Param.Refused         a parameter of the wrong shape
      Attribute.Refused     an attribute that holds no list, or its first
                            parameter that is refused
      FirstRefused          the first attribute that is refused

  Attributes of other names are never refused.  An attribute that holds no list is
  refused for a fault of its own, which is none of a parameter
  (`fault_of_readContent`).

  Main statement: `read_in_order` — reading is refused for the first refusal in
  reading order, and otherwise says what the parameters say, one after another;
  how they are spread over attributes makes no difference.
-/
import ClassBridge.Attribute.Grammar
import ClassBridge.Proofs.Attribute.Reading

namespace ClassBridge

open Attribute (Fault)

/-! ## §1. Refusals. -/

/-- A parameter is refused for its shape. -/
inductive Param.Refused : Param → Fault → Prop where
  /-- A flag that is not one word. -/
  | flag {path : Path} (long : ∀ w, path ≠ ⟨false, [w]⟩) : Refused (.flag path) .invalidFlag
  /-- A name that is not one word, whatever its value is. -/
  | name {path : Path} {text : Option TextLiteral} (long : ∀ w, path ≠ ⟨false, [w]⟩) :
      Refused (.value path text) .invalidName
  /-- A value that is not a string. -/
  | value (name : String) : Refused (.value ⟨false, [name]⟩ none) (.notText name)
  /-- Anything else. -/
  | other : Refused .other .invalidParameter

/-- An attribute that is read is refused as a whole, or else for the first of its
parameters that is refused. -/
inductive Attribute.Refused (a : Attribute) : Fault → Prop where
  /-- It holds no list. -/
  | content {f : Fault} (read : a.path = ⟨false, [keyword]⟩) (content : a.params = .error f) :
      Refused a f
  /-- It holds a list, and `p` is the first parameter that is refused. -/
  | param {f : Fault} {ps qs : List Param} {p : Param} (read : a.path = ⟨false, [keyword]⟩)
      (content : a.params = .ok (ps ++ p :: qs)) (fine : ∀ q ∈ ps, ∀ g, ¬ q.Refused g)
      (refused : p.Refused f) : Refused a f

/-- The first attribute that is refused is refused for this fault. -/
def Attributes.FirstRefused (attributes : List Attribute) (f : Fault) : Prop :=
  ∃ before a after, attributes = before ++ a :: after ∧ (∀ b ∈ before, ∀ g, ¬ b.Refused g)
    ∧ a.Refused f

theorem Path.word?_eq_none_iff {p : Path} : p.word? = none ↔ ∀ w, p ≠ ⟨false, [w]⟩ := by
  simp only [Option.eq_none_iff_forall_ne_some, ne_eq, Path.word?_eq_some_iff]

/-- What is found wrong with a parameter is what it is refused for. -/
theorem Param.fault?_eq_some_iff {p : Param} {f : Fault} : p.fault? = some f ↔ p.Refused f := by
  constructor
  · intro h
    cases p with
    | flag path =>
      cases hw : path.word? with
      | some w => simp [fault?, hw] at h
      | none =>
        obtain rfl : Fault.invalidFlag = f := by simpa [fault?, hw] using h
        exact .flag (Path.word?_eq_none_iff.1 hw)
    | value path text =>
      cases hw : path.word? with
      | none =>
        obtain rfl : Fault.invalidName = f := by simpa [fault?, hw] using h
        exact .name (Path.word?_eq_none_iff.1 hw)
      | some name =>
        obtain rfl := Path.word?_eq_some_iff.1 hw
        cases text with
        | some t => simp [fault?, hw] at h
        | none =>
          obtain rfl : Fault.notText name = f := by simpa [fault?, hw] using h
          exact .value name
    | other =>
      obtain rfl := Option.some.inj h
      exact .other
  · intro h
    cases h with
    | flag long => simp [fault?, Path.word?_eq_none_iff.2 long]
    | name long => simp [fault?, Path.word?_eq_none_iff.2 long]
    | value name => rfl
    | other => rfl

theorem Param.fault?_eq_none_iff {p : Param} : p.fault? = none ↔ ∀ f, ¬ p.Refused f := by
  simp only [Option.eq_none_iff_forall_ne_some, ne_eq, fault?_eq_some_iff]

theorem Attribute.fault?_eq_some_iff {a : Attribute} {f : Fault} :
    a.fault? = some f ↔ a.Refused f := by
  constructor
  · intro h
    unfold fault? at h
    split at h
    · next hread =>
      rw [isRead_iff] at hread
      split at h
      · next ps hps =>
        obtain ⟨front, p, behind, rfl, hp, hfine⟩ := List.findSome?_eq_some_iff.1 h
        exact .param hread hps (fun q hq => Param.fault?_eq_none_iff.1 (hfine q hq))
          (Param.fault?_eq_some_iff.1 hp)
      · next hps =>
        obtain rfl := Option.some.inj h
        exact .content hread hps
    · cases h
  · intro h
    unfold fault?
    cases h with
    | content read content => rw [if_pos (isRead_iff.2 read), content]
    | param read content fine refused =>
      rw [if_pos (isRead_iff.2 read), content]
      exact List.findSome?_eq_some_iff.2 ⟨_, _, _, rfl, Param.fault?_eq_some_iff.2 refused,
        fun q hq => Param.fault?_eq_none_iff.2 (fine q hq)⟩

theorem Attribute.fault?_eq_none_iff {a : Attribute} : a.fault? = none ↔ ∀ f, ¬ a.Refused f := by
  simp only [Option.eq_none_iff_forall_ne_some, ne_eq, fault?_eq_some_iff]

namespace Attributes

theorem firstFault?_eq_some_iff {attributes : List Attribute} {f : Fault} :
    firstFault? attributes = some f ↔ FirstRefused attributes f := by
  simp only [firstFault?, List.findSome?_eq_some_iff, FirstRefused, Attribute.fault?_eq_some_iff,
    Attribute.fault?_eq_none_iff]
  constructor
  · rintro ⟨before, a, after, heq, hrefused, hfine⟩
    exact ⟨before, a, after, heq, hfine, hrefused⟩
  · rintro ⟨before, a, after, heq, hfine, hrefused⟩
    exact ⟨before, a, after, heq, hrefused, hfine⟩

theorem firstFault?_eq_none_iff {attributes : List Attribute} :
    firstFault? attributes = none ↔ ∀ f, ¬ FirstRefused attributes f := by
  simp only [Option.eq_none_iff_forall_ne_some, ne_eq, firstFault?_eq_some_iff]

/-- **Reading is refused for the first refusal in reading order.** -/
theorem read_eq_error_iff {attributes : List Attribute} {f : Fault} :
    read attributes = .error f ↔ FirstRefused attributes f := by
  rw [← firstFault?_eq_some_iff, read_eq]
  cases firstFault? attributes with
  | none => simp
  | some g => simp

/-! ## §2. What the parameters say. -/

/-- What a list of parameters says: every flag in it, and for every name the text
of the last parameter that has this name. -/
structure Answers (ps : List Param) (a : Attributes) : Prop where
  flags : ∀ flag, a.hasFlag flag = true ↔ .flag ⟨false, [flag]⟩ ∈ ps
  values : ∀ name t, a.value? name = some t ↔ ∃ before after,
    ps = before ++ .value ⟨false, [name]⟩ (some t) :: after
      ∧ ∀ text, .value ⟨false, [name]⟩ text ∉ after

/-- What was noted of parameters that are not refused is what they say. -/
theorem answers_noted {ps : List Param} (h : ∀ p ∈ ps, ∀ f, ¬ p.Refused f) :
    Answers ps (noted {} ps) where
  flags _ := hasFlag_noted
  values := by
    intro name t
    rw [value?_noted, texts, List.getLast?_filterMap, List.findSome?_eq_some_iff]
    constructor
    · rintro ⟨later, p, earlier, heq, hp, hlater⟩
      obtain rfl := text?_eq_some_iff.1 hp
      have hps : ps = earlier.reverse ++ .value ⟨false, [name]⟩ (some t) :: later.reverse := by
        simpa using congrArg List.reverse heq
      refine ⟨earlier.reverse, later.reverse, hps, ?_⟩
      intro text hmem
      cases text with
      | none =>
        -- a later value that is no string would have been refused
        have hin : .value ⟨false, [name]⟩ none ∈ ps := by
          rw [hps]
          exact List.mem_append_right _ (List.mem_cons_of_mem _ hmem)
        exact h _ hin _ (.value name)
      | some u =>
        have hnone := hlater _ (List.mem_reverse.1 hmem)
        rw [text?_eq_some_iff.2 rfl] at hnone
        cases hnone
    · rintro ⟨before, after, rfl, hafter⟩
      refine ⟨after.reverse, .value ⟨false, [name]⟩ (some t), before.reverse, by simp,
        text?_eq_some_iff.2 rfl, ?_⟩
      intro p hp
      rw [Option.eq_none_iff_forall_ne_some]
      intro u hu
      rw [text?_eq_some_iff] at hu
      exact hafter (some u) (hu ▸ List.mem_reverse.1 hp)

/-- Parameters of attributes that are not refused are not refused. -/
theorem not_refused_of_given {attributes : List Attribute}
    (h : ∀ f, ¬ FirstRefused attributes f) : ∀ p ∈ given attributes, ∀ f, ¬ p.Refused f := by
  intro p hp
  obtain ⟨a, ha, hread, ps, hps, hmem⟩ := mem_given.1 hp
  have hfault : a.fault? = none :=
    List.findSome?_eq_none_iff.1 (firstFault?_eq_none_iff.2 h) a ha
  rw [Attribute.fault?, if_pos (Attribute.isRead_iff.2 hread), hps] at hfault
  exact Param.fault?_eq_none_iff.1 (List.findSome?_eq_none_iff.1 hfault p hmem)

theorem read_of_not_refused {attributes : List Attribute} (h : ∀ f, ¬ FirstRefused attributes f) :
    ∃ a, read attributes = .ok a ∧ Answers (given attributes) a := by
  refine ⟨noted {} (given attributes), ?_, answers_noted (not_refused_of_given h)⟩
  rw [read_eq, firstFault?_eq_none_iff.2 h]
  rfl

end Attributes

/-! ## §3. How parameters are spread over attributes. -/

/-- The attribute holds a list, if it is read at all. -/
def Attribute.IsList (a : Attribute) : Prop :=
  a.path = ⟨false, [keyword]⟩ → ∃ ps, a.params = .ok ps

/-- A list is at fault where its parameters are. -/
theorem Attribute.IsList.fault?_eq {a : Attribute} (h : a.IsList) :
    a.fault? = a.given.findSome? Param.fault? := by
  unfold fault? given
  by_cases hread : a.isRead = true
  · obtain ⟨ps, hps⟩ := h (isRead_iff.1 hread)
    rw [if_pos hread, if_pos hread, hps]
  · rw [if_neg hread, if_neg hread]
    rfl

theorem Attribute.given_of_not_read {a : Attribute} (h : a.path ≠ ⟨false, [keyword]⟩) :
    a.given = [] := by
  unfold given
  exact if_neg (mt isRead_iff.1 h)

theorem Attribute.given_list (ps : List Param) : (Attribute.list ps).given = ps := by
  unfold given
  exact if_pos (isRead_iff.2 rfl)

namespace Attributes

theorem firstFault?_of_lists {attributes : List Attribute} (h : ∀ a ∈ attributes, a.IsList) :
    firstFault? attributes = (given attributes).findSome? Param.fault? := by
  induction attributes with
  | nil => rfl
  | cons a attributes ih =>
    have hrest : ∀ b ∈ attributes, b.IsList := fun b hb => h b (List.mem_cons_of_mem a hb)
    rw [given, List.flatMap_cons, List.findSome?_append, ← (h a List.mem_cons_self).fault?_eq]
    show (a :: attributes).findSome? Attribute.fault?
      = a.fault?.or ((given attributes).findSome? Param.fault?)
    rw [← ih hrest, List.findSome?_cons, firstFault?]
    cases a.fault? <;> rfl

/-- **Only the parameters one after another count.**  Lists with the same
parameters in the same order can be put in each other's place, whatever stands in
front of them and behind them. -/
theorem read_congr {before middle middle' after : List Attribute}
    (h : ∀ a ∈ middle, a.IsList) (h' : ∀ a ∈ middle', a.IsList)
    (hgiven : given middle = given middle') :
    read (before ++ middle ++ after) = read (before ++ middle' ++ after) := by
  have hfault : firstFault? middle = firstFault? middle' := by
    rw [firstFault?_of_lists h, firstFault?_of_lists h', hgiven]
  have hfault' : firstFault? (before ++ middle ++ after)
      = firstFault? (before ++ middle' ++ after) := by
    unfold firstFault? at *
    rw [List.findSome?_append, List.findSome?_append, List.findSome?_append,
      List.findSome?_append, hfault]
  have hgiven' : given (before ++ middle ++ after) = given (before ++ middle' ++ after) := by
    unfold given at *
    rw [List.flatMap_append, List.flatMap_append, List.flatMap_append, List.flatMap_append,
      hgiven]
  rw [read_eq, read_eq, hfault', hgiven']

theorem isList_lists (lists : List (List Param)) :
    ∀ a ∈ lists.map Attribute.list, a.IsList := by
  intro a ha _
  obtain ⟨ps, _, rfl⟩ := List.mem_map.1 ha
  exact ⟨ps, rfl⟩

theorem given_lists (lists : List (List Param)) : given (lists.map .list) = lists.flatten := by
  induction lists with
  | nil => rfl
  | cons ps lists ih =>
    show (Attribute.list ps).given ++ given (lists.map .list) = _
    rw [Attribute.given_list, ih, List.flatten_cons]

end Attributes

/-! ## §4. What keeps an attribute from being a list. -/

namespace Attribute

/-- The faults of an attribute that holds no list of parameters. -/
inductive Malformed : Fault → Prop where
  | notList : Malformed .notList
  | unknownLiteral (source : String) : Malformed (.unknownLiteral source)

theorem Malformed.of_notList {α : Type} {f : Fault}
    (h : (.error .notList : Except Fault α) = .error f) : Malformed f := by
  obtain rfl := Except.error.inj h
  exact .notList

theorem fault_of_readLiteral {tokens : List Token} {f : Fault}
    (h : readLiteral tokens = .error f) : Malformed f := by
  unfold readLiteral at h
  split at h
  · obtain rfl := Except.error.inj h
    exact .unknownLiteral _
  · cases h
  · cases h
  · split at h
    · cases h
    · exact .of_notList h
  · cases h
  · exact .of_notList h

theorem error_of_map {α β : Type} {x : Except Fault α} {g : α → β} {f : Fault}
    (h : x.map g = .error f) : x = .error f := by
  cases x with
  | ok a => cases h
  | error e =>
    obtain rfl := Except.error.inj h
    rfl

/-- A parameter that cannot be read is no parameter, if the same holds of the
lists inside it. -/
theorem fault_of_readParam {fuel : Nat}
    (inner : ∀ n, fuel = n + 1 → ∀ tokens f, readParams n tokens = .error f → Malformed f)
    {tokens : List Token} {f : Fault} (h : readParam fuel tokens = .error f) : Malformed f := by
  rw [readParam.eq_def] at h
  split at h
  · exact fault_of_readLiteral (error_of_map h)
  · split at h
    · exact .of_notList h
    · exact fault_of_readLiteral (error_of_map h)
    · -- a path and a list behind it
      split at h
      · exact .of_notList h
      · exact inner _ rfl _ _ (error_of_map h)
    · cases h

theorem fault_of_readParams {fuel : Nat} {tokens : List Token} {f : Fault}
    (h : readParams fuel tokens = .error f) : Malformed f := by
  induction fuel using Nat.strongRecOn generalizing tokens f with
  | _ fuel ih =>
    have inner : ∀ n, fuel = n + 1 → ∀ tokens f, readParams n tokens = .error f → Malformed f := by
      intro n hn tokens f hf
      exact ih n (by omega) hf
    rw [readParams.eq_def] at h
    split at h
    · cases h
    · split at h
      · next hparam =>
        obtain rfl := Except.error.inj h
        exact fault_of_readParam inner hparam
      · cases h
      · -- a comma, and more parameters behind it
        split at h
        · exact .of_notList h
        · exact inner _ rfl _ _ (error_of_map h)
      · exact .of_notList h

/-- What is wrong with tokens that hold no list of parameters is nothing that is
wrong with a parameter. -/
theorem fault_of_readContent {tokens : List Token} {f : Fault}
    (h : readContent tokens = .error f) : Malformed f := by
  unfold readContent at h
  split at h
  · next inner rest =>
    cases hparams : readParams (Token.sizes inner) inner with
    | error g =>
      rw [hparams] at h
      obtain rfl := Except.error.inj h
      exact fault_of_readParams hparams
    | ok ps =>
      rw [hparams] at h
      -- the list is read, but something stands behind it
      cases rest with
      | nil => cases h
      | cons t rest => exact .of_notList h
  · next rest =>
    cases hliteral : readLiteral rest with
    | error g =>
      rw [hliteral] at h
      obtain rfl := Except.error.inj h
      exact fault_of_readLiteral hliteral
    | ok r =>
      rw [hliteral] at h
      exact .of_notList h
  · exact .of_notList h

theorem fault_of_ofTokens? {tokens : List Token} {a : Attribute} {f : Fault}
    (ha : ofTokens? tokens = some a) (h : a.params = .error f) : Malformed f := by
  obtain ⟨r, _, rfl⟩ := Option.map_eq_some_iff.1 ha
  exact fault_of_readContent h

end Attribute

/-! ## §5. Reading in order. -/

namespace Attributes

/-- **Attributes are read in order.**  Reading is refused for the first refusal:
of an attribute that holds no list before any of its parameters and behind those
of the attributes in front of it, and of parameters from left to right.  If there
is none, every flag among the parameters is set, and every name has the last text
that they give it.  Attributes of other names have no effect wherever they stand,
and lists of the same parameters in the same order can be put in each other's
place, whether the parameters stand in one attribute or in several. -/
theorem read_in_order :
    (∀ attributes f, read attributes = .error f ↔ FirstRefused attributes f)
      ∧ (∀ attributes, (∀ f, ¬ FirstRefused attributes f) →
          ∃ a, read attributes = .ok a ∧ Answers (given attributes) a)
      ∧ (∀ tokens a f, Attribute.ofTokens? tokens = some a → a.params = .error f →
          Attribute.Malformed f)
      ∧ (∀ before a after, a.path ≠ ⟨false, [Attribute.keyword]⟩ →
          read (before ++ a :: after) = read (before ++ after))
      ∧ (∀ before middle middle' after, (∀ a ∈ middle, a.IsList) → (∀ a ∈ middle', a.IsList) →
          given middle = given middle' →
          read (before ++ middle ++ after) = read (before ++ middle' ++ after))
      ∧ ∀ before ps qs after, read (before ++ .list (ps ++ qs) :: after)
          = read (before ++ .list ps :: .list qs :: after) := by
  refine ⟨fun _ _ => read_eq_error_iff, fun _ => read_of_not_refused,
    fun _ _ _ => Attribute.fault_of_ofTokens?, ?_, fun _ _ _ _ => read_congr, ?_⟩
  · intro before a after ha
    have hlist : ∀ b ∈ [a], b.IsList := by
      intro b hb hread
      rw [List.mem_singleton.1 hb] at hread
      exact absurd hread ha
    -- it contributes what no attribute at all does
    have hgiven : given [a] = given [] := by
      show a.given ++ [] = []
      rw [Attribute.given_of_not_read ha, List.append_nil]
    have hsame : read (before ++ [a] ++ after) = read (before ++ [] ++ after) :=
      read_congr hlist (by simp) hgiven
    simpa using hsame
  · intro before ps qs after
    have hgiven : given ([ps ++ qs].map .list) = given ([ps, qs].map .list) := by
      rw [given_lists, given_lists]
      simp
    have hsame : read (before ++ [ps ++ qs].map .list ++ after)
        = read (before ++ [ps, qs].map .list ++ after) :=
      read_congr (isList_lists _) (isList_lists _) hgiven
    simpa using hsame

/-- The parameters of a native class. -/
def nativeA : List Param :=
  [.value ⟨false, ["class_name"]⟩ (some (.quoted "a.A")), .flag ⟨false, ["native"]⟩]

/-- Another name for it. -/
def renamedB : List Param := [.value ⟨false, ["class_name"]⟩ (some (.quoted "a.B"))]

/-- An attribute that is not read, and holds no list. -/
def documentation : Attribute := ⟨⟨false, ["doc"]⟩, .error .notList⟩

/-- A flag of two words in front of a number as a value, and an attribute behind
them that holds no list. -/
def refusedTwice : List Attribute :=
  [.list [.flag ⟨false, ["a", "b"]⟩, .value ⟨false, ["x"]⟩ none],
    ⟨⟨false, [Attribute.keyword]⟩, .error .notList⟩]

/-- The last name counts, and it can as well be given in the attribute of the
first; of two refusals the first counts, and it is not that of the attribute. -/
theorem nativeA_renamed :
    (∃ a, read [.list nativeA, documentation, .list renamedB] = .ok a
      ∧ a.hasFlag "native" = true ∧ a.value? "class_name" = some (.quoted "a.B"))
      ∧ read [.list nativeA, documentation, .list renamedB] = read [.list (nativeA ++ renamedB)]
      ∧ FirstRefused refusedTwice .invalidFlag := by
  obtain ⟨hrefused, hsaid, -, hforeign, -, hsplit⟩ := read_in_order
  have hfine : ∀ f, ¬ FirstRefused [.list nativeA, documentation, .list renamedB] f := by
    intro f hf
    cases (hrefused _ f).2 hf
  obtain ⟨a, ha, hanswers⟩ := hsaid _ hfine
  have hflag := (hanswers.flags "native").2 (by decide)
  have hvalue := (hanswers.values "class_name" (.quoted "a.B")).2 ⟨nativeA, [], rfl, by simp⟩
  refine ⟨⟨a, ha, hflag, hvalue⟩, ?_, (hrefused refusedTwice _).1 rfl⟩
  -- without the attribute that is not read, two lists are left
  have htwo := hforeign [.list nativeA] documentation [.list renamedB] (by decide)
  exact htwo.trans (hsplit [] nativeA renamedB []).symm

end Attributes
end ClassBridge
