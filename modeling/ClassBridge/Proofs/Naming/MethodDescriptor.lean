/-
  ClassBridge.Proofs.Naming.MethodDescriptor
  ──────────────────────────────────────────
  **Method descriptors are read in one way only.**

  Nothing separates the parameters of a method descriptor from each other, and
  the name of a class may hold parentheses, brackets and letters that stand for
  types.  Reading still never goes astray: a descriptor ends where reading it
  stops, and none of them starts with the parenthesis that ends the list.

      read_eq_some_iff             one descriptor
      readParameters_eq_some_iff   the parameters up to the parenthesis
      readMethod_eq_some_iff       a whole method descriptor

  Each says that reading is the inverse of writing, with names free of
  semicolons.  `methodSignature_readable` says what that means for the texts
  that are built from the signatures of types.
-/
import ClassBridge.Descriptor
import ClassBridge.Proofs.Text.Evaluation

namespace ClassBridge

namespace Descriptor

/-! ## §1. Reading inverts writing. -/

/-- A class name is read up to the first semicolon. -/
theorem readName_eq_some_iff {cs name rest : List Char} :
    readName cs = some (name, rest) ↔ cs = name ++ ';' :: rest ∧ ';' ∉ name := by
  constructor
  · intro h
    fun_induction readName cs generalizing name with
    | case1 => cases h
    | case2 r =>
      obtain ⟨rfl, rfl⟩ := Prod.mk.inj (Option.some.inj h)
      exact ⟨rfl, List.not_mem_nil⟩
    | case3 c r hc ih =>
      obtain ⟨⟨n, t⟩, hn, he⟩ := Option.map_eq_some_iff.1 h
      obtain ⟨rfl, rfl⟩ := Prod.mk.inj he
      obtain ⟨rfl, hfree⟩ := ih hn
      refine ⟨rfl, ?_⟩
      -- the character in front is no semicolon, or reading had stopped there
      simp only [List.mem_cons, not_or]
      exact ⟨fun e => hc e.symm, hfree⟩
  · rintro ⟨rfl, hfree⟩
    exact readName_append hfree rest

/-- What is read off the front of a text is written there. -/
theorem eq_toChars_of_read {cs rest : List Char} {d : Descriptor} (h : read cs = some (d, rest)) :
    cs = d.toChars ++ rest ∧ d.SemicolonFree := by
  fun_induction read cs generalizing d with
  | case10 r =>
    obtain ⟨⟨n, t⟩, hn, he⟩ := Option.map_eq_some_iff.1 h
    obtain ⟨rfl, rfl⟩ := Prod.mk.inj he
    obtain ⟨rfl, hfree⟩ := readName_eq_some_iff.1 hn
    exact ⟨by simp [toChars], hfree⟩
  | case11 r ih =>
    obtain ⟨⟨e, t⟩, hn, he⟩ := Option.map_eq_some_iff.1 h
    obtain ⟨rfl, rfl⟩ := Prod.mk.inj he
    obtain ⟨rfl, hfree⟩ := ih hn
    exact ⟨rfl, hfree⟩
  | case12 => cases h
  | _ =>
    obtain ⟨rfl, rfl⟩ := Prod.mk.inj (Option.some.inj h)
    exact ⟨rfl, trivial⟩

/-- **Reading one descriptor is the inverse of writing it**, whatever comes
behind. -/
theorem read_eq_some_iff {cs rest : List Char} {d : Descriptor} :
    read cs = some (d, rest) ↔ cs = d.toChars ++ rest ∧ d.SemicolonFree := by
  constructor
  · exact eq_toChars_of_read
  · rintro ⟨rfl, hfree⟩
    exact read_toChars hfree rest

/-- No descriptor starts with the parenthesis that ends the parameters. -/
theorem toChars_append_ne (d : Descriptor) (cs rest : List Char) :
    d.toChars ++ cs ≠ ')' :: rest := by
  intro h
  cases d <;> simp [toChars] at h

theorem readParameters_nil (rest : List Char) :
    readParameters (')' :: rest) = some ([], rest) := by
  rw [readParameters]

theorem readParameters_cons {d : Descriptor} (hd : d.SemicolonFree) (cs : List Char) :
    readParameters (d.toChars ++ cs)
      = (readParameters cs).map fun r => (d :: r.1, r.2) := by
  rw [readParameters]
  · split
    · next hread =>
      rw [read_toChars hd cs] at hread
      cases hread
    · next d' rest hread =>
      rw [read_toChars hd cs] at hread
      obtain ⟨rfl, rfl⟩ := Prod.mk.inj (Option.some.inj hread)
      rfl
  · exact fun rest => toChars_append_ne d cs rest

/-- Written parameters are read back, up to the parenthesis behind them. -/
theorem readParameters_flatMap {ds : List Descriptor} (h : ∀ d ∈ ds, d.SemicolonFree)
    (rest : List Char) :
    readParameters (ds.flatMap toChars ++ ')' :: rest) = some (ds, rest) := by
  induction ds with
  | nil => exact readParameters_nil rest
  | cons d ds ih =>
    have hd : d.SemicolonFree := h d List.mem_cons_self
    have hds : ∀ e ∈ ds, e.SemicolonFree := fun e he => h e (List.mem_cons_of_mem d he)
    rw [List.flatMap_cons, List.append_assoc, readParameters_cons hd, ih hds]
    rfl

theorem readParameters_eq_some_iff {cs rest : List Char} {ds : List Descriptor} :
    readParameters cs = some (ds, rest)
      ↔ cs = ds.flatMap toChars ++ ')' :: rest ∧ ∀ d ∈ ds, d.SemicolonFree := by
  constructor
  · intro h
    -- on the number of descriptors that were read
    induction ds generalizing cs with
    | nil =>
      rw [readParameters.eq_def] at h
      split at h
      · obtain ⟨_, rfl⟩ := Prod.mk.inj (Option.some.inj h)
        exact ⟨rfl, by simp⟩
      · split at h
        · cases h
        · obtain ⟨r, _, he⟩ := Option.map_eq_some_iff.1 h
          cases (Prod.mk.inj he).1
    | cons d ds ih =>
      rw [readParameters.eq_def] at h
      split at h
      · cases (Prod.mk.inj (Option.some.inj h)).1
      · split at h
        · cases h
        · next d' tail hread =>
          obtain ⟨⟨es, t⟩, htail, he⟩ := Option.map_eq_some_iff.1 h
          obtain ⟨hds, rfl⟩ := Prod.mk.inj he
          obtain ⟨rfl, rfl⟩ := List.cons.inj hds
          obtain ⟨rfl, hd⟩ := eq_toChars_of_read hread
          obtain ⟨rfl, hfree⟩ := ih htail
          refine ⟨by rw [List.flatMap_cons, List.append_assoc], ?_⟩
          rintro e (_ | ⟨_, he⟩)
          · exact hd
          · exact hfree e he
  · rintro ⟨rfl, hfree⟩
    exact readParameters_flatMap hfree rest

/-- The written form of a method descriptor. -/
def methodChars (parameters : List Descriptor) (result : Descriptor) : List Char :=
  '(' :: (parameters.flatMap toChars ++ ')' :: result.toChars)

/-- **Reading a method descriptor is the inverse of writing it.** -/
theorem readMethod_eq_some_iff {cs : List Char} {ds : List Descriptor} {d : Descriptor} :
    readMethod cs = some (ds, d)
      ↔ cs = methodChars ds d ∧ (∀ e ∈ ds, e.SemicolonFree) ∧ d.SemicolonFree := by
  constructor
  · intro h
    unfold readMethod at h
    split at h
    · next cs =>
      split at h
      · cases h
      · next parameters rest hps =>
        split at h
        · next result hread =>
          obtain ⟨rfl, rfl⟩ := Prod.mk.inj (Option.some.inj h)
          obtain ⟨rfl, hds⟩ := readParameters_eq_some_iff.1 hps
          obtain ⟨rfl, hd⟩ := read_eq_some_iff.1 hread
          rw [List.append_nil]
          exact ⟨rfl, hds, hd⟩
        · cases h
    · cases h
  · rintro ⟨rfl, hds, hd⟩
    have hread : read d.toChars = some (d, []) :=
      read_eq_some_iff.2 ⟨(List.append_nil _).symm, hd⟩
    simp only [readMethod, methodChars]
    rw [readParameters_flatMap hds]
    simp only [hread]

theorem readMethod_methodChars {ds : List Descriptor} {d : Descriptor}
    (hds : ∀ e ∈ ds, e.SemicolonFree) (hd : d.SemicolonFree) :
    readMethod (methodChars ds d) = some (ds, d) :=
  readMethod_eq_some_iff.2 ⟨rfl, hds, hd⟩

end Descriptor

/-! ## §2. Signatures of types. -/

/-- What the signature of a type can be: that of a built-in type, or a class
name between `L` and a semicolon.  The name is any text without semicolons. -/
inductive TypeSignature : ZString → Prop where
  /-- A built-in type. -/
  | builtin (t : BuiltinType) : TypeSignature t.signature
  /-- A class. -/
  | object {z : ZString} (name : List Char) (free : ';' ∉ name)
      (chars : z.text.toList = 'L' :: name ++ [';']) : TypeSignature z

theorem BuiltinType.semicolonFree_descriptor (t : BuiltinType) : t.descriptor.SemicolonFree := by
  cases t <;> simp [descriptor, Descriptor.SemicolonFree]

/-- A signature writes one descriptor. -/
theorem TypeSignature.exists_descriptor {z : ZString} (h : TypeSignature z) :
    ∃ d : Descriptor, d.toChars = z.text.toList ∧ d.SemicolonFree := by
  cases h with
  | builtin t => exact ⟨t.descriptor, t.toList_signature.symm, t.semicolonFree_descriptor⟩
  | object name free chars => exact ⟨.object name, chars.symm, free⟩

theorem exists_descriptors {zs : List ZString} (h : ∀ z ∈ zs, TypeSignature z) :
    ∃ ds : List Descriptor, ds.map Descriptor.toChars = zs.map (·.text.toList)
      ∧ ∀ d ∈ ds, d.SemicolonFree := by
  induction zs with
  | nil => exact ⟨[], rfl, by simp⟩
  | cons z zs ih =>
    obtain ⟨d, hchars, hd⟩ := (h z List.mem_cons_self).exists_descriptor
    obtain ⟨ds, hmap, hds⟩ := ih fun y hy => h y (List.mem_cons_of_mem z hy)
    refine ⟨d :: ds, ?_, ?_⟩
    · rw [List.map_cons, List.map_cons, hchars, hmap]
    · rintro e (_ | ⟨_, he⟩)
      · exact hd
      · exact hds e he

/-- The signature of what a method returns; without a result type that is the
type with one value. -/
def resultSignature (result : Option ZString) : ZString :=
  result.getD BuiltinType.unit.signature

theorem TypeSignature.resultSignature {result : Option ZString}
    (h : ∀ z ∈ result, TypeSignature z) : TypeSignature (resultSignature result) := by
  cases result with
  | none => exact .builtin .unit
  | some z => exact h z rfl

/-! ## §3. What is built. -/

theorem Expr.denoteParts_constants (zs : List ZString) (rest : List Expr) :
    denoteParts (zs.map .constant ++ rest)
      = (denoteParts rest).map (zs.map (·.text.toList) ++ ·) := by
  induction zs with
  | nil =>
    show denoteParts rest = _
    cases denoteParts rest <;> rfl
  | cons z zs ih =>
    show denoteParts (.constant z :: (zs.map .constant ++ rest)) = _
    rw [denoteParts, ih]
    cases denoteParts rest <;> rfl

/-- Signatures hold no NUL, so a method signature can always be built, and it
is the signatures between and behind the parentheses. -/
theorem methodSignature_eq_ok (parameters : List ZString) (result : Option ZString) :
    ∃ z, methodSignature parameters result = .ok z
      ∧ z.text.toList = '(' :: ((parameters.map (·.text.toList)).flatten
          ++ ')' :: (resultSignature result).text.toList) := by
  let chars := '(' :: ((parameters.map (·.text.toList)).flatten
    ++ ')' :: (resultSignature result).text.toList)
  have hparts : Expr.denoteParts (.literal "(" :: parameters.map .constant
        ++ [.literal ")", .constant (resultSignature result)])
      = .ok (['('] :: (parameters.map (·.text.toList)
          ++ [[')'], (resultSignature result).text.toList])) := by
    rw [List.cons_append, Expr.denoteParts, Expr.denoteParts_constants]
    rfl
  have hnul : Char.ofNat 0 ∉ chars := by
    intro hmem
    simp only [chars, List.mem_cons, List.mem_append, List.mem_flatten, List.mem_map] at hmem
    rcases hmem with h | ⟨_, ⟨z, _, rfl⟩, hz⟩ | h | h
    · exact absurd h (by decide)
    · exact z.nul_notMem hz
    · exact absurd h (by decide)
    · exact (resultSignature result).nul_notMem h
  have hdenote : (Expr.methodSignature parameters (resultSignature result)).denote = .ok chars := by
    rw [Expr.methodSignature, Expr.denote, hparts]
    show Expr.nulFree _ = _
    rw [Expr.nulFree_eq_ok_iff]
    simp only [List.flatten_cons, List.flatten_append, List.flatten_nil, List.append_nil]
    exact ⟨hnul, rfl⟩
  exact Expr.exists_build hdenote hnul

/-- Built from signatures of types, it is a written method descriptor. -/
theorem methodSignature_eq_methodChars {parameters : List ZString} {result : Option ZString}
    (hp : ∀ p ∈ parameters, TypeSignature p) (hr : ∀ r ∈ result, TypeSignature r) :
    ∃ z ds d, methodSignature parameters result = .ok z
      ∧ z.text.toList = Descriptor.methodChars ds d
      ∧ ds.map Descriptor.toChars = parameters.map (·.text.toList)
      ∧ d.toChars = (resultSignature result).text.toList
      ∧ (∀ e ∈ ds, e.SemicolonFree) ∧ d.SemicolonFree := by
  obtain ⟨z, hz, hchars⟩ := methodSignature_eq_ok parameters result
  obtain ⟨ds, hmap, hds⟩ := exists_descriptors hp
  obtain ⟨d, hd, hfree⟩ := (TypeSignature.resultSignature hr).exists_descriptor
  refine ⟨z, ds, d, hz, ?_, hmap, hd, hds, hfree⟩
  rw [hchars, Descriptor.methodChars, List.flatMap_def, hmap, hd]

theorem eq_of_map_toList {zs zs' : List ZString}
    (h : zs.map (·.text.toList) = zs'.map (·.text.toList)) : zs = zs' := by
  refine (List.map_inj_right ?_).1 h
  intro x y hxy
  exact ZString.ext_text (String.toList_inj.1 hxy)

/-- Method signatures tell their parameters and their results apart. -/
theorem methodSignature_inj {ps ps' : List ZString} {r r' : Option ZString}
    (hp : ∀ p ∈ ps, TypeSignature p) (hr : ∀ z ∈ r, TypeSignature z)
    (hp' : ∀ p ∈ ps', TypeSignature p) (hr' : ∀ z ∈ r', TypeSignature z)
    (h : methodSignature ps r = methodSignature ps' r') :
    ps = ps' ∧ resultSignature r = resultSignature r' := by
  obtain ⟨z, ds, d, hz, hchars, hds, hd, hfree, hfree₁⟩ := methodSignature_eq_methodChars hp hr
  obtain ⟨z', ds', d', hz', hchars', hds', hd', hfree', hfree₁'⟩ :=
    methodSignature_eq_methodChars hp' hr'
  obtain rfl : z = z' := Except.ok.inj (hz.symm.trans (h.trans hz'))
  -- one text, read in two ways
  have hread := Descriptor.readMethod_methodChars hfree hfree₁
  rw [← hchars, hchars', Descriptor.readMethod_methodChars hfree' hfree₁'] at hread
  obtain ⟨rfl, rfl⟩ := Prod.mk.inj (Option.some.inj hread)
  refine ⟨eq_of_map_toList (hds.symm.trans hds'), ?_⟩
  exact ZString.ext_text (String.toList_inj.1 (hd.symm.trans hd'))

/-- **A method signature is read back uniquely.**  From signatures of types a
method signature is always built.  Reading it gives the signatures of the
parameters in order and then that of the result, with nothing left over, and no
other descriptors are written the same.  So two method signatures are equal
exactly if their parameters have the same signatures in the same order and
their results have the same signature. -/
theorem methodSignature_readable {parameters : List ZString} {result : Option ZString}
    (hp : ∀ p ∈ parameters, TypeSignature p) (hr : ∀ r ∈ result, TypeSignature r) :
    (∃ z ds d, methodSignature parameters result = .ok z
      ∧ Descriptor.readMethod z.text.toList = some (ds, d)
      ∧ ds.map Descriptor.toChars = parameters.map (·.text.toList)
      ∧ d.toChars = (resultSignature result).text.toList
      ∧ ∀ es e, (∀ x ∈ es, x.SemicolonFree) → e.SemicolonFree →
          z.text.toList = Descriptor.methodChars es e → es = ds ∧ e = d)
    ∧ ∀ (parameters' : List ZString) (result' : Option ZString),
        (∀ p ∈ parameters', TypeSignature p) → (∀ r ∈ result', TypeSignature r) →
        (methodSignature parameters result = methodSignature parameters' result'
          ↔ parameters = parameters' ∧ resultSignature result = resultSignature result') := by
  constructor
  · obtain ⟨z, ds, d, hz, hchars, hmap, hd, hds, hfree⟩ := methodSignature_eq_methodChars hp hr
    have hread : Descriptor.readMethod z.text.toList = some (ds, d) :=
      Descriptor.readMethod_eq_some_iff.2 ⟨hchars, hds, hfree⟩
    refine ⟨z, ds, d, hz, hread, hmap, hd, ?_⟩
    intro es e hes he heq
    rw [heq, Descriptor.readMethod_methodChars hes he] at hread
    exact Prod.mk.inj (Option.some.inj hread)
  · intro parameters' result' hp' hr'
    constructor
    · exact methodSignature_inj hp hr hp' hr'
    · rintro ⟨rfl, hresult⟩
      show (Expr.methodSignature _ (resultSignature result)).build = _
      rw [hresult]
      rfl

/-- A class whose name looks like a method descriptor. -/
def misleadingSignature : ZString := .constant "L(I[L)V/a;"

theorem typeSignature_misleading : TypeSignature misleadingSignature :=
  .object "(I[L)V/a".toList (by decide) (by decide)

/-- A method that takes such an object and a number is still read as a method
with two parameters, and told from one that takes them the other way round. -/
theorem misleading_readable :
    (∃ z ds d, methodSignature [misleadingSignature, BuiltinType.int32.signature] none = .ok z
      ∧ Descriptor.readMethod z.text.toList = some (ds, d)
      ∧ ds.map Descriptor.toChars = ["L(I[L)V/a;".toList, "I".toList]
      ∧ d.toChars = "V".toList)
    ∧ methodSignature [misleadingSignature, BuiltinType.int32.signature] none
      ≠ methodSignature [BuiltinType.int32.signature, misleadingSignature] none := by
  have hp : ∀ p ∈ [misleadingSignature, BuiltinType.int32.signature], TypeSignature p := by
    rintro p (_ | ⟨_, _ | ⟨_, h⟩⟩)
    · exact typeSignature_misleading
    · exact .builtin .int32
    · cases h
  have hp' : ∀ p ∈ [BuiltinType.int32.signature, misleadingSignature], TypeSignature p := by
    rintro p (_ | ⟨_, _ | ⟨_, h⟩⟩)
    · exact .builtin .int32
    · exact typeSignature_misleading
    · cases h
  have hr : ∀ r ∈ (none : Option ZString), TypeSignature r := by
    rintro r ⟨⟩
  obtain ⟨⟨z, ds, d, hz, hread, hmap, hd, _⟩, heq⟩ := methodSignature_readable hp hr
  refine ⟨⟨z, ds, d, hz, hread, hmap, hd⟩, ?_⟩
  rw [Ne, heq _ none hp' hr]
  decide

end ClassBridge
