/-
  ClassBridge.Proofs.Derive.Deriving
  ──────────────────────────────────
  **Deriving declares the class that the attributes name.**

  Once a type has been read, how deriving ends depends on its attributes alone:

      faulty     the attributes cannot be read
      unnamed    they can, but none of them gives the class a name
      expanded   the last name that they give is expanded

  `derive_outcome` says exactly when each of them happens.  An expansion and a
  declaration are two ways to write the same class: what is generated evaluates
  to the constants that are declared under this name (`constants_expansion`).
-/
import ClassBridge.Derive.Expansion
import ClassBridge.Proofs.Attribute.Reading

namespace ClassBridge.Derive

/-! ## §1. Expansions are declarations. -/

/-- The generated expression of the internal name is the declared one. -/
theorem toExpr_className (t : TextLiteral) :
    (SourceExpr.className t).toExpr = Declaration.classNameExpr t.value := by
  simp [SourceExpr.className, SourceExpr.toExpr, Declaration.classNameExpr]

/-- The generated expression of the descriptor is the declared one. -/
theorem toExpr_signature (t : TextLiteral) :
    (SourceExpr.signature t).toExpr = Declaration.signatureExpr t.value := by
  simp [SourceExpr.signature, SourceExpr.toExpr, SourceExpr.toExprs, toExpr_className,
    Declaration.signatureExpr, TextLiteral.quoted]

/-- **What is generated evaluates to what is declared**: the same constants, or
the same first fault, whatever the name holds. -/
theorem constants_expansion (kind : Kind) (n : TextLiteral) (typeName : String)
    (generics : Generics) :
    (expansion kind n typeName generics).constants = Declaration.declare kind n.value := by
  unfold Expansion.constants Declaration.declare
  rw [← toExpr_className n, ← toExpr_signature n]
  rfl

/-- Whatever is derived evaluates to what is declared under some name. -/
theorem constants_of_derive {item : Item} {e : Expansion} (h : derive item = .ok e) :
    ∃ q, e.constants = Declaration.declare e.kind q := by
  unfold derive at h
  split at h
  · cases h
  · split at h
    · cases h
    · next n _ =>
      obtain rfl := Except.ok.inj h
      exact ⟨n.value, constants_expansion _ _ _ _⟩

theorem kindOf_eq_native_iff {a : Attributes} : kindOf a = .native ↔ a.hasFlag "native" = true := by
  unfold kindOf
  by_cases hf : a.hasFlag "native" = true
  · simp [hf]
  · simp [hf]

/-! ## §2. What is derived. -/

/-- The parameters that the attributes of an item hold. -/
def params (item : Item) : List Param := Attributes.given item.attributes

section

variable {item : Item}

theorem derive_of_fault {f : Attribute.Fault}
    (h : Attributes.firstFault? item.attributes = some f) :
    derive item = .error (.unreadable f) := by
  unfold derive
  rw [Attributes.read_eq, h]
  rfl

/-- Attributes without a fault leave only the name of the class to be asked
for. -/
theorem derive_of_fine (h : Attributes.firstFault? item.attributes = none) :
    derive item
      = (Attributes.texts "class_name" (params item)).getLast?.elim (.error .missingClassName)
          fun n => .ok (expansion (kindOf (Attributes.noted {} (params item))) n item.name
            item.generics) := by
  rw [← Attributes.value?_noted]
  unfold derive params
  rw [Attributes.read_eq, h]
  dsimp only [Option.elim]
  cases (Attributes.noted {} (Attributes.given item.attributes)).value? "class_name" <;> rfl

theorem derive_of_unnamed (h : Attributes.firstFault? item.attributes = none)
    (hn : (Attributes.texts "class_name" (params item)).getLast? = none) :
    derive item = .error .missingClassName := by
  rw [derive_of_fine h, hn]
  rfl

theorem derive_of_named {n : TextLiteral} (h : Attributes.firstFault? item.attributes = none)
    (hn : (Attributes.texts "class_name" (params item)).getLast? = some n) :
    derive item
      = .ok (expansion (kindOf (Attributes.noted {} (params item))) n item.name item.generics) := by
  rw [derive_of_fine h, hn]
  rfl

end

/-! ## §3. The three outcomes. -/

/-- An expansion of the name `n` for a type. -/
structure Expands (item : Item) (n : TextLiteral) (e : Expansion) : Prop where
  /-- The name is checked. -/
  checked : e.checked = n
  /-- It is the qualified name. -/
  qualifiedName : e.qualifiedName = n
  /-- The internal name is made from it. -/
  className : e.className = .className n
  /-- The internal name in the descriptor is made from it, too. -/
  signature : e.signature = .join [.literal (.quoted "L"), .className n, .literal (.quoted ";")]
  /-- A type is native exactly if an attribute has the flag for that, as a plain
  word; a text of this name does not count. -/
  kind : e.kind = .native ↔ .flag ⟨false, ["native"]⟩ ∈ params item
  /-- The names are implemented for the type with its parameters and the
  conditions on them. -/
  classHead : e.classHead = ⟨item.name, item.generics⟩
  /-- And so is the descriptor. -/
  signatureHead : e.signatureHead = ⟨item.name, item.generics⟩
  /-- Evaluated, it gives what a declaration under the name gives. -/
  constants : e.constants = Declaration.declare e.kind n.value

/-- The three ways in which the attributes of an item decide what is derived. -/
inductive Outcome (item : Item) : Except Fault Expansion → Prop where
  /-- The first fault of the attributes in reading order. -/
  | faulty {f : Attribute.Fault} (fault : Attributes.firstFault? item.attributes = some f) :
      Outcome item (.error (.unreadable f))
  /-- No fault, but no text for the name of the class. -/
  | unnamed (fine : Attributes.firstFault? item.attributes = none)
      (nowhere : ∀ t, .value ⟨false, ["class_name"]⟩ (some t) ∉ params item) :
      Outcome item (.error .missingClassName)
  /-- An expansion of the last text for it. -/
  | expanded {n : TextLiteral} {e : Expansion}
      (fine : Attributes.firstFault? item.attributes = none)
      (last : (Attributes.texts "class_name" (params item)).getLast? = some n)
      (expands : Expands item n e) : Outcome item (.ok e)

theorem expands_expansion (item : Item) (n : TextLiteral) :
    Expands item n
      (expansion (kindOf (Attributes.noted {} (params item))) n item.name item.generics) where
  checked := rfl
  qualifiedName := rfl
  className := rfl
  signature := rfl
  kind := by
    show kindOf (Attributes.noted {} (params item)) = .native ↔ _
    rw [kindOf_eq_native_iff, Attributes.hasFlag_noted]
  classHead := rfl
  signatureHead := rfl
  constants := constants_expansion _ _ _ _

/-- There is only one expansion of a name for a type. -/
theorem Expands.unique {item : Item} {n : TextLiteral} {e e' : Expansion}
    (h : Expands item n e) (h' : Expands item n e') : e = e' := by
  -- the two kinds are native for the same types, and there is one other kind
  have hkind : e.kind = e'.kind := by
    have hiff : e.kind = .native ↔ e'.kind = .native := h.kind.trans h'.kind.symm
    revert hiff
    cases e.kind <;> cases e'.kind <;> simp
  obtain ⟨checked, classHead, kind, qualifiedName, className, signatureHead, signature⟩ := e
  obtain rfl : kind = e'.kind := hkind
  obtain rfl : checked = e'.checked := h.checked.trans h'.checked.symm
  obtain rfl : classHead = e'.classHead := h.classHead.trans h'.classHead.symm
  obtain rfl : qualifiedName = e'.qualifiedName := h.qualifiedName.trans h'.qualifiedName.symm
  obtain rfl : className = e'.className := h.className.trans h'.className.symm
  obtain rfl : signatureHead = e'.signatureHead := h.signatureHead.trans h'.signatureHead.symm
  obtain rfl : signature = e'.signature := h.signature.trans h'.signature.symm
  rfl

/-- Each of the three ways leaves one result. -/
theorem Outcome.derive_eq {item : Item} {r : Except Fault Expansion} (h : Outcome item r) :
    derive item = r := by
  cases h with
  | faulty fault => exact derive_of_fault fault
  | unnamed fine nowhere =>
    exact derive_of_unnamed fine (Attributes.getLast?_texts_eq_none_iff.2 nowhere)
  | expanded fine last expands =>
    rw [derive_of_named fine last, (expands_expansion item _).unique expands]

/-- And deriving always ends in one of them. -/
theorem outcome_derive (item : Item) : Outcome item (derive item) := by
  cases hf : Attributes.firstFault? item.attributes with
  | some f =>
    rw [derive_of_fault hf]
    exact .faulty hf
  | none =>
    cases hn : (Attributes.texts "class_name" (params item)).getLast? with
    | none =>
      rw [derive_of_unnamed hf hn]
      exact .unnamed hf (Attributes.getLast?_texts_eq_none_iff.1 hn)
    | some n =>
      rw [derive_of_named hf hn]
      exact .expanded hf hn (expands_expansion item n)

/-- A type that is named twice, in attributes with one of another kind between
them, and is native by a flag in the first. -/
def renamedTwice : Item where
  attributes := [.list [.value ⟨false, ["class_name"]⟩ (some (.quoted "a.A")),
      .flag ⟨false, ["native"]⟩],
    ⟨⟨false, ["doc"]⟩, .error .notList⟩,
    .list [.value ⟨false, ["class_name"]⟩ (some (.quoted "a.B"))]]
  name := "Renamed"
  generics := {}

/-- **What is generated is derived from the type that was read**, or is what the
parser has to say. -/
theorem generate_eq_ok_iff {p : Parse} {tokens : List Token} :
    generate p = .ok tokens
      ↔ (∃ item e, p = .item item ∧ Outcome item (.ok e) ∧ e.tokens = tokens)
        ∨ p = .rejected tokens := by
  constructor
  · intro h
    cases p with
    | item i =>
      have houtcome := outcome_derive i
      rw [generate] at h
      cases hderive : derive i with
      | ok e =>
        rw [hderive] at h houtcome
        exact .inl ⟨i, e, rfl, houtcome, Except.ok.inj h⟩
      | error f =>
        rw [hderive] at h
        cases h
    | rejected report => exact .inr (congrArg Parse.rejected (Except.ok.inj h))
    | stopped message => cases h
  · intro h
    rcases h with ⟨i, e, rfl, houtcome, rfl⟩ | rfl
    · rw [generate, houtcome.derive_eq]
      rfl
    · rfl

end ClassBridge.Derive
