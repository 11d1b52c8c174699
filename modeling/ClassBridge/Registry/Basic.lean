/-
  ClassBridge.Registry.Basic
  ──────────────────────────
  **The table of native types and their Java classes.**

  A registry holds mappings in the order they were added, and finds them by
  native type, by qualified name and by internal name.  `add` refuses a type
  that is there already and a class that another type has claimed under
  either name, so each of the three finds at most one mapping.
-/
import ClassBridge.Error
import ClassBridge.Registry.Index

namespace ClassBridge

/-- A native type and the Java class it is mapped to. -/
structure Mapping where
  /-- The native type. -/
  type : NativeType
  /-- The names of its class. -/
  constants : ClassConstants
  deriving DecidableEq

namespace Mapping

/-- How values of the type are passed. -/
def kind (m : Mapping) : Kind := m.constants.kind

/-- The dotted name of the class. -/
def qualifiedName (m : Mapping) : String := m.constants.qualifiedName

/-- The internal name of the class. -/
def className (m : Mapping) : ZString := m.constants.className

/-- The type descriptor of the class. -/
def signature (m : Mapping) : ZString := m.constants.signature

end Mapping

/-- Mappings in the order they were added, and where each is found. -/
structure Registry where
  /-- The mappings. -/
  mappings : List Mapping := []
  /-- Positions by native type. -/
  byType : Index TypeId := {}
  /-- Positions by dotted name. -/
  byQualifiedName : Index String := {}
  /-- Positions by internal name. -/
  byClassName : Index String := {}

namespace Registry

/-! ## §1. Building. -/

/-- The registry without mappings. -/
def empty : Registry := {}

/-- The number of mappings. -/
def size (r : Registry) : Nat := r.mappings.length

/-- Whether there are no mappings. -/
def isEmpty (r : Registry) : Bool := r.mappings.isEmpty

/-- The mapping that already has the class of `m`: by qualified name, or if
there is none by internal name. -/
def claimant? (r : Registry) (m : Mapping) : Option Mapping :=
  let position :=
    (r.byQualifiedName.get? m.qualifiedName).or (r.byClassName.get? m.className.text)
  position.bind fun i => r.mappings[i]?

/-- The registry with `m` behind the other mappings. -/
def push (r : Registry) (m : Mapping) : Registry where
  mappings := r.mappings ++ [m]
  byType := r.byType.insert m.type.id r.size
  byQualifiedName := r.byQualifiedName.insert m.qualifiedName r.size
  byClassName := r.byClassName.insert m.className.text r.size

/-- Adds a mapping, unless its type or its class is taken. -/
def add (r : Registry) (m : Mapping) : Except Error Registry :=
  if r.byType.contains m.type.id then .error (.duplicateType m.type)
  else
    match r.claimant? m with
    | some other => .error (.duplicateClassName m.qualifiedName other.type.name m.type.name)
    | none => .ok (r.push m)

/-- Adds mappings in order up to the first refusal: the registry reached, and
what stopped it. -/
def addAll (r : Registry) : List Mapping → Registry × Option Error
  | [] => (r, none)
  | m :: rest =>
    match r.add m with
    | .ok r' => r'.addAll rest
    | .error e => (r, some e)

/-- The registry of the given mappings, or the first refusal. -/
def build (ms : List Mapping) : Except Error Registry :=
  match empty.addAll ms with
  | (r, none) => .ok r
  | (_, some e) => .error e

/-- The mappings that are accepted before building ends. -/
def accepted (ms : List Mapping) : List Mapping :=
  (empty.addAll ms).1.mappings

/-! ## §2. Looking up. -/

/-- The mapping of a native type. -/
def get? (r : Registry) (type : NativeType) : Option Mapping :=
  (r.byType.get? type.id).bind fun i => r.mappings[i]?

/-- The mapping of a native type, which must be there. -/
def lookup (r : Registry) (type : NativeType) : Except Error Mapping :=
  match r.get? type with
  | some m => .ok m
  | none => .error (.unregisteredType type.name)

/-- Whether a native type is mapped. -/
def contains (r : Registry) (type : NativeType) : Bool :=
  r.byType.contains type.id

/-- The mapping with a dotted name. -/
def findQualifiedName? (r : Registry) (name : String) : Option Mapping :=
  (r.byQualifiedName.get? name).bind fun i => r.mappings[i]?

/-- The mapping with an internal name. -/
def findClassName? (r : Registry) (name : String) : Option Mapping :=
  (r.byClassName.get? name).bind fun i => r.mappings[i]?

@[simp] theorem mappings_push (r : Registry) (m : Mapping) :
    (r.push m).mappings = r.mappings ++ [m] := rfl

theorem addAll_cons_ok {r r' : Registry} {m : Mapping} (h : r.add m = .ok r')
    (rest : List Mapping) : r.addAll (m :: rest) = r'.addAll rest := by
  simp [addAll, h]

theorem addAll_cons_error {r : Registry} {m : Mapping} {e : Error} (h : r.add m = .error e)
    (rest : List Mapping) : r.addAll (m :: rest) = (r, some e) := by
  simp [addAll, h]

end Registry
end ClassBridge
