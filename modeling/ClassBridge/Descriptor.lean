/-
  ClassBridge.Descriptor
  ──────────────────────
  **Type descriptors and method descriptors.**

  A type is written as one letter, as `L`, a class name and `;`, or as `[`
  and the descriptor of its elements.  A method is written as its parameters
  between parentheses and its return type behind them.

      toChars       writes a descriptor
      read          reads one descriptor from the front of a text
      readMethod    reads a whole method descriptor

  Main statement: `read_toChars` — a descriptor is read back as itself, up to
  where it ends, whatever follows it.
-/
import ClassBridge.Text.Expr

namespace ClassBridge

/-- The type of a field, a parameter or a result. -/
inductive Descriptor where
  /-- No value. -/
  | void
  /-- A truth value. -/
  | boolean
  /-- A signed number of 8 bits. -/
  | byte
  /-- A unit of UTF-16. -/
  | char
  /-- A signed number of 16 bits. -/
  | short
  /-- A signed number of 32 bits. -/
  | int
  /-- A signed number of 64 bits. -/
  | long
  /-- A floating-point number of 32 bits. -/
  | float
  /-- A floating-point number of 64 bits. -/
  | double
  /-- An object of the class with this internal name. -/
  | object (className : List Char)
  /-- An array. -/
  | array (element : Descriptor)
  deriving Repr, DecidableEq

namespace Descriptor

/-! ## §1. Writing and reading. -/

/-- The written form of a descriptor. -/
def toChars : Descriptor → List Char
  | .void => ['V']
  | .boolean => ['Z']
  | .byte => ['B']
  | .char => ['C']
  | .short => ['S']
  | .int => ['I']
  | .long => ['J']
  | .float => ['F']
  | .double => ['D']
  | .object className => 'L' :: className ++ [';']
  | .array element => '[' :: toChars element

/-- A class name up to the next semicolon, and what follows that. -/
def readName : List Char → Option (List Char × List Char)
  | [] => none
  | ';' :: rest => some ([], rest)
  | c :: rest => (readName rest).map fun r => (c :: r.1, r.2)

/-- The descriptor at the front of a text, and what follows it. -/
def read : List Char → Option (Descriptor × List Char)
  | 'V' :: rest => some (.void, rest)
  | 'Z' :: rest => some (.boolean, rest)
  | 'B' :: rest => some (.byte, rest)
  | 'C' :: rest => some (.char, rest)
  | 'S' :: rest => some (.short, rest)
  | 'I' :: rest => some (.int, rest)
  | 'J' :: rest => some (.long, rest)
  | 'F' :: rest => some (.float, rest)
  | 'D' :: rest => some (.double, rest)
  | 'L' :: rest => (readName rest).map fun r => (.object r.1, r.2)
  | '[' :: rest => (read rest).map fun r => (.array r.1, r.2)
  | _ => none

/-- No class name in the descriptor holds the semicolon that would end it. -/
def SemicolonFree : Descriptor → Prop
  | .object className => ';' ∉ className
  | .array element => element.SemicolonFree
  | _ => True

theorem readName_append {name : List Char} (h : ';' ∉ name) (rest : List Char) :
    readName (name ++ ';' :: rest) = some (name, rest) := by
  induction name with
  | nil => rfl
  | cons c name ih =>
    simp only [List.mem_cons, not_or] at h
    rw [List.cons_append, readName, ih h.2]
    · rfl
    · exact fun e => h.1 e.symm

/-- **A written descriptor is read back**, and reading stops where it ends. -/
theorem read_toChars {d : Descriptor} (h : d.SemicolonFree) (rest : List Char) :
    read (d.toChars ++ rest) = some (d, rest) := by
  induction d with
  | object name => simp [toChars, read, readName_append h]
  | array e ih => simp [toChars, read, ih h]
  | _ => rfl

theorem length_of_readName {cs name rest : List Char} (h : readName cs = some (name, rest)) :
    rest.length < cs.length := by
  fun_induction readName cs generalizing name with
  | case1 => cases h
  | case2 r => simp_all
  | case3 c r _ ih =>
    obtain ⟨⟨n, t⟩, hn, he⟩ := Option.map_eq_some_iff.1 h
    simp only [Prod.mk.injEq] at he
    have := ih (he.2 ▸ hn)
    simp only [List.length_cons]
    omega

/-- Reading a descriptor takes something away. -/
theorem length_of_read {cs rest : List Char} {d : Descriptor} (h : read cs = some (d, rest)) :
    rest.length < cs.length := by
  fun_induction read cs generalizing d with
  | case10 r =>
    obtain ⟨⟨n, t⟩, hn, he⟩ := Option.map_eq_some_iff.1 h
    simp only [Prod.mk.injEq] at he
    have := length_of_readName (he.2 ▸ hn)
    simp only [List.length_cons]
    omega
  | case11 r ih =>
    obtain ⟨⟨n, t⟩, hn, he⟩ := Option.map_eq_some_iff.1 h
    simp only [Prod.mk.injEq] at he
    have := ih (he.2 ▸ hn)
    simp only [List.length_cons]
    omega
  | case12 => cases h
  | _ => simp_all

/-- The descriptors up to a closing parenthesis, and what follows that. -/
def readParameters (cs : List Char) : Option (List Descriptor × List Char) :=
  match cs with
  | ')' :: rest => some ([], rest)
  | cs =>
    match h : read cs with
    | none => none
    | some (d, rest) =>
      have := length_of_read h
      (readParameters rest).map fun r => (d :: r.1, r.2)
termination_by cs.length

/-- The parameters and the result of a method descriptor with nothing behind it. -/
def readMethod : List Char → Option (List Descriptor × Descriptor)
  | '(' :: cs =>
    match readParameters cs with
    | none => none
    | some (parameters, rest) =>
      match read rest with
      | some (result, []) => some (parameters, result)
      | _ => none
  | _ => none

end Descriptor

/-! ## §2. Native types with a descriptor of their own. -/

/-- The native types that are known without a declaration. -/
inductive BuiltinType where
  /-- The type with one value. -/
  | unit
  /-- Truth values. -/
  | boolean
  /-- Signed numbers of 8 bits. -/
  | int8
  /-- Units of UTF-16. -/
  | char16
  /-- Signed numbers of 16 bits. -/
  | int16
  /-- Signed numbers of 32 bits. -/
  | int32
  /-- Signed numbers of 64 bits. -/
  | int64
  /-- Floating-point numbers of 32 bits. -/
  | float32
  /-- Floating-point numbers of 64 bits. -/
  | float64
  /-- Texts. -/
  | text
  /-- Byte strings. -/
  | bytes
  deriving Repr, DecidableEq

namespace BuiltinType

/-- The descriptor of a built-in type. -/
def descriptor : BuiltinType → Descriptor
  | .unit => .void
  | .boolean => .boolean
  | .int8 => .byte
  | .char16 => .char
  | .int16 => .short
  | .int32 => .int
  | .int64 => .long
  | .float32 => .float
  | .float64 => .double
  | .text => .object "java/lang/String".toList
  | .bytes => .array .byte

/-- The written descriptor of a built-in type. -/
def signature : BuiltinType → ZString
  | .unit => .constant "V"
  | .boolean => .constant "Z"
  | .int8 => .constant "B"
  | .char16 => .constant "C"
  | .int16 => .constant "S"
  | .int32 => .constant "I"
  | .int64 => .constant "J"
  | .float32 => .constant "F"
  | .float64 => .constant "D"
  | .text => .constant "Ljava/lang/String;"
  | .bytes => .constant "[B"

theorem toList_signature (t : BuiltinType) :
    t.signature.text.toList = t.descriptor.toChars := by
  cases t <;> decide

end BuiltinType

/-! ## §3. Method descriptors from signatures. -/

/-- The expression of a method descriptor: the parameters' signatures between
parentheses, and the result's behind them. -/
def Expr.methodSignature (parameters : List ZString) (result : ZString) : Expr :=
  .join (.literal "(" :: parameters.map .constant ++ [.literal ")", .constant result])

/-- The descriptor of a method; one without a result type returns nothing. -/
def methodSignature (parameters : List ZString) (result : Option ZString) :
    Except TextFault ZString :=
  (Expr.methodSignature parameters (result.getD BuiltinType.unit.signature)).build

end ClassBridge
