/-
  ClassBridge.Declaration
  ───────────────────────
  **Declaring the Java class of a native type.**

  From one qualified name follow all the names that the Java side asks for:
  the internal name, with slashes for dots, and the type descriptor around
  it.  `declare` checks the qualified name first and then builds the two.
-/
import ClassBridge.QualifiedName
import ClassBridge.Text.Expr

namespace ClassBridge

/-- How a native type appears on the Java side. -/
inductive Kind where
  /-- A composite value, passed by value. -/
  | data
  /-- An object of the native side behind an opaque handle. -/
  | native
  deriving Repr, DecidableEq

/-- A kind in a sentence, whatever width or precision is asked for. -/
def Kind.display : Kind → String
  | .data => "data class"
  | .native => "native class"

/-- A kind by its name, whatever width is asked for. -/
def Kind.name : Kind → String
  | .data => "Data"
  | .native => "Native"

/-- The names of a declared class. -/
structure ClassConstants where
  /-- How values of the type are passed. -/
  kind : Kind
  /-- The dotted name. -/
  qualifiedName : String
  /-- The name with slashes. -/
  className : ZString
  /-- The type descriptor. -/
  signature : ZString
  deriving DecidableEq

namespace Declaration

/-- Why a class cannot be declared. -/
inductive Fault where
  /-- The qualified name is refused. -/
  | name (f : QualifiedName.Fault)
  /-- A text cannot be built from it. -/
  | text (f : TextFault)
  deriving Repr, DecidableEq

/-- The text of a fault. -/
def Fault.message : Fault → String
  | .name f => f.message
  | .text f => f.message

/-- The internal name of a class: its qualified name with slashes for dots. -/
def classNameExpr (qualifiedName : String) : Expr :=
  .replace (.literal qualifiedName) '.' '/'

/-- The descriptor of a class: its internal name between `L` and `;`. -/
def signatureExpr (qualifiedName : String) : Expr :=
  .join [.literal "L", classNameExpr qualifiedName, .literal ";"]

/-- Checks a qualified name. -/
def checkName (qualifiedName : String) : Except Fault Unit :=
  match QualifiedName.check qualifiedName with
  | .ok () => .ok ()
  | .error f => .error (.name f)

/-- Builds one of the texts of a class. -/
def buildText (e : Expr) : Except Fault ZString :=
  match e.build with
  | .ok z => .ok z
  | .error f => .error (.text f)

/-- All names of the class with the given qualified name. -/
def declare (kind : Kind) (qualifiedName : String) : Except Fault ClassConstants := do
  checkName qualifiedName
  let className ← buildText (classNameExpr qualifiedName)
  let signature ← buildText (signatureExpr qualifiedName)
  .ok ⟨kind, qualifiedName, className, signature⟩

end Declaration
end ClassBridge
