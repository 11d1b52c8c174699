/-
  ClassBridge.Derive.Expansion
  ────────────────────────────
  **Declaring a class by attributes on its type.**

  From a type with attributes come a check of the qualified name and two
  implementations, one with the names of the class and one with its
  descriptor.  An expansion can be written as program text, and its constants
  can be evaluated; both look at the same parts of it.

  Deriving starts from the type that a parser of program text has read.  Which
  parser that is does not matter: all that it may come to is a `Parse`.
-/
import ClassBridge.Attribute.Basic
import ClassBridge.Declaration
import ClassBridge.Derive.Generics

namespace ClassBridge

/-! ## §1. Generated expressions. -/

/-- An expression over texts, as program text has it. -/
inductive SourceExpr where
  /-- A string literal. -/
  | literal (t : TextLiteral)
  /-- A replacement of one character by another. -/
  | replace (operand : SourceExpr) (old new : Char)
  /-- A concatenation. -/
  | join (operands : List SourceExpr)

namespace SourceExpr

mutual

/-- What the expression evaluates. -/
def toExpr : SourceExpr → Expr
  | .literal t => .literal t.value
  | .replace operand old new => .replace (toExpr operand) old new
  | .join operands => .join (toExprs operands)

/-- What each of some expressions evaluates. -/
def toExprs : List SourceExpr → List Expr
  | [] => []
  | e :: rest => toExpr e :: toExprs rest

end

/-- A visible character as a literal. -/
def charLiteral (c : Char) : Token := .literal (.other (String.ofList ['\'', c, '\'']))

/-- A name of the library. -/
def libraryPath (name : String) : List Token :=
  [.word "jbind"] ++ Token.mark [':', ':'] ++ [.word name]

/-- A call of one of the builders of texts. -/
def invocation (name : String) (arguments : List (List Token)) : List Token :=
  libraryPath name ++ [.punct '!' false, .group .parenthesis (Token.separated arguments)]

mutual

/-- The expression as program text. -/
def tokens : SourceExpr → List Token
  | .literal t => [.literal (.text t)]
  | .replace operand old new =>
    invocation "replace" [tokens operand, [charLiteral old], [charLiteral new]]
  | .join operands => invocation "join" (tokensOfAll operands)

/-- Each of some expressions as program text. -/
def tokensOfAll : List SourceExpr → List (List Token)
  | [] => []
  | e :: rest => tokens e :: tokensOfAll rest

end

/-- The internal name of a class whose qualified name is a literal. -/
def className (t : TextLiteral) : SourceExpr := .replace (.literal t) '.' '/'

/-- The descriptor of a class whose qualified name is a literal. -/
def signature (t : TextLiteral) : SourceExpr :=
  .join [.literal (.quoted "L"), className t, .literal (.quoted ";")]

end SourceExpr

/-! ## §2. Expansions. -/

/-- What an implementation is for: a type with its parameters and conditions. -/
structure ImplHead where
  typeName : String
  generics : Generics

/-- What is generated for a type. -/
structure Expansion where
  /-- The argument of the check of the qualified name. -/
  checked : TextLiteral
  /-- The head of the implementation with the names. -/
  classHead : ImplHead
  /-- How values are passed. -/
  kind : Kind
  /-- The qualified name. -/
  qualifiedName : TextLiteral
  /-- The internal name. -/
  className : SourceExpr
  /-- The head of the implementation with the descriptor. -/
  signatureHead : ImplHead
  /-- The descriptor. -/
  signature : SourceExpr

namespace Expansion

open SourceExpr (libraryPath)

/-- The names that the generated program text gives the class, or the first
fault that its evaluation meets. -/
def constants (e : Expansion) : Except Declaration.Fault ClassConstants := do
  Declaration.checkName e.checked.value
  let className ← Declaration.buildText e.className.toExpr
  let signature ← Declaration.buildText e.signature.toExpr
  .ok ⟨e.kind, e.qualifiedName.value, className, signature⟩

/-- The head of the implementation of a trait. -/
def headTokens (traitName : String) (h : ImplHead) : List Token :=
  [.word "impl"] ++ h.generics.introduction ++ libraryPath traitName
    ++ [.word "for", .word h.typeName] ++ h.generics.arguments ++ h.generics.whereClause

/-- A constant. -/
def constTokens (name : String) (type value : List Token) : List Token :=
  [.word "const", .word name, .punct ':' false] ++ type ++ [.punct '=' false] ++ value
    ++ [.punct ';' false]

/-- An implementation. -/
def implTokens (traitName : String) (h : ImplHead) (constants : List Token) : List Token :=
  headTokens traitName h ++ [.group .brace constants]

/-- A text that lives as long as the program, as a type. -/
def staticText : List Token := [.punct '&' false, .lifetime "static", .word "str"]

/-- The name of a way to pass values. -/
def kindPath (k : Kind) : List Token :=
  libraryPath "ClassKind" ++ Token.mark [':', ':'] ++ [.word k.name]

/-- The check of the qualified name, as a constant without a name. -/
def checkTokens (t : TextLiteral) : List Token :=
  constTokens "_" [.group .parenthesis []]
    (libraryPath "check_qualified_name" ++ [.group .parenthesis [.literal (.text t)]])

/-- The expansion as program text. -/
def tokens (e : Expansion) : List Token :=
  checkTokens e.checked
    ++ implTokens "JavaClass" e.classHead
      (constTokens "KIND" (libraryPath "ClassKind") (kindPath e.kind)
        ++ constTokens "QUALIFIED_NAME" staticText [.literal (.text e.qualifiedName)]
        ++ constTokens "CLASS_NAME" (libraryPath "ZStr") e.className.tokens)
    ++ implTokens "JniSignature" e.signatureHead
      (constTokens "SIGNATURE" (libraryPath "ZStr") e.signature.tokens)

end Expansion

/-! ## §3. Deriving. -/

/-- A type whose class is to be declared.  What it consists of plays no part. -/
structure Item where
  attributes : List Attribute
  name : String
  generics : Generics

/-- What a parser of program text makes of the text of a type. -/
inductive Parse where
  /-- The type. -/
  | item (i : Item)
  /-- No type, but program text that makes the compiler say why. -/
  | rejected (report : List Token)
  /-- Nothing: the parser itself stops, with a text. -/
  | stopped (message : String)

namespace Derive

/-- Why nothing can be generated. -/
inductive Fault where
  /-- The attributes cannot be read. -/
  | unreadable (f : Attribute.Fault)
  /-- No attribute names the class. -/
  | missingClassName
  /-- The parser has stopped. -/
  | stopped (message : String)
  deriving Repr, DecidableEq

/-- The text of a fault. -/
def Fault.message : Fault → String
  | .unreadable f => f.message
  | .missingClassName => "Missing Java class name"
  | .stopped message => message

/-- What is generated for a type with the given parameters whose class has the
given name. -/
def expansion (kind : Kind) (className : TextLiteral) (typeName : String) (generics : Generics) :
    Expansion :=
  let head : ImplHead := ⟨typeName, generics⟩
  { checked := className
    classHead := head
    kind := kind
    qualifiedName := className
    className := .className className
    signatureHead := head
    signature := .signature className }

/-- How values of a type are passed, by its attributes. -/
def kindOf (a : Attributes) : Kind :=
  if a.hasFlag "native" then .native else .data

/-- Generates the implementations for a type.  The name of the class is not
checked here but by what is generated. -/
def derive (item : Item) : Except Fault Expansion :=
  match Attributes.read item.attributes with
  | .error f => .error (.unreadable f)
  | .ok a =>
    match a.value? "class_name" with
    | none => .error .missingClassName
    | some className => .ok (expansion (kindOf a) className item.name item.generics)

/-- The program text that is generated for what a parser has made of a type. -/
def generate : Parse → Except Fault (List Token)
  | .item i => (derive i).map Expansion.tokens
  | .rejected report => .ok report
  | .stopped message => .error (.stopped message)

end Derive
end ClassBridge
