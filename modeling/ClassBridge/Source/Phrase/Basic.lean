/-
  ClassBridge.Source.Phrase.Basic
  ───────────────────────────────
  **Kinds of phrases.**

  A phrase is a stretch of program text that is read as one thing.  The
  readers of the phrases need each other, so each is written over a reader
  for every kind of phrase; `Phrase.read` closes the circle.  Only what stands
  in front of a phrase, its attributes and its label, needs none.
-/
import ClassBridge.Source.Reader

namespace ClassBridge

/-- What can be read as one thing. -/
inductive Phrase where
  /-- Names separated by double colons; in an expression, arguments between
  angle brackets need a double colon in front. -/
  | path (inExpression : Bool)
  /-- Arguments between angle brackets. -/
  | arguments
  /-- A type; a sum of bounds only where `plus` allows one. -/
  | type (plus : Bool)
  /-- Bounds separated by plus signs, only one if `plus` does not allow more. -/
  | bounds (plus : Bool)
  /-- The bounds of a parameter. -/
  | parameterBounds
  /-- Conditions on types and lifetimes, separated by commas. -/
  | conditions
  /-- An expression; one that begins with a name goes on in braces only where
  `braces` allows it. -/
  | expression (braces : Bool)
  /-- An operand with all that stands in front of it and behind it. -/
  | operand (braces : Bool)
  /-- An expression that ends in a block, without anything behind it. -/
  | compound
  /-- The result of a case. -/
  | caseResult
  /-- A pattern; several with bars between them where `bars` allows it. -/
  | pattern (bars : Bool)
  /-- Statements, up to the last token. -/
  | statements
  /-- Declarations, up to the last token. -/
  | declarations
  deriving Repr, DecidableEq

/-- A reader for every kind of phrase. -/
abbrev Readers (given : List Token) := Phrase → Rewriter given

namespace Phrase

open Reader

variable {given : List Token}

/-- An attribute in front of something, with its inside as it stands. -/
def attributes : Rewriter given :=
  many (fun ts => starts "#" ts && startsGroup .bracket (ts.drop 1)) (seq [punct "#", anyGroup])

/-- Attributes at the beginning of what they belong to. -/
def innerAttributes : Rewriter given :=
  many (fun ts => starts "#" ts && starts "!" (ts.drop 1) && startsGroup .bracket (ts.drop 2))
    (seq [punct "#", punct "!", anyGroup])

/-- A label in front of a loop or a block. -/
def label : Rewriter given := seq [lifetime, punct ":"]

/-- A path without arguments. -/
def plainPath : Rewriter given :=
  let segment := next fun ts => startsName ts || startsWithAny ["super", "self", "Self", "crate"] ts
  seq [maybePunct "::", segment, many (starts "::") (seq [punct "::", segment])]

/-- What is read, and whether it stays as it was written in the declaration.
Attributes in front of what stays are lost in some places. -/
structure Reading (given : List Token) where
  tokens : Tokens given
  asIs : Bool

/-- Something that is written anew. -/
def anew (r : Rewriter given) : Reader given (Reading given) := do
  return ⟨← r, false⟩

/-- Something that stays as it was written, from the given tokens on. -/
def asIs (start : Tokens given) (r : Rewriter given) : Reader given (Reading given) := do
  let _ ← r
  return ⟨← taken start, true⟩

/-- What is read behind attributes, without them if it stays as it was
written. -/
def withAttributes (r : Reader given (Reading given)) : Rewriter given := do
  let front ← attributes
  let reading ← r
  return if reading.asIs then reading.tokens else front ++ reading.tokens

end Phrase
end ClassBridge
