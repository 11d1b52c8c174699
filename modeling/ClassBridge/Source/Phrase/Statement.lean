/-
  ClassBridge.Source.Phrase.Statement
  ───────────────────────────────────
  **Statements.**

  A statement is a semicolon, an invocation, a binding, a declaration or an
  expression.  A binding with an alternative block stays as it was written,
  and attributes in front of a declaration or an expression that stays are
  lost.
-/
import ClassBridge.Source.Phrase.Declaration

namespace ClassBridge.Phrase

open Reader

variable {given : List Token} (rec : Readers given)

/-- Whether an invocation comes next that is a statement without a semicolon:
its inside stands in braces, or it gives a name to what it declares. -/
def startsInvocationStatement (tokens : List Token) : Bool :=
  match plainPath.run (.all tokens) with
  | .ok (_, rest) =>
    let behind := rest.drop 2
    starts "!" rest && (startsName (rest.drop 1) || (startsGroup .brace (rest.drop 1)
      && !(starts "." behind || starts "?" behind)))
  | .error _ => false

/-- Such an invocation. -/
def invocationStatement : Rewriter given :=
  seq [plainPath, punct "!", ifSeen startsName name, anyGroup, maybePunct ";"]

/-- A binding of names to a value. -/
def binding : Rewriter given := do
  let tokens ← get
  let out ← seq [word "let", rec (.pattern true),
    ifSeen (starts ":") (seq [punct ":", rec (.type true)]),
    ifSeen (starts "=") (equalsValue rec)]
  if ← sees (startsWith "else") then
    let _ ← seq [word "else", plainBlock rec]
    return (← taken tokens) ++ (← punct ";")
  else return out ++ (← punct ";")

/-- Whether a declaration with a word of its own in front comes next. -/
def startsOrdinaryDeclaration (tokens : List Token) : Bool :=
  let behind := tokens.drop 1
  startsWithAny ["pub", "extern", "use", "fn", "mod", "type", "struct", "enum", "trait", "impl",
      "macro"] tokens
    || (startsWith "crate" tokens && !starts "::" behind)
    || (startsWith "union" tokens && startsName behind)
    || (startsWith "auto" tokens && startsWith "trait" behind)
    || (startsWith "existential" tokens && startsWith "type" behind)
    || (startsWith "default" tokens && startsWithAny ["unsafe", "impl"] behind)

/-- Whether a declaration comes next that begins with a word which may also
begin an expression. -/
def startsAmbiguousDeclaration (tokens : List Token) : Bool :=
  let behind := tokens.drop 1
  let third := tokens.drop 2
  (startsWith "static" tokens && (startsWith "mut" behind || (startsName behind
      && !(startsWith "async" behind && (startsWith "move" third || starts "|" third)))))
    || (startsWith "const" tokens && !startsGroup .brace behind)
    || (startsWith "unsafe" tokens && !startsGroup .brace behind)
    || (startsWith "async" tokens && startsWithAny ["unsafe", "extern", "fn"] behind)

/-- A statement behind its attributes. -/
def statement : Reader given (Reading given) := do
  let tokens ← get
  if starts ";" tokens then anew (punct ";")
  else if startsInvocationStatement tokens then anew invocationStatement
  else if startsWith "let" tokens then anew (binding rec)
  else if startsOrdinaryDeclaration tokens || startsAmbiguousDeclaration tokens then
    declaration rec tokens
  else
    let out ← leading rec true
    return { out with tokens := out.tokens ++ (← maybePunct ";") }

/-- Statements, up to the last token. -/
def readStatements : Rewriter given :=
  many (!·.isEmpty) (withAttributes (statement rec))

end ClassBridge.Phrase
