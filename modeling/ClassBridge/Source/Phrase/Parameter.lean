/-
  ClassBridge.Source.Phrase.Parameter
  ───────────────────────────────────
  **Parameters of generic declarations, conditions on them, and functions.**

      `<>`             disappears
      `<T, 'a>`        lifetimes come first; each parameter keeps its comma
      `<T:>`           loses the colon in front of no bounds
      `where` alone    disappears
      `f(A<T>)`        a parameter without a pattern gets the pattern `_`
-/
import ClassBridge.Source.Phrase.Expression

namespace ClassBridge.Phrase

open Reader

variable {given : List Token} (rec : Readers given)

/-! ## §1. Generic parameters. -/

/-- A value for a constant: a literal, a name or a block. -/
def constantValue : Rewriter given := do
  if ← sees startsLiteral then literal
  else if ← sees (startsGroup .brace) then block rec
  else name

/-- A constant of some type as a parameter, with its default. -/
def constantParameter : Rewriter given :=
  seq [word "const", name, punct ":", rec (.type true),
    ifSeen (starts "=") (seq [punct "=", constantValue rec])]

/-- Whether the bounds of a parameter end. -/
def endsParameterBounds (tokens : List Token) : Bool :=
  starts "," tokens || starts ">" tokens || starts "=" tokens

/-- What stands behind the name of a type as a parameter: its bounds and its
default.  If one of the bounds may hold for constants, all stays as it was
written behind the colon. -/
def typeParameterRest : Rewriter given := do
  if ← sees (starts ":") then
    let colon ← punct ":"
    let start ← get
    let (listed, marked) ← boundList rec ((← get).length + 1) endsParameterBounds
    let value ← ifSeen (starts "=") (seq [punct "=", rec (.type true)])
    if marked then return colon ++ (← taken start)
    else return (if listed.isEmpty then ∅ else colon ++ listed) ++ value
  else ifSeen (starts "=") (seq [punct "=", rec (.type true)])

/-- One generic parameter. -/
def genericParameter : Reader given (Argument given) := do
  let front ← attributes
  if ← sees startsLifetime then return ⟨true, front ++ (← lifetimeParameter rec)⟩
  else if ← sees (startsWith "const") then return ⟨false, front ++ (← constantParameter rec)⟩
  else if ← sees (startsWith "_") then return ⟨false, front ++ (← word "_")⟩
  else return ⟨false, front ++ (← name) ++ (← typeParameterRest rec)⟩

/-- Generic parameters between angle brackets; none leave nothing. -/
def genericParameters : Rewriter given := do
  if ← sees (starts "<") then
    let out ← angled (genericParameter rec)
    return if out.length = 2 then ∅ else out
  else return ∅

/-- Whether conditions end. -/
def endsConditions (tokens : List Token) : Bool :=
  tokens.isEmpty || startsGroup .brace tokens || starts "," tokens || starts ";" tokens
    || starts "=" tokens || (starts ":" tokens && !starts "::" tokens)

/-- The conditions of a declaration; none leave nothing. -/
def whereConditions : Rewriter given :=
  ifSeen (startsWith "where") do
    let front ← word "where"
    let listed ← listUntil endsConditions (condition rec)
    return if listed.isEmpty then ∅ else front ++ listed

/-! ## §2. Functions. -/

/-- Who may use a declaration. -/
def visibility : Rewriter given := do
  let tokens ← get
  if startsWith "pub" tokens then seq [word "pub", ifSeen startsRestriction restriction]
  else if startsWith "crate" tokens && !starts "::" (tokens.drop 1) then word "crate"
  else return ∅
where
  /-- Whether a restriction of the visibility comes next. -/
  startsRestriction : List Token → Bool
    | .group .parenthesis [.word w] :: _ => w = "crate" || w = "self" || w = "super"
    | .group .parenthesis (.word w :: _) :: _ => w = "in"
    | _ => false
  /-- A restriction of the visibility. -/
  restriction : Rewriter given :=
    group .parenthesis (seq [maybeWord "in", plainPath])

/-- What stands behind a word that may be missing. -/
def behindWord (w : String) (tokens : List Token) : List Token :=
  if startsWith w tokens then tokens.drop 1 else tokens

/-- What stands behind the words in front of the name of a function. -/
def behindQualifiers (tokens : List Token) : List Token :=
  let rest := behindWord "unsafe" (behindWord "async" (behindWord "const" tokens))
  if startsWith "extern" rest then
    if startsText (rest.drop 1) then rest.drop 2 else rest.drop 1
  else rest

/-- Whether a function comes next. -/
def startsFunction (tokens : List Token) : Bool :=
  startsWith "fn" (behindQualifiers tokens)

/-- The receiver of a method, if its type is not given. -/
def receiver : Rewriter given :=
  seq [ifSeen (starts "&") (seq [punct "&", ifSeen startsLifetime lifetime]), maybeWord "mut",
    word "self"]

/-- Whether a receiver without a type comes next. -/
def startsReceiver (tokens : List Token) : Bool :=
  match receiver.run (.all tokens) with
  | .ok (_, rest) => !starts ":" rest
  | .error _ => false

/-- A pattern that matches everything, and a colon. -/
def anonymous : Tokens given := .underscore ++ .mark [':']

/-- A parameter of a function; dots stand for any more of them. -/
def functionParameter : Rewriter given :=
  seq [attributes, do
    let tokens ← get
    if starts "..." tokens then punct "..."
    else if startsReceiver tokens then receiver
    else if startsName tokens && starts "<" (tokens.drop 1) then
      return anonymous ++ (← rec (.type true))
    else seq [rec (.pattern true), punct ":", do
      if ← sees (starts "...") then punct "..." else rec (.type true)]]

/-- A function without its body. -/
def functionHead : Rewriter given :=
  seq [maybeWord "const", maybeWord "async", maybeWord "unsafe", abi, word "fn", name,
    genericParameters rec, group .parenthesis (listOf (functionParameter rec)),
    ifSeen (starts "->") (seq [punct "->", rec (.type true)]), whereConditions rec]

end ClassBridge.Phrase
