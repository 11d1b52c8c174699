/-
  ClassBridge.Source.Phrase.Type
  ──────────────────────────────
  **Paths, types and bounds.**

  Most of a type is written as it is read.  What changes:

      arguments        lifetimes come first; each argument keeps its comma
      `F::(A)`         loses its double colon
      `for<'a:>`       loses the colon in front of no bounds

  A type that is named inside an argument, the inside of an invocation with
  `!`, and the types that have no form of their own stay as they were written.
-/
import ClassBridge.Source.Phrase.Basic

namespace ClassBridge.Phrase

open Reader

variable {given : List Token} (rec : Readers given)

/-! ## §1. Paths. -/

/-- Words that stand alone in a path. -/
def pathKeywords : List String := ["super", "self", "crate"]

/-- Whether a name or a word that may stand for one comes next. -/
def startsSegment (tokens : List Token) : Bool :=
  startsName tokens || startsWithAny ("Self" :: pathKeywords) tokens

/-- Whether the arguments of a segment come next. -/
def startsArguments (inExpression : Bool) (tokens : List Token) : Bool :=
  (!inExpression && starts "<" tokens && !starts "<=" tokens)
    || (starts "::" tokens && starts "<" (tokens.drop 2))

/-- One segment of a path. -/
def segment (inExpression : Bool) : Rewriter given := do
  if ← sees (startsWithAny pathKeywords) then next startsAnyWord
  else
    seq [next startsSegment, ifSeen (startsArguments inExpression) (rec .arguments)]

/-- Whether a double colon comes next, with another segment behind it. -/
def startsNextSegment (tokens : List Token) : Bool :=
  starts "::" tokens && !startsGroup .parenthesis (tokens.drop 2)

/-- A path without what may begin it. -/
def segments (inExpression : Bool) : Rewriter given :=
  seq [segment rec inExpression,
    many startsNextSegment (seq [punct "::", segment rec inExpression])]

/-- A path, which may begin with a type between angle brackets. -/
def readPath (inExpression : Bool) : Rewriter given := do
  if ← sees (starts "<") then
    seq [punct "<", rec (.type true),
      ifSeen (startsWith "as") (seq [word "as", rec (.path false)]),
      punct ">", punct "::", segments rec inExpression]
  else seq [maybePunct "::", segments rec inExpression]

/-! ## §2. Arguments between angle brackets. -/

/-- An argument or a parameter without its comma. -/
structure Argument (given : List Token) where
  isLifetime : Bool
  tokens : Tokens given

/-- A block, which may begin with attributes. -/
def block : Rewriter given :=
  group .brace (seq [innerAttributes, rec .statements])

/-- A literal or a block as it stands, or a type. -/
def namedValue : Rewriter given := do
  if ← sees startsLiteral then verbatim literal
  else if ← sees (startsGroup .brace) then verbatim (block rec)
  else rec (.type true)

/-- Bounds, if there are any. -/
def maybeBounds : Rewriter given := do
  if ← sees (fun ts => starts "," ts || starts ">" ts) then return ∅
  else rec (.bounds true)

/-- A type as an argument.  If it is a name with arguments of its own to which
a type or bounds are given, it stays as it was written. -/
def typeArgument : Rewriter given := do
  let tokens ← get
  let out ← rec (.type true)
  if ← sees (starts "=") then
    let _ ← seq [punct "=", rec (.type true)]
    taken tokens
  else if ← sees (starts ":") then
    let _ ← seq [punct ":", maybeBounds rec]
    taken tokens
  else return out

/-- One argument. -/
def argument : Reader given (Argument given) := do
  let tokens ← get
  if startsLifetime tokens && !starts "+" (tokens.drop 1) then
    return ⟨true, ← lifetime⟩
  else if startsName tokens && starts "=" (tokens.drop 1) then
    return ⟨false, ← seq [name, punct "=", namedValue rec]⟩
  else if startsName tokens && starts ":" (tokens.drop 1) && !starts "::" (tokens.drop 1) then
    return ⟨false, ← seq [name, punct ":", maybeBounds rec]⟩
  else if startsLiteral tokens then return ⟨false, ← literal⟩
  else if startsGroup .brace tokens then return ⟨false, ← block rec⟩
  else return ⟨false, ← typeArgument rec⟩

/-- Items up to the closing bracket, and whether a comma stands behind the
last one; `fuel` is more than their number. -/
def argumentList (fuel : Nat) (item : Reader given (Argument given)) :
    Reader given (List (Argument given) × Bool) :=
  match fuel with
  | 0 => refuse
  | fuel + 1 => do
    if ← sees (starts ">") then return ([], true)
    let a ← item
    if ← sees (starts ">") then return ([a], false)
    let _ ← punct ","
    let (rest, closed) ← argumentList fuel item
    return (a :: rest, closed)

/-- Items with their commas, lifetimes first.  The last one read may be
without, but gets one if another is written behind it, and then the list ends
in a comma. -/
def writeArguments (args : List (Argument given)) (closed : Bool) : Tokens given :=
  let arranged := args.filter (·.isLifetime) ++ args.filter (!·.isLifetime)
  let moved := args.any (!·.isLifetime) && args.getLast?.any (·.isLifetime)
  .separated (arranged.map (·.tokens))
    ++ if (closed || moved) && !args.isEmpty then .mark [','] else ∅

/-- What stands between angle brackets. -/
def angled (item : Reader given (Argument given)) : Rewriter given := do
  let front ← punct "<"
  let (args, closed) ← argumentList ((← get).length + 1) item
  return front ++ writeArguments args closed ++ (← punct ">")

/-- Arguments between angle brackets. -/
def readArguments : Rewriter given :=
  seq [maybePunct "::", angled (argument rec)]

/-! ## §3. Bounds. -/

/-- A lifetime that is introduced, with its bounds if it has any. -/
def lifetimeParameter : Rewriter given := do
  let out ← lifetime
  if ← sees (starts ":") then
    let colon ← punct ":"
    let bounds ← maybeBounds rec
    return out ++ if bounds.isEmpty then ∅ else colon ++ bounds
  else return out

/-- The lifetimes that a bound or a type introduces. -/
def binder : Rewriter given :=
  seq [word "for", punct "<",
    listUntil (starts ">") (seq [attributes, lifetimeParameter rec]), punct ">"]

/-- What a function takes and returns, behind the name of its trait. -/
def signature : Rewriter given := do
  if ← sees (starts "::") then
    let _ ← punct "::"
  seq [group .parenthesis (listOf (rec (.type true))),
    ifSeen (starts "->") (seq [punct "->", rec (.type false)])]

/-- Whether what a function takes and returns comes next. -/
def startsSignature (tokens : List Token) : Bool :=
  startsGroup .parenthesis tokens
    || (starts "::" tokens && startsGroup .parenthesis (tokens.drop 2))

/-- A path that may be that of a trait of functions. -/
def traitPath : Rewriter given :=
  seq [rec (.path false), ifSeen startsSignature (signature rec)]

/-- Whether a bound that may hold for constants comes next. -/
def startsMaybeConst (tokens : List Token) : Bool :=
  starts "~" tokens && startsWith "const" (tokens.drop 1)

/-- A trait as a bound. -/
def traitBound : Rewriter given :=
  seq [ifSeen startsMaybeConst (seq [punct "~", word "const"]), maybePunct "?",
    ifSeen (startsWith "for") (binder rec), traitPath rec]

/-- One bound. -/
def bound : Rewriter given := do
  if ← sees startsLifetime then lifetime
  else if ← sees (startsGroup .parenthesis) then group .parenthesis (traitBound rec)
  else traitBound rec

/-- Whether a bound comes next. -/
def startsBound (tokens : List Token) : Bool :=
  startsAnyWord tokens || starts "::" tokens || starts "?" tokens || startsLifetime tokens
    || startsGroup .parenthesis tokens || starts "~" tokens

/-- Bounds with plus signs between them; one may also stand behind the last. -/
def readBounds (plus : Bool) : Rewriter given := do
  if plus then
    seq [bound rec, many (starts "+") (seq [punct "+", ifSeen startsBound (bound rec)])]
  else bound rec

/-- Bounds with plus signs between them, up to where they end, and whether one
of them may hold for constants; `fuel` is more than their number. -/
def boundList (fuel : Nat) (ends : List Token → Bool) : Reader given (Tokens given × Bool) :=
  match fuel with
  | 0 => refuse
  | fuel + 1 => do
    if ← sees ends then return (∅, false)
    let marked ← sees startsMaybeConst
    let out ← bound rec
    if ← sees (starts "+") then
      let plus ← punct "+"
      let rest ← boundList fuel ends
      return (out ++ plus ++ rest.1, marked || rest.2)
    else return (out, marked)

/-- Bounds with plus signs between them, up to where they end. -/
def boundsUntil (ends : List Token → Bool) : Rewriter given := do
  return (← boundList rec ((← get).length + 1) ends).1

/-- The bounds of a parameter.  If one of them may hold for constants, none is
left of them. -/
def readParameterBounds : Rewriter given := do
  let out ← boundList rec ((← get).length + 1) List.isEmpty
  return if out.2 then ∅ else out.1

/-- A condition on a lifetime or on a type. -/
def condition : Rewriter given := do
  if ← sees (fun ts => startsLifetime ts && starts ":" (ts.drop 1)) then
    seq [lifetime, punct ":", ifSeen startsBound (rec (.bounds true))]
  else
    seq [ifSeen (startsWith "for") (binder rec), rec (.type true), punct ":",
      ifSeen startsBound (rec (.bounds true))]

/-- Conditions on types and lifetimes. -/
def readConditions : Rewriter given := listOf (condition rec)

/-! ## §4. Types. -/

/-- Whether a named parameter of a function type comes next. -/
def startsNamedParameter (tokens : List Token) : Bool :=
  (startsName tokens || startsWithAny ["_", "self"] tokens) && starts ":" (tokens.drop 1)
    && !starts "::" (tokens.drop 1)

/-- Whether a receiver comes next that can be assigned to. -/
def startsMutableSelf (tokens : List Token) : Bool :=
  startsWith "mut" tokens && startsWith "self" (tokens.drop 1) && starts ":" (tokens.drop 2)
    && !starts "::" (tokens.drop 2)

/-- A parameter of a function type; dots stand for any more of them. -/
def parameter : Rewriter given :=
  seq [attributes, ifSeen startsNamedParameter (seq [next startsAnyWord, punct ":"]),
    ifSeen startsMutableSelf (seq [word "mut", word "self", punct ":"]), do
      if ← sees (starts "...") then punct "..." else rec (.type true)]

/-- The convention by which a function is called. -/
def abi : Rewriter given :=
  ifSeen (startsWith "extern") (seq [word "extern", ifSeen startsText literal])

/-- A function type without the lifetimes that it introduces. -/
def functionType : Rewriter given :=
  seq [maybeWord "unsafe", abi, word "fn", group .parenthesis (listOf (parameter rec)),
    ifSeen (starts "->") (seq [punct "->", rec (.type false)])]

/-- Whether parameters of a function type have a receiver among them that can
be assigned to: such a type has no form of its own. -/
def hasMutableSelf : List Token → Bool
  | [] => false
  | t :: rest => startsMutableSelf (t :: rest) || hasMutableSelf rest

/-- Whether the first group in the tokens of a function type has such a
receiver in it. -/
def isFormless : List Token → Bool
  | [] => false
  | .group _ inner :: _ => hasMutableSelf inner
  | _ :: rest => isFormless rest

/-- A function type behind the lifetimes that it introduces, which have been
read from the given tokens. -/
def functionTypeBehind (start lifetimes : Tokens given) : Rewriter given := do
  let formless ← sees isFormless
  let out ← functionType rec
  if formless then taken start else return lifetimes ++ out

/-- Whether a function type comes next. -/
def startsFunctionType (tokens : List Token) : Bool :=
  startsWithAny ["fn", "unsafe", "extern"] tokens

/-- Whether the exclamation mark of an invocation comes next. -/
def startsInvocation (tokens : List Token) : Bool :=
  starts "!" tokens && !starts "!=" tokens

/-- More bounds behind a type that is the first of them. -/
def moreBounds (plus : Bool) : Rewriter given := do
  if plus then many (starts "+") (seq [punct "+", ifSeen startsBound (bound rec)])
  else return ∅

/-- The types between round brackets. -/
def insideParentheses : Rewriter given := do
  if ← sees (starts "?") then traitBound rec
  else listOf (rec (.type true))

/-- The types between square brackets: elements, and how many there are. -/
def insideBrackets : Rewriter given :=
  seq [rec (.type true), ifSeen (starts ";") (seq [punct ";", rec (.expression true)])]

/-- A type that begins with a path. -/
def pathType (plus : Bool) : Rewriter given := do
  let out ← traitPath rec
  if ← sees startsInvocation then return out ++ (← seq [punct "!", anyGroup])
  else return out ++ (← moreBounds rec plus)

/-- A type. -/
def readType (plus : Bool) : Rewriter given := do
  let tokens ← get
  if startsGroup .parenthesis tokens then
    seq [group .parenthesis (insideParentheses rec), moreBounds rec plus]
  else if startsWith "for" tokens then
    let lifetimes ← binder rec
    if ← sees startsFunctionType then functionTypeBehind rec tokens lifetimes
    else return lifetimes ++ (← pathType rec plus)
  else if startsFunctionType tokens then functionTypeBehind rec tokens ∅
  else if startsWith "dyn" tokens then
    if starts "*" (tokens.drop 1) then
      verbatim (seq [word "dyn", punct "*", rec (.bounds plus)])
    else seq [word "dyn", rec (.bounds plus)]
  else if startsWith "impl" tokens then seq [word "impl", rec (.bounds plus)]
  else if startsWith "_" tokens then word "_"
  else if startsGroup .bracket tokens then group .bracket (insideBrackets rec)
  else if starts "*" tokens then
    seq [punct "*", next (startsWithAny ["const", "mut"]), rec (.type false)]
  else if starts "&" tokens then
    seq [punct "&", ifSeen startsLifetime lifetime, maybeWord "mut", rec (.type false)]
  else if starts "!" tokens then punct "!"
  else if startsLifetime tokens then rec (.bounds true)
  else pathType rec plus

end ClassBridge.Phrase
