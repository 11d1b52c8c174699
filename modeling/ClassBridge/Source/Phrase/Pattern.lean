/-
  ClassBridge.Source.Phrase.Pattern
  ─────────────────────────────────
  **Patterns and fields.**

  A pattern is written as it is read, but

      `...`        a range that includes its end has the sign `..=`
      `S { a, .. }`
                   fields and the dots behind them are apart
      `5..`        a range without its upper or its lower end stays as it was
                   written, and so does a pattern with fields whose path
                   begins with a type between angle brackets or whose dots
                   have an attribute

  A field has a name or a number; numbers are written in decimal digits
  without leading zeros.
-/
import ClassBridge.Source.Literal
import ClassBridge.Source.Phrase.Type

namespace ClassBridge.Phrase

open Reader

variable {given : List Token} (rec : Readers given)

/-! ## §1. Fields. -/

/-- The number that digits of a base stand for, among which underscores do not
count. -/
def digitsValue? (base : Nat) (digits : List Char) : Option Nat :=
  (digits.filter (· ≠ '_')).foldlM
    (fun n c => ((Token.hexDigit? c).filter (· < base)).map (base * n + ·)) 0

/-- The number that a numeral without a suffix stands for. -/
def fieldNumber? : List Char → Option Nat
  | '0' :: 'x' :: digits => digitsValue? 16 digits
  | '0' :: 'o' :: digits => digitsValue? 8 digits
  | '0' :: 'b' :: digits => digitsValue? 2 digits
  | digits => digitsValue? 10 digits

/-- The number of a field. -/
def fieldNumber : Rewriter given := do
  match (← get).toList with
  | .literal (.number n) :: _ =>
    match fieldNumber? n.toList with
    | some n => do
      let _ ← next startsNumber
      return .decimal n
    | none => refuse
  | _ => refuse

/-- The name or the number of a field. -/
def member : Rewriter given := do
  if ← sees startsNumber then fieldNumber else name

/-! ## §2. Ranges. -/

/-- The sign of a range; three dots stand for the sign that includes the end. -/
def rangeSign : Rewriter given := do
  if ← sees (starts "..=") then punct "..="
  else if ← sees (starts "...") then
    let _ ← punct "..."
    return .mark "..=".toList
  else punct ".."

/-- Whether nothing comes next that could be the end of a range. -/
def endsRange (tokens : List Token) : Bool :=
  tokens.isEmpty || starts "|" tokens || starts "=" tokens
    || (starts ":" tokens && !starts "::" tokens) || starts "," tokens || starts ";" tokens

/-- A block that is evaluated beforehand, as it stands. -/
def constantBlock : Rewriter given := verbatim (seq [word "const", block rec])

/-- Whether such a block comes next. -/
def startsConstantBlock (tokens : List Token) : Bool :=
  startsWith "const" tokens && startsGroup .brace (tokens.drop 1)

/-- One end of a range, or a value by itself. -/
def rangeEnd : Rewriter given :=
  seq [maybePunct "-", do
    if ← sees startsLiteral then literal
    else if ← sees startsConstantBlock then constantBlock rec
    else rec (.path true)]

/-- A range whose lower end has been read from the given tokens, or that lower
end alone. -/
def rangeBehind (start lower : Tokens given) : Reader given (Reading given) := do
  if ← sees (starts "..") then
    let sign ← rangeSign
    if ← sees endsRange then asIs start (return ∅)
    else return ⟨lower ++ sign ++ (← rangeEnd rec), false⟩
  else return ⟨lower, startsWith "const" start⟩

/-- A range without a lower end, or the two dots that stand for all the rest. -/
def openRange : Reader given (Reading given) := do
  let start ← get
  let sign ← rangeSign
  if ← sees endsRange then return ⟨sign, false⟩ else asIs start (rangeEnd rec)

/-! ## §3. Patterns. -/

/-- Patterns between round or square brackets. -/
def patternList (d : Delimiter) : Rewriter given :=
  group d (listOf (rec (.pattern true)))

/-- What may stand in front of the name that a field is bound to. -/
def fieldQualifiers : Rewriter given :=
  seq [maybeWord "box", maybeWord "ref", maybeWord "mut"]

/-- A field in the pattern of a structure, behind its attributes.  In front of
the number of a field nothing counts, nor does an attribute behind it. -/
def fieldPattern : Rewriter given := do
  let qualifiers ← fieldQualifiers
  if ← sees startsNumber then
    let number ← fieldNumber
    let _ ← attributes
    return number ++ (← seq [punct ":", rec (.pattern true)])
  else
    let named ← name
    if qualifiers.isEmpty && (← sees (starts ":")) then
      return named ++ (← seq [punct ":", rec (.pattern true)])
    else return qualifiers ++ named

/-- The fields in the pattern of a structure, and the dots behind them; with
attributes in front of the dots the pattern stays as it was written.  `fuel` is
more than the number of fields. -/
def fieldPatternList (fuel : Nat) : Reader given (Reading given) :=
  match fuel with
  | 0 => refuse
  | fuel + 1 => do
    if ← sees List.isEmpty then return ⟨∅, false⟩
    let front ← attributes
    if ← sees (starts "..") then return ⟨front ++ (← punct ".."), !front.isEmpty⟩
    let field ← fieldPattern rec
    if ← sees List.isEmpty then return ⟨front ++ field, false⟩
    let comma ← punct ","
    let rest ← fieldPatternList fuel
    return ⟨front ++ field ++ comma ++ rest.tokens, rest.asIs⟩

/-- The fields in the pattern of a structure, between braces. -/
def fieldPatterns : Reader given (Reading given) := do
  let tokens ← get
  match tokens.group? with
  | some (.brace, inside) =>
    match all (fieldPatternList rec (inside.length + 1)) inside with
    | .ok reading =>
      set (tokens.drop 1)
      return { reading with tokens := .group .brace reading.tokens }
    | .error f => throw f
  | _ => refuse

/-- A pattern that begins with a path. -/
def pathPattern : Reader given (Reading given) := do
  let start ← get
  let path ← rec (.path true)
  let behindPath (fields : Reading given) : Reader given (Reading given) := do
    if starts "<" start || fields.asIs then asIs start (return ∅)
    else return ⟨path ++ fields.tokens, false⟩
  if ← sees (starts "..") then rangeBehind rec start path
  else if !starts "<" start && (← sees startsInvocation) then
    return ⟨path ++ (← seq [punct "!", anyGroup]), false⟩
  else if ← sees (startsGroup .brace) then behindPath (← fieldPatterns rec)
  else if ← sees (startsGroup .parenthesis) then
    behindPath ⟨← patternList rec .parenthesis, false⟩
  else return ⟨path, false⟩

/-- Whether a range sign comes next, and its end behind it. -/
def startsRangeWithEnd (tokens : List Token) : Bool :=
  match rangeSign.run (.all tokens) with
  | .ok (_, rest) => !(rest.isEmpty || starts "," rest)
  | .error _ => false

/-- Whether a name is only the beginning of what it stands in. -/
def startsBeyondName (tokens : List Token) : Bool :=
  starts "::" tokens || starts "!" tokens || startsGroup .brace tokens
    || startsGroup .parenthesis tokens || startsRangeWithEnd tokens

/-- Whether a pattern that begins with a path comes next, and not just a name. -/
def startsPathPattern (tokens : List Token) : Bool :=
  (startsName tokens && startsBeyondName (tokens.drop 1))
    || (startsWith "self" tokens && starts "::" (tokens.drop 1))
    || starts "::" tokens || starts "<" tokens || startsWithAny ["Self", "super", "crate"] tokens

/-- A name, with a pattern behind it that it stands for. -/
def namePattern : Rewriter given :=
  seq [maybeWord "ref", maybeWord "mut", next startsAnyWord,
    ifSeen (starts "@") (seq [punct "@", rec (.pattern false)])]

/-- A pattern without alternatives. -/
def simplePattern : Reader given (Reading given) := do
  let tokens ← get
  if startsPathPattern tokens then pathPattern rec
  else if startsWith "_" tokens then anew (word "_")
  else if startsWith "box" tokens then anew (seq [word "box", rec (.pattern false)])
  else if starts "-" tokens || startsLiteral tokens || startsWith "const" tokens then
    rangeBehind rec tokens (← rangeEnd rec)
  else if startsAnyWord tokens then anew (namePattern rec)
  else if starts "&" tokens then anew (seq [punct "&", maybeWord "mut", rec (.pattern false)])
  else if startsGroup .parenthesis tokens then anew (patternList rec .parenthesis)
  else if startsGroup .bracket tokens then anew (patternList rec .bracket)
  else openRange rec

/-- Whether a bar between alternatives comes next. -/
def startsBar (tokens : List Token) : Bool :=
  starts "|" tokens && !starts "||" tokens && !starts "|=" tokens

/-- A pattern; with alternatives, a bar may also stand in front of the first. -/
def readPattern (bars : Bool) : Rewriter given := do
  if bars then
    seq [maybePunct "|", rec (.pattern false),
      many startsBar (seq [punct "|", rec (.pattern false)])]
  else return (← simplePattern rec).tokens

end ClassBridge.Phrase
