/-
  ClassBridge.Source.Phrase.Expression
  ────────────────────────────────────
  **Expressions.**

  An expression is operands with operators between them.  How much these bind
  hardly matters: what is read is written in the same order and without further
  brackets.  Only a pattern in a condition is compared with no more than what
  binds like a comparison.  What changes:

      `a...b`      the sign is `..=`
      `X.0.1`      the numbers of the two fields are apart, and so are the
                   dots in front of them
      `||`, `&&`   are two marks in front of an operand

  Some expressions stay as they were written: the inside of an invocation with
  `!`, a block that is evaluated beforehand, a raw reference, a closure that
  introduces lifetimes, a structure whose path begins with a type between angle
  brackets, and the placeholder `_`.  In front of such an operand the
  attributes of a statement, of the result of a case and of a parameter of a
  closure are lost.
-/
import ClassBridge.Source.Phrase.Pattern

namespace ClassBridge.Phrase

open Reader

variable {given : List Token} (rec : Readers given)

/-! ## §1. Expressions that end in a block. -/

/-- A block that does not begin with attributes. -/
def plainBlock : Rewriter given := group .brace (rec .statements)

/-- Whether lifetimes are introduced between angle brackets. -/
def startsBinder (tokens : List Token) : Bool :=
  startsWith "for" tokens && starts "<" (tokens.drop 1)
    && (startsLifetime (tokens.drop 2) || starts ">" (tokens.drop 2))

/-- A choice between two blocks. -/
def choice : Rewriter given :=
  seq [word "if", rec (.expression false), plainBlock rec,
    ifSeen (startsWith "else") (seq [word "else", do
      if ← sees (startsWith "if") then rec .compound else plainBlock rec])]

/-- A case of a choice by patterns. -/
def matchCase : Rewriter given :=
  seq [attributes, rec (.pattern true),
    ifSeen (startsWith "if") (seq [word "if", rec (.expression true)]),
    punct "=>", rec .caseResult, maybePunct ","]

/-- Whether an expression that ends in a block comes next. -/
def startsCompound (tokens : List Token) : Bool :=
  startsWithAny ["if", "while", "loop", "match", "unsafe"] tokens
    || (startsWith "for" tokens && !startsBinder tokens)
    || (startsWith "try" tokens && startsGroup .brace (tokens.drop 1))
    || startsConstantBlock tokens || startsGroup .brace tokens

/-- An expression that ends in a block, with nothing behind it. -/
def readCompound : Rewriter given := do
  let tokens ← get
  if startsWith "if" tokens then choice rec
  else if startsWith "while" tokens then
    seq [word "while", rec (.expression false), block rec]
  else if startsWith "for" tokens then
    seq [word "for", rec (.pattern true), word "in", rec (.expression false), block rec]
  else if startsWith "loop" tokens then seq [word "loop", block rec]
  else if startsWith "match" tokens then
    seq [word "match", rec (.expression false),
      group .brace (seq [innerAttributes, many (!·.isEmpty) (matchCase rec)])]
  else if startsWith "unsafe" tokens then seq [word "unsafe", block rec]
  else if startsWith "try" tokens then seq [word "try", plainBlock rec]
  else if startsConstantBlock tokens then constantBlock rec
  else block rec

/-! ## §2. What follows an operand. -/

/-- Whether a dot comes next, and not the sign of a range. -/
def startsDot (tokens : List Token) : Bool :=
  starts "." tokens && !starts ".." tokens

/-- Whether something comes next that belongs to the operand in front. -/
def startsTrailer (tokens : List Token) : Bool :=
  startsGroup .parenthesis tokens || startsGroup .bracket tokens || startsDot tokens
    || starts "?" tokens

/-- One of the arguments between angle brackets behind the name of a method. -/
def methodArgument : Rewriter given := do
  if ← sees startsLiteral then literal
  else if ← sees (startsGroup .brace) then block rec
  else rec (.type true)

/-- The arguments between angle brackets behind the name of a method. -/
def methodArguments : Rewriter given :=
  seq [punct "::", punct "<", listUntil (starts ">") (methodArgument rec), punct ">"]

/-- A field, or the name of a method without its arguments in parentheses. -/
def namedMember : Rewriter given := do
  if ← sees startsNumber then fieldNumber
  else if ← sees (startsWith "await") then word "await"
  else seq [name, ifSeen (starts "::") (methodArguments rec)]

/-- Whether a number with a point in it comes next. -/
def startsPointedNumber : List Token → Bool
  | .literal (.number n) :: _ => n.toList.contains '.'
  | _ => false

/-- The numbers of fields in a number with a point. -/
def fieldNumbers? (parts : List String) : Option (List Nat) :=
  (parts.filter (· ≠ "")).mapM fun part => fieldNumber? part.toList

/-- The numbers of fields in one token, with a dot where it has a point; if the
point stands last, another field follows. -/
def pointedMember : Rewriter given := do
  match (← get).toList with
  | .literal (.number n) :: _ =>
    let parts := n.splitOn "."
    match fieldNumbers? parts with
    | some numbers =>
      let _ ← next startsNumber
      let dot := .mark ['.']
      let written := Tokens.flatten ((numbers.map .decimal).intersperse dot)
      if parts.getLast? = some "" then return written ++ dot ++ (← namedMember rec)
      else return written
    | none => refuse
  | _ => refuse

/-- A field or a method behind its dot. -/
def memberBehindDot : Rewriter given := do
  if ← sees startsPointedNumber then pointedMember rec else namedMember rec

/-- A call, an index, a field, or a question mark. -/
def trailer : Rewriter given := do
  let tokens ← get
  if startsGroup .parenthesis tokens then
    group .parenthesis (listOf (rec (.expression true)))
  else if startsGroup .bracket tokens then group .bracket (rec (.expression true))
  else if starts "?" tokens then punct "?"
  else seq [punct ".", memberBehindDot rec]

/-- All that belongs to the operand in front. -/
def trailers : Rewriter given := many startsTrailer (trailer rec)

/-! ## §3. Operators. -/

/-- Whether nothing comes next that could be an operand of what stands in
front. -/
def endsOperand (braces : Bool) (tokens : List Token) : Bool :=
  tokens.isEmpty || starts "," tokens || starts ";" tokens
    || (!braces && startsGroup .brace tokens)

/-- Whether a range goes no further than its sign. -/
def endsOpenRange (braces : Bool) (tokens : List Token) : Bool :=
  endsOperand braces tokens || startsDot tokens

/-- What an operator does. -/
inductive OperatorKind where
  /-- It makes a value of two others. -/
  | binary
  /-- It changes the operand in front of it. -/
  | assignment
  /-- It makes a range. -/
  | range
  /-- It gives the operand in front of it a type. -/
  | conversion
  deriving Repr, DecidableEq

/-- The marks that change the operand in front of them. -/
def assignmentMarks : List String :=
  ["+=", "-=", "*=", "/=", "%=", "^=", "&=", "|=", "<<=", ">>="]

/-- The marks that make a value; one that begins with another comes before
it. -/
def binaryMarks : List String :=
  ["&&", "||", "<<", ">>", "==", "<=", "!=", ">=", "+", "-", "*", "/", "%", "^", "&", "|",
    "<", ">"]

/-- The operator mark between two operands that comes next. -/
def operator? (tokens : List Token) : Option String :=
  (assignmentMarks ++ binaryMarks).find? fun m => starts m tokens

/-- Whether the sign of an assignment comes next. -/
def startsAssignment (tokens : List Token) : Bool :=
  starts "=" tokens && !starts "==" tokens && !starts "=>" tokens

/-- The kind of the operator that comes next. -/
def operatorKind? (tokens : List Token) : Option OperatorKind :=
  match operator? tokens with
  | some m => some (if assignmentMarks.contains m then .assignment else .binary)
  | none =>
    if startsAssignment tokens then some .assignment
    else if starts ".." tokens then some .range
    else if startsWith "as" tokens || (starts ":" tokens && !starts "::" tokens) then
      some .conversion
    else none

/-- A range whose lower end stands in front. -/
def rangeOperation (braces : Bool) : Rewriter given := do
  let includesEnd ← sees fun ts => starts "..=" ts || starts "..." ts
  seq [rangeSign, ifSeen (fun ts => includesEnd || !endsOpenRange braces ts)
    (rec (.operand braces))]

/-- An operator of a kind and what stands behind it. -/
def operation (braces : Bool) (kind : OperatorKind) : Rewriter given := do
  let tokens ← get
  match kind, operator? tokens with
  | .range, _ => rangeOperation rec braces
  | .conversion, _ =>
    if startsWith "as" tokens then seq [word "as", rec (.type false)]
    else seq [punct ":", rec (.type false)]
  | _, some m => seq [punct m, rec (.operand braces)]
  | _, none => seq [punct "=", rec (.operand braces)]

/-- Operators with what stands behind them, and their kinds in order, as long
as the tokens go on as asked; `fuel` is more than their number. -/
def operationList (fuel : Nat) (braces : Bool) (p : List Token → Bool) :
    Reader given (List OperatorKind × Tokens given) :=
  match fuel with
  | 0 => refuse
  | fuel + 1 => do
    let tokens ← get
    match operatorKind? tokens with
    | none => return ([], ∅)
    | some kind =>
      if p tokens then
        let out ← operation rec braces kind
        let rest ← operationList fuel braces p
        return (kind :: rest.1, out ++ rest.2)
      else return ([], ∅)

/-- Operators with what stands behind them, and their kinds in order. -/
def operations (braces : Bool) : Reader given (List OperatorKind × Tokens given) := do
  operationList rec ((← get).length + 1) braces fun _ => true

/-- Whether an operator comes next that binds at least as much as a
comparison. -/
def bindsLikeComparison (tokens : List Token) : Bool :=
  match operatorKind? tokens with
  | some .binary => !(starts "&&" tokens || starts "||" tokens)
  | some .conversion => true
  | _ => false

/-- The value that a pattern in a condition is compared with. -/
def matchedValue : Rewriter given := do
  let front ← rec (.operand false)
  return front ++ (← operationList rec ((← get).length + 1) false bindsLikeComparison).2

/-! ## §4. Operands. -/

/-- An expression that may be missing. -/
def maybeExpression (braces : Bool) : Rewriter given :=
  ifSeen (!endsOperand braces ·) (rec (.expression braces))

/-- A parameter of a closure. -/
def closureParameter : Rewriter given :=
  withAttributes do
    let pattern ← simplePattern rec
    if ← sees (starts ":") then
      anew (return pattern.tokens ++ (← seq [punct ":", rec (.type true)]))
    else return pattern

/-- A closure. -/
def closure (braces : Bool) : Rewriter given :=
  seq [maybeWord "static", maybeWord "async", maybeWord "move",
    punct "|", listUntil (starts "|") (closureParameter rec), punct "|", do
      if ← sees (starts "->") then seq [punct "->", rec (.type true), plainBlock rec]
      else rec (.expression braces)]

/-- Whether a closure comes next. -/
def startsClosure (tokens : List Token) : Bool :=
  starts "|" tokens || startsWithAny ["static", "move"] tokens
    || (startsWith "async" tokens
      && (starts "|" (tokens.drop 1) || startsWith "move" (tokens.drop 1)))

/-- Whether a block that is evaluated later comes next. -/
def startsAsyncBlock (tokens : List Token) : Bool :=
  startsWith "async" tokens && (startsGroup .brace (tokens.drop 1)
    || (startsWith "move" (tokens.drop 1) && startsGroup .brace (tokens.drop 2)))

/-- A field of a structure and its value. -/
def fieldValue : Rewriter given :=
  seq [attributes, member, ifSeen (starts ":") (seq [punct ":", rec (.expression true)])]

/-- The fields of a structure, and the structure that gives the others. -/
def fieldValues : Rewriter given :=
  group .brace
    (seq [listUntil (fun ts => ts.isEmpty || starts ".." ts) (fieldValue rec),
      ifSeen (starts "..") (seq [punct "..", ifSeen (!·.isEmpty) (rec (.expression true))])])

/-- A path, an invocation or a structure. -/
def pathExpression (braces : Bool) : Reader given (Reading given) := do
  let start ← get
  let path ← rec (.path true)
  if !starts "<" start && (← sees startsInvocation) then
    return ⟨path ++ (← seq [punct "!", anyGroup]), false⟩
  else if braces && (← sees (startsGroup .brace)) then
    if starts "<" start then asIs start (fieldValues rec)
    else return ⟨path ++ (← fieldValues rec), false⟩
  else return ⟨path, false⟩

/-- Whether an expression that begins with a path comes next. -/
def startsPathExpression (tokens : List Token) : Bool :=
  startsName tokens || starts "::" tokens || starts "<" tokens
    || startsWithAny ["self", "Self", "super", "crate", "try"] tokens

/-- Elements between square brackets, or one of them and how often it is
repeated. -/
def elements : Rewriter given :=
  seq [listOf (rec (.expression true)), ifSeen (starts ";") (seq [punct ";",
    rec (.expression true)])]

/-- A range without a lower end. -/
def rangeFromStart (braces : Bool) : Rewriter given :=
  seq [rangeSign, ifSeen (!endsOpenRange braces ·) (rec (.expression braces))]

/-- What jumps out of a block, or what stops for a while. -/
def jump (braces : Bool) : Rewriter given := do
  let tokens ← get
  if startsWith "break" tokens then
    seq [word "break", ifSeen startsLifetime lifetime, maybeExpression rec braces]
  else if startsWith "continue" tokens then
    seq [word "continue", ifSeen startsLifetime lifetime]
  else if startsWith "return" tokens then
    seq [word "return", ifSeen (!endsOperand true ·) (rec (.expression braces))]
  else seq [word "yield", maybeExpression rec true]

/-- An operand with nothing in front of it or behind it. -/
def atom (braces : Bool) : Reader given (Reading given) := do
  let tokens ← get
  if startsLiteral tokens then anew literal
  else if startsAsyncBlock tokens then
    anew (seq [word "async", maybeWord "move", plainBlock rec])
  else if startsClosure tokens then anew (closure rec braces)
  else if startsBinder tokens then asIs tokens (seq [binder rec, closure rec braces])
  else if startsCompound tokens then
    return ⟨← rec .compound, startsConstantBlock tokens⟩
  else if startsPathExpression tokens then pathExpression rec braces
  else if startsGroup .parenthesis tokens then
    anew (group .parenthesis (listOf (rec (.expression true))))
  else if startsGroup .bracket tokens then anew (group .bracket (elements rec))
  else if startsWithAny ["break", "continue", "return", "yield"] tokens then
    anew (jump rec braces)
  else if startsWith "let" tokens then
    anew (seq [word "let", rec (.pattern true), punct "=", matchedValue rec])
  else if startsLifetime tokens then anew (seq [label, rec .compound])
  else asIs tokens (word "_")

/-- Whether a raw reference comes next. -/
def startsRawReference (tokens : List Token) : Bool :=
  starts "&" tokens && startsWith "raw" (tokens.drop 1)
    && startsWithAny ["const", "mut"] (tokens.drop 2)

/-- An operand with what stands in front of it and behind it, but without
attributes. -/
def bareOperand (braces : Bool) : Reader given (Reading given) := do
  let tokens ← get
  if startsRawReference tokens then
    asIs tokens (seq [punct "&", word "raw", next startsAnyWord, rec (.operand braces)])
  else if starts "&" tokens then
    anew (seq [punct "&", maybeWord "mut", rec (.operand braces)])
  else if startsWith "box" tokens then anew (seq [word "box", rec (.operand braces)])
  else if starts "*" tokens then anew (seq [punct "*", rec (.operand braces)])
  else if starts "!" tokens then anew (seq [punct "!", rec (.operand braces)])
  else if starts "-" tokens then anew (seq [punct "-", rec (.operand braces)])
  else if starts ".." tokens then anew (rangeFromStart rec braces)
  else
    let front ← atom rec braces
    let behind ← trailers rec
    return if behind.isEmpty then front else ⟨front.tokens ++ behind, false⟩

/-- An operand with all that stands in front of it and behind it. -/
def readOperand (braces : Bool) : Rewriter given := do
  return (← attributes) ++ (← bareOperand rec braces).tokens

/-! ## §5. Expressions. -/

/-- An expression. -/
def readExpression (braces : Bool) : Rewriter given := do
  return (← rec (.operand braces)) ++ (← operations rec braces).2

/-- Whether the first operand of an expression is also the outermost left one,
with no range and no conversion around it: an assignment takes a range behind
it apart, and nothing binds more than a conversion. -/
def isLeftmost (kinds : List OperatorKind) : Bool :=
  kinds.head? != some .conversion
    && kinds.find? (fun k => k = .assignment || k = .range) != some .range

/-- An expression where it stands first, behind its attributes.  If it ends in
a block it goes on only behind a dot or a question mark.  Attributes belong to
the first operand, or, if `outer` is set, to the outermost conversion or range
that begins with it. -/
def leading (outer : Bool) : Reader given (Reading given) := do
  let tokens ← get
  if startsCompound tokens then
    let front ← rec .compound
    if ← sees (fun ts => startsDot ts || starts "?" ts) then
      anew (return front ++ (← trailers rec) ++ (← operations rec true).2)
    else return ⟨front, startsConstantBlock tokens⟩
  else
    let front ← bareOperand rec true
    let behind ← operations rec true
    return ⟨front.tokens ++ behind.2, front.asIs && (!outer || isLeftmost behind.1)⟩

/-- The result of a case. -/
def readCaseResult : Rewriter given := withAttributes (leading rec false)

end ClassBridge.Phrase
