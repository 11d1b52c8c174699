/-
  ClassBridge.Source.Reader
  ─────────────────────────
  **Reading tokens from the front of a list.**

  A reader takes tokens away and returns them as they are to be written: each
  punctuation mark in one piece and apart from its neighbours, whatever stood
  between them before.  What it returns may be written in place of the tokens
  that were given in the beginning; this is a matter of its type.

      punct       a punctuation mark of one or more characters
      word        a given word
      group       a group, whose tokens another reader must use up
      verbatim    what another reader takes away, written as it was
      listOf      items with separators between them
-/
import ClassBridge.Source.Tokens

namespace ClassBridge

/-- Why tokens cannot be read. -/
inductive Misfit where
  /-- They do not fit. -/
  | unfit
  /-- A literal of an unknown kind stands where a literal may stand. -/
  | unknownLiteral (source : String)
  deriving Repr, DecidableEq

/-- Takes tokens from the front of a list, if they fit; the list is made of the
given tokens. -/
abbrev Reader (given : List Token) (α : Type) := StateT (Tokens given) (Except Misfit) α

/-- A reader that returns what it takes away as it is to be written. -/
abbrev Rewriter (given : List Token) := Reader given (Tokens given)

namespace Reader

variable {given : List Token}

/-- Gives up at what comes next. -/
def refuse {α : Type} : Reader given α := do
  match (← get).toList with
  | .literal (.unknown source) :: _ => throw (.unknownLiteral source)
  | _ => throw .unfit

/-! ## §1. What comes next. -/

/-- Whether the tokens begin with the given characters of punctuation, all but
the last joined to the next one. -/
def startsMark : List Char → List Token → Bool
  | [], _ => true
  | [c], .punct d _ :: _ => c = d
  | c :: cs, .punct d true :: rest => c = d && startsMark cs rest
  | _, _ => false

/-- Whether the tokens begin with a punctuation mark. -/
def starts (mark : String) (tokens : List Token) : Bool :=
  startsMark mark.toList tokens

/-- Whether the tokens begin with the given word. -/
def startsWith (name : String) : List Token → Bool
  | .word w :: _ => w = name
  | _ => false

/-- Whether the tokens begin with one of the given words. -/
def startsWithAny (names : List String) : List Token → Bool
  | .word w :: _ => names.contains w
  | _ => false

/-- Whether the tokens begin with a group. -/
def startsGroup (d : Delimiter) : List Token → Bool
  | .group e _ :: _ => d = e
  | _ => false

/-- Whether the tokens begin with a lifetime. -/
def startsLifetime : List Token → Bool
  | .lifetime _ :: _ => true
  | _ => false

/-- The words that are no names. -/
def keywords : List String :=
  ["_", "abstract", "as", "become", "box", "break", "const", "continue", "crate", "do", "else",
    "enum", "extern", "false", "final", "fn", "for", "if", "impl", "in", "let", "loop", "macro",
    "match", "mod", "move", "mut", "override", "priv", "pub", "ref", "return", "Self", "self",
    "static", "struct", "super", "trait", "true", "type", "typeof", "unsafe", "unsized", "use",
    "virtual", "where", "while", "yield"]

/-- Whether the tokens begin with a word. -/
def startsAnyWord : List Token → Bool
  | .word _ :: _ => true
  | _ => false

/-- Whether the tokens begin with a name. -/
def startsName : List Token → Bool
  | .word w :: _ => !keywords.contains w
  | _ => false

/-- Whether the tokens begin with a literal: a truth value is one, and so is a
number with a sign. -/
def startsLiteral : List Token → Bool
  | .literal (.unknown _) :: _ => false
  | .literal _ :: _ => true
  | .word w :: _ => w = "true" || w = "false"
  | .punct '-' _ :: .literal (.number _) :: _ => true
  | _ => false

/-- Whether the tokens begin with a string. -/
def startsText : List Token → Bool
  | .literal (.text _) :: _ => true
  | _ => false

/-- Whether the tokens begin with a number. -/
def startsNumber : List Token → Bool
  | .literal (.number _) :: _ => true
  | _ => false

/-! ## §2. Single tokens. -/

/-- Whether what comes next has a property. -/
def sees (p : List Token → Bool) : Reader given Bool := do
  return p (← get)

/-- A punctuation mark. -/
def punct (s : String) : Rewriter given := do
  let tokens ← get
  if starts s tokens then
    set (tokens.drop s.length)
    return .mark s.toList
  else refuse

/-- The next token, if it has a property. -/
def next (p : List Token → Bool) : Rewriter given := do
  let tokens ← get
  if !tokens.isEmpty && p tokens then
    set (tokens.drop 1)
    return tokens.take 1
  else refuse

/-- A given word. -/
def word (name : String) : Rewriter given := next (startsWith name)

/-- A name. -/
def name : Rewriter given := next startsName

/-- A lifetime. -/
def lifetime : Rewriter given := next startsLifetime

/-- A literal; a number may have a sign. -/
def literal : Rewriter given := do
  match (← get).toList with
  | .punct '-' _ :: .literal (.number _) :: _ => return (← punct "-") ++ (← next startsNumber)
  | _ => next startsLiteral

/-! ## §3. Combinations. -/

/-- What a reader reads if the tokens begin as asked, and nothing otherwise. -/
def ifSeen (p : List Token → Bool) (r : Rewriter given) : Rewriter given := do
  if ← sees p then r else return ∅

/-- A word that may be missing. -/
def maybeWord (name : String) : Rewriter given :=
  ifSeen (startsWith name) (word name)

/-- A punctuation mark that may be missing. -/
def maybePunct (s : String) : Rewriter given :=
  ifSeen (starts s) (punct s)

/-- One reading after another. -/
def seq (readers : List (Rewriter given)) : Rewriter given := do
  return .flatten (← readers.mapM id)

/-- What a reader makes of all of some tokens. -/
def all {α : Type} (r : Reader given α) (tokens : Tokens given) : Except Misfit α :=
  match r.run tokens with
  | .ok (out, rest) => if rest.isEmpty then .ok out else .error .unfit
  | .error f => .error f

/-- A group whose tokens a reader uses up. -/
def group (d : Delimiter) (inner : Rewriter given) : Rewriter given := do
  let tokens ← get
  match tokens.group? with
  | some (e, inside) =>
    if d = e then
      let out ← all inner inside
      set (tokens.drop 1)
      return .group d out
    else refuse
  | none => refuse

/-- A group as it stands. -/
def anyGroup : Rewriter given := do
  let tokens ← get
  if tokens.group?.isSome then next fun _ => true else refuse

/-- What has been taken away from the given tokens, as it was. -/
def taken (tokens : Tokens given) : Rewriter given := do
  return tokens.take (tokens.length - (← get).length)

/-- What a reader takes away, written as it was. -/
def verbatim (r : Rewriter given) : Rewriter given := do
  let tokens ← get
  let _ ← r
  taken tokens

/-- Readings one after another, as long as the tokens begin as asked; `fuel` is
at least the number of readings. -/
def repeatWhile (fuel : Nat) (p : List Token → Bool) (r : Rewriter given) :
    Rewriter given :=
  match fuel with
  | 0 => return ∅
  | fuel + 1 => do
    if ← sees p then
      let out ← r
      return out ++ (← repeatWhile fuel p r)
    else return ∅

/-- Readings one after another, as long as the tokens begin as asked; each
takes a token away. -/
def many (p : List Token → Bool) (r : Rewriter given) : Rewriter given := do
  repeatWhile (← get).length p r

/-- Items up to where a list ends, with separators between them; one may also
stand behind the last item. -/
def itemsUntil (fuel : Nat) (p : List Token → Bool) (separator : String)
    (item : Rewriter given) : Rewriter given :=
  match fuel with
  | 0 => return ∅
  | fuel + 1 => do
    if ← sees p then return ∅
    let out ← item
    if ← sees (starts separator) then
      let comma ← punct separator
      return out ++ comma ++ (← itemsUntil fuel p separator item)
    else return out

/-- Items with commas between them, up to where the list ends. -/
def listUntil (p : List Token → Bool) (item : Rewriter given) : Rewriter given := do
  itemsUntil ((← get).length + 1) p "," item

/-- Items with commas between them, up to the last token. -/
def listOf (item : Rewriter given) : Rewriter given :=
  listUntil List.isEmpty item

end Reader
end ClassBridge
