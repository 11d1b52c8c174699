/-
  ClassBridge.Source.Comment
  ──────────────────────────
  **Comments.**

  A comment goes to the end of its line, or up to its end mark; comments with
  an end mark may stand inside each other.  One that documents something is
  not dropped: it stands for an attribute named `doc` with the text of the
  comment.

      afterComment?    what follows a comment that is dropped
      docComment?      the tokens that a documenting comment stands for, and
                       what follows it
-/
import ClassBridge.Source.Character

namespace ClassBridge.Token

/-! ## §1. Comments that are dropped. -/

/-- Whether a comment begins that goes to the end of the line. -/
def startsLineComment : List Char → Bool
  | '/' :: '/' :: '!' :: _ => false
  | '/' :: '/' :: '/' :: '/' :: _ => true
  | '/' :: '/' :: '/' :: _ => false
  | '/' :: '/' :: _ => true
  | _ => false

/-- Whether a comment begins that has an end mark. -/
def startsBlockComment : List Char → Bool
  | '/' :: '*' :: '!' :: _ => false
  | '/' :: '*' :: '*' :: '/' :: _ => true
  | '/' :: '*' :: '*' :: '*' :: _ => true
  | '/' :: '*' :: '*' :: _ => false
  | '/' :: '*' :: _ => true
  | _ => false

/-- What follows the end mark, with `level` more comments to end before. -/
def afterEndMark : (level : Nat) → List Char → Option (List Char)
  | _, [] => none
  | level, '/' :: '*' :: rest => afterEndMark (level + 1) rest
  | 0, '*' :: '/' :: rest => some rest
  | level + 1, '*' :: '/' :: rest => afterEndMark level rest
  | level, _ :: rest => afterEndMark level rest

/-- What follows the comment at the front of a text, if there is one that is
dropped. -/
def afterComment? (cs : List Char) : Option (List Char) :=
  if startsLineComment cs then some (cs.dropWhile (· ≠ '\n'))
  else if startsBlockComment cs then afterEndMark 0 (cs.drop 2)
  else none

/-! ## §2. Comments that document something. -/

/-- A line without its end, which may be a carriage return and a line feed,
and what follows it. -/
def splitLine (cs : List Char) : List Char × List Char :=
  let line := cs.takeWhile (· ≠ '\n')
  let rest := cs.drop line.length
  if !rest.isEmpty && line.getLast? = some '\r' then (line.dropLast, rest) else (line, rest)

/-- The inside of a comment with an end mark, behind the three characters that
begin it, and what follows it. -/
def splitBlock (cs : List Char) : Option (List Char × List Char) :=
  (afterEndMark 0 (cs.drop 2)).map fun rest =>
    ((cs.drop 3).take (cs.length - rest.length - 5), rest)

/-- The attribute that a documenting comment stands for; an inner one belongs
to what it stands in. -/
def docAttribute (inner : Bool) (text : List Char) : List Token :=
  .punct '#' false :: (if inner then [.punct '!' false] else [])
    ++ [.group .bracket [.word "doc", .punct '=' false,
      .literal (.text (.quoted (String.ofList text)))]]

/-- The tokens that the documenting comment at the front of a text stands for,
and what follows it. -/
def docComment? (cs : List Char) : Option (List Token × List Char) :=
  match cs with
  | '/' :: '/' :: '!' :: rest =>
    let (text, rest) := splitLine rest
    some (docAttribute true text, rest)
  | '/' :: '/' :: '/' :: rest =>
    if rest.head? = some '/' then none
    else
      let (text, rest) := splitLine rest
      some (docAttribute false text, rest)
  | '/' :: '*' :: '!' :: _ => (splitBlock cs).map fun r => (docAttribute true r.1, r.2)
  | '/' :: '*' :: '*' :: c :: _ =>
    if c = '*' || c = '/' then none
    else (splitBlock cs).map fun r => (docAttribute false r.1, r.2)
  | _ => none

end ClassBridge.Token
