/-
  ClassBridge.Source.Lexer
  ────────────────────────
  **From characters to tokens.**

  `Token.ofText?` reads a program text: blanks and comments separate tokens,
  words and numbers are as long as they can be, an apostrophe begins a
  character if one closes it and a lifetime otherwise, and brackets must match.
  `none` says that the text is no sequence of tokens.
-/
import ClassBridge.Source.Comment
import ClassBridge.Source.Literal

namespace ClassBridge.Token

/-! ## §1. Single pieces. -/

/-- A token, or the start or the end of a group. -/
inductive Piece where
  | token (t : Token)
  | opening (d : Delimiter)
  | closing (d : Delimiter)

/-- A literal as a piece. -/
def Piece.ofLiteral (r : Literal × List Char) : Piece × List Char :=
  (.token (.literal r.1), r.2)

/-- A string as a piece. -/
def Piece.ofString (r : TextLiteral × List Char) : Piece × List Char :=
  (.token (.literal (.text r.1)), r.2)

/-- The text of the one literal that stands for program text with an error in
it; it looks like an empty group. -/
def errorLiteral : List Char := "(/*ERROR*/)".toList

/-- A word and what follows it; one that is marked by `r#` in front may be a
keyword. -/
def splitWord (cs : List Char) : Option (String × List Char) :=
  let split (mark cs : List Char) :=
    let name := cs.takeWhile continuesWord
    match name with
    | c :: _ =>
      if startsWord c then some (String.ofList (mark ++ name), cs.drop name.length) else none
    | [] => none
  match cs with
  | 'r' :: '#' :: rest => split ['r', '#'] rest
  | _ => split [] cs

/-- What an apostrophe begins. -/
def lexApostrophe (cs body : List Char) : Option (Piece × List Char) :=
  match afterCharacter? body with
  | some rest => some (Piece.ofLiteral (otherLiteral .other cs rest))
  | none => (splitWord body).map fun r => (.token (.lifetime r.1), r.2)

/-- What a letter begins: a literal that letters introduce, or a word. -/
def lexLetter (cs : List Char) : Option (Piece × List Char) :=
  let name := cs.takeWhile continuesWord
  let rest := cs.drop name.length
  let other (kind : String → Literal) (after : Option (List Char)) :=
    after.map fun r => Piece.ofLiteral (otherLiteral kind cs r)
  let raw := lexRawString cs rest
  let introducesRaw :=
    match rest with
    | '"' :: _ => true
    | '#' :: c :: _ => c = '"' || c = '#'
    | _ => false
  match name, rest with
  | ['b'], '"' :: body => other .other ((splitBody '"' body).map fun r => r.2)
  | ['c'], '"' :: body => other .unknown ((splitBody '"' body).map fun r => r.2)
  | ['b'], '\'' :: body => other .other (afterCharacter? body)
  | ['r'], _ =>
    if introducesRaw then raw.map Piece.ofString
    else (splitWord cs).map fun r => (.token (.word r.1), r.2)
  | [c, 'r'], _ =>
    if (c = 'b' || c = 'c') && introducesRaw then
      raw.map fun r =>
        Piece.ofLiteral (if c = 'b' then .other r.1.source else .unknown r.1.source, r.2)
    else (splitWord cs).map fun r => (.token (.word r.1), r.2)
  | _, _ => (splitWord cs).map fun r => (.token (.word r.1), r.2)

/-- Whether punctuation comes next; what begins a comment is none. -/
def startsPunctuation : List Char → Bool
  | '/' :: '/' :: _ => false
  | '/' :: '*' :: _ => false
  | c :: _ => isPunct c
  | [] => false

/-- The piece at the front of a text that begins with neither a blank nor a
comment. -/
def lexPiece (cs : List Char) : Option (Piece × List Char) :=
  match cs with
  | [] => none
  | c :: rest =>
    if errorLiteral.isPrefixOf cs then
      some (Piece.ofLiteral (.unknown (String.ofList errorLiteral), cs.drop errorLiteral.length))
    else
      match opens? c, closes? c with
      | some d, _ => some (.opening d, rest)
      | none, some d => some (.closing d, rest)
      | none, none =>
        if c = '"' then (lexString cs rest).map Piece.ofString
        else if c = '\'' then lexApostrophe cs rest
        else if c.isDigit then some (Piece.ofLiteral (lexNumber cs))
        else if startsWord c then lexLetter cs
        else if isPunct c then some (.token (.punct c (startsPunctuation rest)), rest)
        else none

/-! ## §2. Pieces in a row. -/

/-- The pieces of a text; `fuel` is at least its length, since every piece and
every comment takes a character. -/
def lexPieces : (fuel : Nat) → List Char → Option (List Piece)
  | 0, cs => if cs.isEmpty then some [] else none
  | fuel + 1, cs =>
    match cs.dropWhile isBlank with
    | [] => some []
    | c :: rest =>
      match afterComment? (c :: rest), docComment? (c :: rest) with
      | some rest, _ => lexPieces fuel rest
      | none, some (tokens, rest) => (lexPieces fuel rest).map (tokens.map Piece.token ++ ·)
      | none, none =>
        match lexPiece (c :: rest) with
        | some (piece, rest) => (lexPieces fuel rest).map (piece :: ·)
        | none => none

/-! ## §3. Groups. -/

/-- Builds groups: `outer` holds the open groups with what precedes each, and
`done` what is complete of the innermost one, the last token first. -/
def nest (outer : List (Delimiter × List Token)) (done : List Token) :
    List Piece → Option (List Token)
  | [] => if outer.isEmpty then some done.reverse else none
  | .token t :: rest => nest outer (t :: done) rest
  | .opening d :: rest => nest ((d, done) :: outer) [] rest
  | .closing d :: rest =>
    match outer with
    | (e, before) :: outer =>
      if d = e then nest outer (.group d done.reverse :: before) rest else none
    | [] => none

/-- The tokens of a program text. -/
def ofText? (s : String) : Option (List Token) :=
  (lexPieces s.length s.toList).bind (nest [] [])

end ClassBridge.Token
