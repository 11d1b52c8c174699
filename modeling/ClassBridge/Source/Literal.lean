/-
  ClassBridge.Source.Literal
  ──────────────────────────
  **Literals.**

  Strings with and without escapes, numbers, characters, byte strings, and C
  strings, which are a kind of their own.  Each reader begins behind the first
  mark of its literal, is told where the literal itself begins, and returns
  what follows it; a word that stands directly behind a literal belongs to it.
-/
import ClassBridge.Source.Character

namespace ClassBridge.Token

/-! ## §1. Bodies. -/

/-- The value of a hexadecimal digit. -/
def hexDigit? (c : Char) : Option Nat :=
  if c.isDigit then some (c.toNat - 48)
  else if 'a' ≤ c && c ≤ 'f' then some (c.toNat - 87)
  else if 'A' ≤ c && c ≤ 'F' then some (c.toNat - 55)
  else none

/-- The value of hexadecimal digits, among which underscores do not count. -/
def hexValue? (digits : List Char) : Option Nat :=
  (digits.filter (· ≠ '_')).foldlM (fun n c => (hexDigit? c).map (16 * n + ·)) 0

/-- A body up to the closing mark, where a backslash protects the character
behind it, and what follows the mark. -/
def splitBody (mark : Char) : List Char → Option (List Char × List Char)
  | [] => none
  | '\\' :: c :: rest => (splitBody mark rest).map fun r => ('\\' :: c :: r.1, r.2)
  | c :: rest =>
    if c = mark then some ([], rest) else (splitBody mark rest).map fun r => (c :: r.1, r.2)

/-- A body up to a quotation mark with `count` number signs behind it. -/
def splitRawBody (count : Nat) : List Char → Option (List Char × List Char)
  | [] => none
  | c :: rest =>
    if c = '"' && rest.take count = List.replicate count '#' then some ([], rest.drop count)
    else (splitRawBody count rest).map fun r => (c :: r.1, r.2)

/-- What a backslash at the end of a line leaves out. -/
def isLineBlank (c : Char) : Bool :=
  c = ' ' || c = '\t' || c = '\n' || c = '\r'

/-- The text of a body with escapes; `fuel` is at least the body's length.  The
end of a line is a line feed, however it is written. -/
def unescape : (fuel : Nat) → List Char → Option (List Char)
  | _, [] => some []
  | 0, _ => none
  | fuel + 1, '\\' :: c :: rest =>
    let go (d : Char) (rest : List Char) := (unescape fuel rest).map (d :: ·)
    match c with
    | 'n' => go '\n' rest
    | 'r' => go '\r' rest
    | 't' => go '\t' rest
    | '0' => go '\x00' rest
    | '\\' => go '\\' rest
    | '\'' => go '\'' rest
    | '"' => go '"' rest
    | '\n' => unescape fuel (rest.dropWhile isLineBlank)
    | '\r' => unescape fuel (rest.dropWhile isLineBlank)
    | 'x' =>
      match hexValue? (rest.take 2) with
      | some n => go (Char.ofNat n) (rest.drop 2)
      | none => none
    | 'u' =>
      let digits := (rest.drop 1).takeWhile (· ≠ '\x7d')
      match hexValue? digits with
      | some n => go (Char.ofNat n) (rest.drop (digits.length + 2))
      | none => none
    | _ => none
  | fuel + 1, '\r' :: '\n' :: rest => (unescape fuel rest).map ('\n' :: ·)
  | fuel + 1, c :: rest => (unescape fuel rest).map (c :: ·)

/-! ## §2. Strings. -/

/-- A string with escapes. -/
def lexString (start body : List Char) : Option (TextLiteral × List Char) := do
  let (inside, rest) ← splitBody '"' body
  let value ← unescape inside.length inside
  let rest := afterSuffix rest
  some (⟨String.ofList value, taken start rest⟩, rest)

/-- A string without escapes, behind the letters that introduce it: as many
number signs as stand in front of it must stand behind it. -/
def lexRawString (start body : List Char) : Option (TextLiteral × List Char) := do
  let signs := body.takeWhile (· = '#')
  match body.drop signs.length with
  | '"' :: inner =>
    let (inside, rest) ← splitRawBody signs.length inner
    let rest := afterSuffix rest
    some (⟨String.ofList inside, taken start rest⟩, rest)
  | _ => none

/-- A literal that is neither a text nor a number, of the given kind. -/
def otherLiteral (kind : String → Literal) (start rest : List Char) : Literal × List Char :=
  let rest := afterSuffix rest
  (kind (taken start rest), rest)

/-- What follows a character and its closing apostrophe. -/
def afterCharacter? : List Char → Option (List Char)
  | '\\' :: _ :: rest =>
    match rest.dropWhile (· ≠ '\'') with
    | _ :: rest => some rest
    | [] => none
  | _ :: '\'' :: rest => some rest
  | _ => none

/-! ## §3. Numbers. -/

/-- What follows the fraction of a number: no second point and no word may
stand behind the point. -/
def afterFraction (cs : List Char) : List Char :=
  match cs with
  | '.' :: rest =>
    match rest with
    | [] => []
    | c :: _ => if c = '.' || startsWord c then cs else rest.dropWhile continuesDecimal
  | _ => cs

/-- What follows the sign of an exponent. -/
def afterSign (cs : List Char) : List Char :=
  match cs with
  | '+' :: rest => rest
  | '-' :: rest => rest
  | _ => cs

/-- What follows the exponent of a number, which has a digit in it; underscores
may stand on both sides of the sign. -/
def afterExponent (cs : List Char) : List Char :=
  match cs with
  | c :: rest =>
    let unsigned := afterSign (rest.dropWhile (· = '_'))
    let digits := unsigned.takeWhile continuesDecimal
    if (c = 'e' || c = 'E') && digits.any Char.isDigit then unsigned.drop digits.length
    else cs
  | [] => []

/-- A number: digits, a fraction, an exponent, and a word as its suffix, of
which only the digits must be there.  The digits of another base than ten, and
the letter that gives the base, count as a suffix. -/
def lexNumber (cs : List Char) : Literal × List Char :=
  let rest := afterSuffix (afterExponent (afterFraction (cs.dropWhile continuesDecimal)))
  (.number (taken cs rest), rest)

end ClassBridge.Token
