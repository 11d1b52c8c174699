/-
  ClassBridge.Text.Quoted
  ───────────────────────
  **Texts between quotation marks.**

  Quotation mark and backslash are written behind a backslash, tab, line feed
  and carriage return by their letters, and every character that cannot be
  seen on its own by its number in braces; all others, the apostrophe
  included, stand for themselves.

  The two quoted forms differ in NUL only: `quoted`, for reading, always
  writes `\0`, while `literal`, for a compiler, writes `\x00` where an octal
  digit follows.
-/
import ClassBridge.Text.Unprintable
import ClassBridge.Text.GraphemeExtend

namespace ClassBridge.Quoted

/-- The number of a character in lower-case hexadecimal digits. -/
def hexNumber (c : Char) : List Char := Nat.toDigits 16 c.toNat

/-- A character by its number. -/
def byNumber (c : Char) : List Char :=
  ['\\', 'u', '\x7b'] ++ hexNumber c ++ ['\x7d']

/-- Whether a character is a letter that only fills the place of another. -/
def isFiller (c : Char) : Bool :=
  [0x115F, 0x1160, 0x3164, 0xFFA0].contains c.toNat

/-- Whether a character is visible and does not hang on the one before it. -/
def isVisible (c : Char) : Bool :=
  if c.toNat < 0x7F then 0x20 ≤ c.toNat
  else !(GraphemeExtend.contains c || Unprintable.contains c || isFiller c)

/-- One character as it stands between quotation marks. -/
def escape (c : Char) : List Char :=
  match c with
  | '\x00' => ['\\', '0']
  | '\t' => ['\\', 't']
  | '\n' => ['\\', 'n']
  | '\r' => ['\\', 'r']
  | '"' => ['\\', '"']
  | '\\' => ['\\', '\\']
  | c => if isVisible c then [c] else byNumber c

/-- Puts quotation marks around what was escaped. -/
def surround (body : List Char) : String :=
  String.ofList ('"' :: body ++ ['"'])

/-- A text quoted for a reader. -/
def quoted (s : String) : String :=
  surround (s.toList.flatMap escape)

/-- Whether the text goes on with an octal digit. -/
def startsOctal : List Char → Bool
  | c :: _ => '0' ≤ c && c ≤ '7'
  | [] => false

/-- The inside of a string literal. -/
def literalBody : List Char → List Char
  | [] => []
  | c :: rest =>
    (if c = '\x00' && startsOctal rest then ['\\', 'x', '0', '0'] else escape c)
      ++ literalBody rest

/-- A text as a string literal. -/
def literal (s : String) : String :=
  surround (literalBody s.toList)

/-- A text as a string literal without escapes. -/
def rawLiteral (s : String) : String :=
  "r#\"" ++ s ++ "\"#"

end ClassBridge.Quoted
