/-
  ClassBridge.Source.Character
  ────────────────────────────
  **Characters of program text.**

  What separates tokens, what words and numbers are made of, what counts as
  punctuation, and what encloses a group.  Beyond ASCII every character that
  does not separate tokens belongs to words.
-/
import ClassBridge.Source.Token

namespace ClassBridge.Token

/-- Whether a character separates tokens: white space in the sense of Unicode,
and the two marks that set the direction of writing. -/
def isBlank (c : Char) : Bool :=
  let n := c.toNat
  (0x09 ≤ n && n ≤ 0x0D) || n = 0x20 || n = 0x85 || n = 0xA0 || n = 0x1680
    || (0x2000 ≤ n && n ≤ 0x200A) || n = 0x200E || n = 0x200F || n = 0x2028 || n = 0x2029
    || n = 0x202F || n = 0x205F || n = 0x3000

/-- Whether a word may begin with the character. -/
def startsWord (c : Char) : Bool :=
  c.isAlpha || c = '_' || (0x80 ≤ c.toNat && !isBlank c)

/-- Whether a word may go on with the character. -/
def continuesWord (c : Char) : Bool :=
  startsWord c || c.isDigit

/-- Whether a decimal number may go on with the character. -/
def continuesDecimal (c : Char) : Bool :=
  c.isDigit || c = '_'

/-- Whether the character is punctuation. -/
def isPunct (c : Char) : Bool :=
  "~!@#$%^&*-=+|;:,<.>/?'".toList.contains c

/-- The delimiter that a character opens. -/
def opens? : Char → Option Delimiter
  | '(' => some .parenthesis
  | '[' => some .bracket
  | '\x7b' => some .brace
  | _ => none

/-- The delimiter that a character closes. -/
def closes? : Char → Option Delimiter
  | ')' => some .parenthesis
  | ']' => some .bracket
  | '\x7d' => some .brace
  | _ => none

/-- What was taken from the front of a text to leave the rest. -/
def taken (cs rest : List Char) : String :=
  String.ofList (cs.take (cs.length - rest.length))

/-- What follows a word that may stand directly behind a literal. -/
def afterSuffix (cs : List Char) : List Char :=
  match cs with
  | c :: _ => if startsWord c then cs.dropWhile continuesWord else cs
  | [] => []

/-- White space of ASCII separates tokens. -/
theorem isBlank_of_isWhitespace {c : Char} (h : c.isWhitespace = true) : isBlank c = true := by
  simp only [Char.isWhitespace, Bool.or_eq_true, decide_eq_true_eq] at h
  rcases h with ((rfl | rfl) | rfl) | rfl <;> decide

end ClassBridge.Token
