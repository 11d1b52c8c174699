/-
  ClassBridge.Source.Token
  ────────────────────────
  **Program text as a tree of tokens.**

  A token is a word, a lifetime, a literal, a single punctuation character
  that may be joined to the one behind it, or a group of tokens between
  delimiters.  `Token.render` writes tokens with one space between them; only
  joined punctuation is followed by none, whatever comes behind it, and
  nothing separates round and square brackets from what they hold.
-/
import ClassBridge.Text.Quoted

namespace ClassBridge

/-- What encloses a group. -/
inductive Delimiter where
  | parenthesis
  | bracket
  | brace
  deriving Repr, DecidableEq

/-- A string literal: the text it stands for, and how it is written. -/
structure TextLiteral where
  /-- The text. -/
  value : String
  /-- The literal in the program text. -/
  source : String
  deriving Repr, DecidableEq

namespace TextLiteral

/-- The literal with escapes that stands for a text. -/
def quoted (s : String) : TextLiteral := ⟨s, Quoted.literal s⟩

/-- The literal without escapes that stands for a text. -/
def raw (s : String) : TextLiteral := ⟨s, Quoted.rawLiteral s⟩

end TextLiteral

/-- A literal. -/
inductive Literal where
  /-- A string. -/
  | text (t : TextLiteral)
  /-- A number. -/
  | number (source : String)
  /-- A character or a byte string. -/
  | other (source : String)
  /-- A literal of which it is not known what it stands for. -/
  | unknown (source : String)
  deriving Repr, DecidableEq

/-- The literal in the program text. -/
def Literal.source : Literal → String
  | .text t => t.source
  | .number source => source
  | .other source => source
  | .unknown source => source

/-- A token. -/
inductive Token where
  /-- A word, keywords included. -/
  | word (name : String)
  /-- A lifetime, without its apostrophe. -/
  | lifetime (name : String)
  /-- A literal. -/
  | literal (l : Literal)
  /-- A punctuation character, and whether another one follows at once. -/
  | punct (c : Char) (joint : Bool)
  /-- The tokens between two delimiters. -/
  | group (d : Delimiter) (tokens : List Token)

namespace Token

mutual

/-- How deep groups are nested in a token. -/
def depth : Token → Nat
  | .group _ tokens => depths tokens + 1
  | _ => 0

/-- How deep groups are nested in a list of tokens. -/
def depths : List Token → Nat
  | [] => 0
  | t :: rest => max (depth t) (depths rest)

end

/-- Tokens between delimiters, already written. -/
def enclose (d : Delimiter) (inner : String) : String :=
  match d with
  | .parenthesis => "(" ++ inner ++ ")"
  | .bracket => "[" ++ inner ++ "]"
  | .brace => if inner.isEmpty then "\x7b \x7d" else "\x7b " ++ inner ++ " \x7d"

/-- Whether the next token is written directly behind this one. -/
def isJoint : Token → Bool
  | .punct _ joint => joint
  | _ => false

/-- What separates two tokens. -/
def gap (t : Token) (rest : List Token) : String :=
  if t.isJoint || rest.isEmpty then "" else " "

mutual

/-- One token. -/
def write : Token → String
  | .word name => name
  | .lifetime name => "'" ++ name
  | .literal l => l.source
  | .punct c _ => String.singleton c
  | .group d tokens => enclose d (render tokens)

/-- Tokens with single spaces between them, but none behind joined ones. -/
def render : List Token → String
  | [] => ""
  | t :: rest => write t ++ gap t rest ++ render rest

end

/-- A punctuation mark in one piece. -/
def mark : List Char → List Token
  | [] => []
  | [c] => [.punct c false]
  | c :: cs => .punct c true :: mark cs

/-- A comma. -/
def comma : List Token := [.punct ',' false]

/-- Stretches of tokens with commas between them. -/
def separated (parts : List (List Token)) : List Token := (parts.intersperse comma).flatten

mutual

/-- How many tokens there are in a token. -/
def size : Token → Nat
  | .group _ tokens => sizes tokens + 1
  | _ => 1

/-- How many tokens there are in a list of tokens, groups included. -/
def sizes : List Token → Nat
  | [] => 0
  | t :: rest => size t + sizes rest

end

end Token
end ClassBridge
