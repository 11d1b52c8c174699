/-
  ClassBridge.Attribute.Grammar
  ─────────────────────────────
  **The parameters in the tokens of an attribute.**

  Behind its path an attribute holds a list if there is one group in
  parentheses and nothing else, with parameters separated by commas in it; a
  comma may also close the list.  A parameter is

      a literal, where a sign may precede a number;
      a path;
      a path, an equals sign and a literal;
      a path and a group that is such a list again.

  `true` and `false` are literals unless an equals sign follows them.  The
  first thing that does not fit decides: a literal of an unknown kind has a
  fault of its own.
-/
import ClassBridge.Source.Lexer
import ClassBridge.Attribute.Basic

namespace ClassBridge

/-! ## §1. Paths. -/

namespace Path

/-- The words of a path from its first word on, and what follows. -/
def segmentsOfTokens? : List Token → Option (List String × List Token)
  | .word w :: .punct ':' true :: .punct ':' _ :: rest =>
    (segmentsOfTokens? rest).map fun r => (w :: r.1, r.2)
  | .word w :: rest => some ([w], rest)
  | _ => none

/-- The path at the front of some tokens, and what follows it. -/
def ofTokens? : List Token → Option (Path × List Token)
  | .punct ':' true :: .punct ':' _ :: rest =>
    (segmentsOfTokens? rest).map fun r => (⟨true, r.1⟩, r.2)
  | tokens => (segmentsOfTokens? tokens).map fun r => (⟨false, r.1⟩, r.2)

end Path

/-! ## §2. Parameters. -/

namespace Attribute

/-- Whether an equals sign comes next. -/
def startsEquals : List Token → Bool
  | .punct '=' _ :: _ => true
  | _ => false

/-- Whether the tokens begin with a truth value that is no name, since no equals
sign follows it. -/
def startsTruth : List Token → Bool
  | .word w :: rest => (w = "true" || w = "false") && !startsEquals rest
  | _ => false

/-- The value at the front of some tokens, `none` in it if it is not a string,
and what follows it. -/
def readLiteral : List Token → Except Fault (Option TextLiteral × List Token)
  | .literal (.unknown source) :: _ => .error (.unknownLiteral source)
  | .literal (.text t) :: rest => .ok (some t, rest)
  | .literal _ :: rest => .ok (none, rest)
  | .word w :: rest => if w = "true" || w = "false" then .ok (none, rest) else .error .notList
  | .punct '-' _ :: .literal (.number _) :: rest => .ok (none, rest)
  | _ => .error .notList

/-- Whether the tokens begin with a literal and not with a name. -/
def startsLiteral : List Token → Bool
  | .literal _ :: _ => true
  | .punct '-' _ :: .literal (.number _) :: _ => true
  | tokens => startsTruth tokens

mutual

/-- The parameter at the front of some tokens, and what follows it; `fuel` is
at least the number of tokens, those in groups included. -/
def readParam (fuel : Nat) (tokens : List Token) : Except Fault (Param × List Token) :=
  if startsLiteral tokens then (readLiteral tokens).map fun r => (.other, r.2)
  else
    match Path.ofTokens? tokens with
    | none => .error .notList
    | some (path, .punct '=' _ :: rest) =>
      (readLiteral rest).map fun r => (.value path r.1, r.2)
    | some (_, .group .parenthesis inner :: rest) =>
      match fuel with
      | 0 => .error .notList
      | fuel + 1 => (readParams fuel inner).map fun _ => (.other, rest)
    | some (path, rest) => .ok (.flag path, rest)
termination_by (fuel, 0)

/-- The parameters of a list without its parentheses. -/
def readParams (fuel : Nat) (tokens : List Token) : Except Fault (List Param) :=
  if tokens.isEmpty then .ok []
  else
    match readParam fuel tokens with
    | .error f => .error f
    | .ok (p, []) => .ok [p]
    | .ok (p, .punct ',' _ :: rest) =>
      match fuel with
      | 0 => .error .notList
      | fuel + 1 => (readParams fuel rest).map fun ps => p :: ps
    | .ok _ => .error .notList
termination_by (fuel, 1)

end

/-- The parameters that an attribute holds behind its path.  A value behind an
equals sign is read too, and refused, and so is a list with anything behind
it. -/
def readContent : List Token → Except Fault (List Param)
  | .group .parenthesis inner :: rest =>
    (readParams (Token.sizes inner) inner).bind fun params =>
      if rest.isEmpty then .ok params else .error .notList
  | .punct '=' _ :: rest => (readLiteral rest).bind fun _ => .error .notList
  | _ => .error .notList

/-- The attribute that some tokens stand for: a path, and what it holds. -/
def ofTokens? (tokens : List Token) : Option Attribute :=
  (Path.ofTokens? tokens).map fun r => ⟨r.1, readContent r.2⟩

end Attribute
end ClassBridge
