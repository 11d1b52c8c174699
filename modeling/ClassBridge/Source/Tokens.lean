/-
  ClassBridge.Source.Tokens
  ─────────────────────────
  **Tokens made of given ones.**

  Where program text is written anew, groups and punctuation may change, and
  parts may be moved or left out; but no word, lifetime or literal is made up.
  `Tokens given` are tokens in which there is none but

      those of the given tokens,
      an underscore, for a pattern that is missing, and
      the number of a field, which is written in decimal digits.

  Whatever is put together from such tokens consists of them again, so a
  program that only works on `Tokens given` has nothing else to prove.
-/
import ClassBridge.Source.Token

namespace ClassBridge

namespace Token

/-! ## §1. What tokens are made of. -/

mutual

/-- The words, the lifetimes and the literals in a token, in order. -/
def leaves : Token → List Token
  | .punct _ _ => []
  | .group _ tokens => leavesOf tokens
  | t => [t]

/-- The words, the lifetimes and the literals in a list of tokens. -/
def leavesOf : List Token → List Token
  | [] => []
  | t :: rest => leaves t ++ leavesOf rest

end

theorem leavesOf_append (ts us : List Token) :
    leavesOf (ts ++ us) = leavesOf ts ++ leavesOf us := by
  induction ts with
  | nil => rfl
  | cons t ts ih => rw [List.cons_append, leavesOf, ih, leavesOf, List.append_assoc]

/-- Punctuation holds nothing else. -/
theorem leavesOf_mark (cs : List Char) : leavesOf (mark cs) = [] := by
  induction cs with
  | nil => rfl
  | cons c cs ih =>
    cases cs with
    | nil => rfl
    | cons d cs =>
      show leavesOf (.punct c true :: mark (d :: cs)) = []
      rw [leavesOf, ih]
      rfl

/-- A number in decimal digits. -/
def decimal (n : Nat) : Token := .literal (.number (toString n))

/-- What may be written in place of the given tokens. -/
inductive Writable (given : List Token) : Token → Prop where
  /-- What stands in them. -/
  | own {leaf : Token} (h : leaf ∈ leavesOf given) : Writable given leaf
  /-- A pattern that matches everything. -/
  | underscore : Writable given (.word "_")
  /-- The number of a field. -/
  | decimal (n : Nat) : Writable given (decimal n)

/-- Nothing in the written tokens is made up. -/
def MadeFrom (given written : List Token) : Prop :=
  ∀ leaf ∈ leavesOf written, Writable given leaf

end Token

open Token (leavesOf MadeFrom)

/-- Tokens that may be written in place of the given ones. -/
structure Tokens (given : List Token) where
  /-- The tokens. -/
  toList : List Token
  /-- Nothing in them is made up. -/
  madeFrom : MadeFrom given toList

namespace Tokens

variable {given : List Token}

instance : CoeOut (Tokens given) (List Token) := ⟨toList⟩

/-! ## §2. Tokens as they are. -/

/-- The given tokens themselves. -/
def all (tokens : List Token) : Tokens tokens := ⟨tokens, fun _ => .own⟩

instance : EmptyCollection (Tokens given) := ⟨⟨[], by simp [MadeFrom, leavesOf]⟩⟩

/-- A punctuation mark in one piece. -/
def mark (cs : List Char) : Tokens given := ⟨Token.mark cs, by simp [MadeFrom, Token.leavesOf_mark]⟩

/-- A pattern that matches everything. -/
def underscore : Tokens given where
  toList := [.word "_"]
  madeFrom := by
    intro leaf h
    rw [List.mem_singleton.1 h]
    exact .underscore

/-- The number of a field. -/
def decimal (n : Nat) : Tokens given where
  toList := [Token.decimal n]
  madeFrom := by
    intro leaf h
    rw [List.mem_singleton.1 h]
    exact .decimal n

/-- Whether there are none. -/
def isEmpty (tokens : Tokens given) : Bool := tokens.toList.isEmpty

/-- How many there are, groups counted as one. -/
def length (tokens : Tokens given) : Nat := tokens.toList.length

/-! ## §3. Tokens put together and taken apart. -/

/-- Some tokens and then others. -/
def append (ts us : Tokens given) : Tokens given where
  toList := ts.toList ++ us.toList
  madeFrom := by
    intro leaf h
    rw [Token.leavesOf_append, List.mem_append] at h
    rcases h with h | h
    · exact ts.madeFrom leaf h
    · exact us.madeFrom leaf h

instance : Append (Tokens given) := ⟨append⟩

/-- Stretches of tokens one after another. -/
def flatten (parts : List (Tokens given)) : Tokens given := parts.foldr append ∅

/-- Stretches of tokens with commas between them. -/
def separated (parts : List (Tokens given)) : Tokens given :=
  flatten (parts.intersperse (mark [',']))

/-- Tokens between delimiters. -/
def group (d : Delimiter) (inside : Tokens given) : Tokens given where
  toList := [.group d inside.toList]
  madeFrom := by
    intro leaf h
    rw [leavesOf, leavesOf, List.append_nil] at h
    exact inside.madeFrom leaf h

/-- The first tokens. -/
def take (n : Nat) (tokens : Tokens given) : Tokens given where
  toList := tokens.toList.take n
  madeFrom := by
    intro leaf h
    refine tokens.madeFrom leaf ?_
    rw [← List.take_append_drop n tokens.toList, Token.leavesOf_append]
    exact List.mem_append_left _ h

/-- The tokens behind the first ones. -/
def drop (n : Nat) (tokens : Tokens given) : Tokens given where
  toList := tokens.toList.drop n
  madeFrom := by
    intro leaf h
    refine tokens.madeFrom leaf ?_
    rw [← List.take_append_drop n tokens.toList, Token.leavesOf_append]
    exact List.mem_append_right _ h

/-- The group in front, as its delimiters and what is between them. -/
def group? (tokens : Tokens given) : Option (Delimiter × Tokens given) :=
  match h : tokens.toList with
  | .group d inside :: _ => some (d, ⟨inside, fun leaf hleaf =>
      tokens.madeFrom leaf (h ▸ List.mem_append_left _ hleaf)⟩)
  | _ => none

end Tokens
end ClassBridge
