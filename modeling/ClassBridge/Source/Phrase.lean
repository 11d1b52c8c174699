/-
  ClassBridge.Source.Phrase
  ─────────────────────────
  **Program text with the spaces that belong to it.**

  `Phrase.read` reads a phrase of any kind, nested up to a given depth, and
  `Phrase.respaced` all of some tokens as one phrase, up to a depth that grows
  with their number.  Tokens that are no such phrase do not fit.

  Main statement: `madeFrom_of_respaced` — whatever is moved, left out or spaced
  anew, no word and no literal is written that was not read, but for an
  underscore in place of a pattern and the numbers of fields.
-/
import ClassBridge.Source.Phrase.Statement

namespace ClassBridge.Phrase

variable {given : List Token}

/-- Reads a phrase by way of a reader for the phrases in it. -/
def readBy (rec : Readers given) : Readers given
  | .path inExpression => readPath rec inExpression
  | .arguments => readArguments rec
  | .type plus => readType rec plus
  | .bounds plus => readBounds rec plus
  | .parameterBounds => readParameterBounds rec
  | .conditions => readConditions rec
  | .expression braces => readExpression rec braces
  | .operand braces => readOperand rec braces
  | .compound => readCompound rec
  | .caseResult => readCaseResult rec
  | .pattern bars => readPattern rec bars
  | .statements => readStatements rec
  | .declarations => readDeclarations rec

/-- Reads a phrase in which phrases are nested less deep than `fuel`. -/
def read : (fuel : Nat) → Readers given
  | 0 => fun _ => Reader.refuse
  | fuel + 1 => readBy (read fuel)

/-- No more than this many phrases begin at the same token: each of them is
read as part of the one before it, and no kind comes twice. -/
def nesting : Nat := 16

/-- All of some tokens read as one phrase. -/
def rewritten (p : Phrase) (tokens : List Token) : Except Misfit (Tokens tokens) :=
  Reader.all (read (nesting * (Token.sizes tokens + 1)) p) (.all tokens)

/-- All of some tokens as one phrase, with the spaces that belong to it. -/
def respaced (p : Phrase) (tokens : List Token) : Except Misfit (List Token) :=
  (p.rewritten tokens).map Tokens.toList

/-- **No word and no literal is made up**: what is written may be written in place
of what was read. -/
theorem madeFrom_of_respaced {p : Phrase} {tokens written : List Token}
    (h : p.respaced tokens = .ok written) : Token.MadeFrom tokens written := by
  unfold respaced at h
  cases hread : p.rewritten tokens with
  | error f =>
    rw [hread] at h
    cases h
  | ok out =>
    rw [hread] at h
    obtain rfl : out.toList = written := Except.ok.inj h
    exact out.madeFrom

end ClassBridge.Phrase
