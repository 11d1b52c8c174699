/-
  ClassBridge.Text.Expr
  ─────────────────────
  **Expressions that build terminated texts.**

  Operands are literal texts, terminated texts made elsewhere, and other
  expressions.  There are two ways to evaluate an expression:

      eval     on bytes: the length is computed first, a buffer of that size
               is filled and terminated, and the result is read as a
               `ZString`
      denote   on characters: a numeral, a character-wise substitution, a
               concatenation, each refused if it holds a NUL

  Both evaluate operands from left to right before the expression itself, and
  the first fault in that order is the answer.
-/
import ClassBridge.Text.Decimal
import ClassBridge.Text.ZString

namespace ClassBridge

/-- An expression over texts. -/
inductive Expr where
  /-- A literal text; alone it is not terminated and may hold a NUL. -/
  | literal (s : String)
  /-- A terminated text made before. -/
  | constant (z : ZString)
  /-- The operand, terminated. -/
  | zstring (operand : Expr)
  /-- The decimal numeral of a number. -/
  | digits (n : Nat)
  /-- The operand with one ASCII character put in place of another. -/
  | replace (operand : Expr) (old new : Char)
  /-- The operands one after another. -/
  | join (operands : List Expr)

namespace Expr

/-! ## §1. Evaluation on bytes. -/

/-- What an expression evaluates to. -/
inductive Value where
  /-- A literal text. -/
  | plain (s : String)
  /-- A terminated text. -/
  | terminated (z : ZString)

/-- The content bytes of a value. -/
def Value.bytes : Value → List UInt8
  | .plain s => Utf8.encode s
  | .terminated z => z.bytes

/-- Terminates the content of a buffer. -/
def finish {size : Nat} (buffer : Buffer size) : Except TextFault Value :=
  .terminated <$> ZString.ofContent buffer.toList

mutual

/-- The value of an expression, or the first fault. -/
def eval : Expr → Except TextFault Value
  | .literal s => .ok (.plain s)
  | .constant z => .ok (.terminated z)
  | .zstring operand => do
    let v ← eval operand
    .terminated <$> ZString.ofContent v.bytes
  | .digits n => do
    let buffer ← Decimal.numeral (Decimal.digitCount n) n
    finish buffer
  | .replace operand old new => do
    let v ← eval operand
    let source := v.bytes
    let oldByte ← asciiByte old
    let newByte ← asciiByte new
    let buffer ← Buffer.replace source.length source oldByte newByte
    finish buffer
  | .join operands => do
    let parts ← evalParts operands
    let buffer ← Buffer.join (Buffer.totalLength parts) parts
    finish buffer

/-- The content bytes of the operands, from left to right. -/
def evalParts : List Expr → Except TextFault (List (List UInt8))
  | [] => .ok []
  | e :: rest => do
    let v ← eval e
    let parts ← evalParts rest
    .ok (v.bytes :: parts)

end

/-- The terminated text that an expression builds; a literal on its own is
terminated as it stands. -/
def build (e : Expr) : Except TextFault ZString := do
  match ← eval e with
  | .plain s => ZString.ofText s
  | .terminated z => .ok z

/-! ## §2. Evaluation on characters. -/

/-- A text in which a terminator would be the only NUL. -/
def nulFree (s : List Char) : Except TextFault (List Char) :=
  if Char.ofNat 0 ∈ s then .error .notTerminated else .ok s

/-- Accepts ASCII characters only. -/
def ascii (c : Char) : Except TextFault Unit :=
  if c.toNat < 128 then .ok () else .error .notAscii

mutual

/-- The characters that an expression stands for, or the first fault. -/
def denote : Expr → Except TextFault (List Char)
  | .literal s => .ok s.toList
  | .constant z => .ok z.text.toList
  | .zstring operand => do nulFree (← denote operand)
  | .digits n => .ok (Nat.toDigits 10 n)
  | .replace operand old new => do
    let s ← denote operand
    ascii old
    ascii new
    nulFree (s.map fun c => if c = old then new else c)
  | .join operands => do nulFree (← denoteParts operands).flatten

/-- The characters of the operands, from left to right. -/
def denoteParts : List Expr → Except TextFault (List (List Char))
  | [] => .ok []
  | e :: rest => do
    let s ← denote e
    let parts ← denoteParts rest
    .ok (s :: parts)

end

end Expr
end ClassBridge
