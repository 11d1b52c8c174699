/-
  ClassBridge.Proofs.Text.EvaluationOrder
  ───────────────────────────────────────
  **The first fault, node by node.**

  Evaluation visits the nodes of an expression in one order: the operands from
  left to right, and then the node itself.  A node is at fault by itself, seen
  from the texts that its operands stand for:

      meaning       the text of an expression, faults aside
      nodes         the nodes in the order of evaluation
      ownFault?     what is wrong with a node, its operands aside
      firstFault?   the first of these in that order

  `denote_eq` — the reference evaluation answers with the first fault, and
  with the meaning if there is none.
-/
import ClassBridge.Proofs.Text.Decimal

namespace ClassBridge.Expr

/-! ## §1. Meanings, nodes and faults. -/

mutual

/-- The text of an expression, faults aside. -/
def meaning : Expr → List Char
  | .literal s => s.toList
  | .constant z => z.text.toList
  | .zstring operand => meaning operand
  | .digits n => Nat.toDigits 10 n
  | .replace operand old new => (meaning operand).map (Utf8.substitute old new)
  | .join operands => (meanings operands).flatten

/-- The texts of the operands. -/
def meanings : List Expr → List (List Char)
  | [] => []
  | e :: rest => meaning e :: meanings rest

end

mutual

/-- The nodes of an expression: those of its operands from left to right, then
the expression itself. -/
def nodes : Expr → List Expr
  | .literal s => [.literal s]
  | .constant z => [.constant z]
  | .zstring operand => nodes operand ++ [.zstring operand]
  | .digits n => [.digits n]
  | .replace operand old new => nodes operand ++ [.replace operand old new]
  | .join operands => operandNodes operands ++ [.join operands]

/-- The nodes of the operands from left to right. -/
def operandNodes : List Expr → List Expr
  | [] => []
  | e :: rest => nodes e ++ operandNodes rest

end

/-- A NUL in a text that is to be terminated. -/
def nulFault? (s : List Char) : Option TextFault :=
  if Char.ofNat 0 ∈ s then some .notTerminated else none

/-- What is wrong with a node, its operands aside: a literal may hold a NUL,
any other text may not, and both characters of a replacement must be ASCII. -/
def ownFault? : Expr → Option TextFault
  | .literal _ => none
  | .replace operand old new =>
    if 128 ≤ old.toNat then some .notAscii
    else if 128 ≤ new.toNat then some .notAscii
    else nulFault? (meaning (.replace operand old new))
  | e => nulFault? (meaning e)

/-- The first fault in the order of evaluation. -/
def firstFault? (e : Expr) : Option TextFault :=
  (nodes e).findSome? ownFault?

/-- The first fault among the operands. -/
def firstOperandFault? (es : List Expr) : Option TextFault :=
  (operandNodes es).findSome? ownFault?

/-! ## §2. The reference evaluation finds the first fault. -/

/-- An answer that is the given fault, or the value if there is none. -/
def answer {α : Type} (fault? : Option TextFault) (value : α) : Except TextFault α :=
  fault?.elim (.ok value) .error

theorem nulFree_eq (s : List Char) : nulFree s = answer (nulFault? s) s := by
  unfold nulFree nulFault?
  split <;> rfl

/-- A node's own fault is the first one if its operands have none. -/
theorem findSome?_append_node (es : List Expr) (e : Expr) :
    (es ++ [e]).findSome? ownFault? = (es.findSome? ownFault?).elim (ownFault? e) some := by
  rw [List.findSome?_append]
  cases es.findSome? ownFault? <;> simp

theorem firstFault?_zstring (operand : Expr) :
    firstFault? (.zstring operand)
      = (firstFault? operand).elim (ownFault? (.zstring operand)) some := by
  rw [firstFault?, nodes, findSome?_append_node, ← firstFault?]

theorem firstFault?_replace (operand : Expr) (old new : Char) :
    firstFault? (.replace operand old new)
      = (firstFault? operand).elim (ownFault? (.replace operand old new)) some := by
  rw [firstFault?, nodes, findSome?_append_node, ← firstFault?]

theorem firstFault?_join (operands : List Expr) :
    firstFault? (.join operands)
      = (firstOperandFault? operands).elim (ownFault? (.join operands)) some := by
  rw [firstFault?, nodes, findSome?_append_node, ← firstOperandFault?]

theorem firstOperandFault?_cons (e : Expr) (rest : List Expr) :
    firstOperandFault? (e :: rest) = (firstFault? e).elim (firstOperandFault? rest) some := by
  rw [firstOperandFault?, operandNodes, List.findSome?_append, ← firstFault?,
    ← firstOperandFault?]
  cases firstFault? e <;> rfl

/-- The two checks of a replacement, and then the one of its result. -/
theorem ascii_ascii_nulFree (operand : Expr) (old new : Char) :
    (do ascii old; ascii new; nulFree ((meaning operand).map (Utf8.substitute old new)))
      = answer (ownFault? (.replace operand old new)) (meaning (.replace operand old new)) := by
  by_cases ho : old.toNat < 128
  · by_cases hn : new.toNat < 128
    · rw [ownFault?, if_neg (by omega), if_neg (by omega), ← nulFree_eq, ascii, if_pos ho, ascii,
        if_pos hn, meaning]
      rfl
    · rw [ownFault?, if_neg (by omega), if_pos (by omega), ascii, if_pos ho, ascii, if_neg hn]
      rfl
  · rw [ownFault?, if_pos (by omega), ascii, if_neg ho]
    rfl

mutual

-- The recursion is that of `nodes`: where the operands are at fault neither
-- side looks at the node, and where they are not its own fault decides.

/-- **The reference evaluation answers with the first fault**, or with the
meaning if there is none. -/
theorem denote_eq : ∀ e : Expr, denote e = answer (firstFault? e) (meaning e)
  | .literal s => rfl
  | .constant z => by
    have hz : Char.ofNat 0 ∉ z.text.toList := mt Utf8.zero_mem_encode.2 z.nul_free
    have hf : firstFault? (.constant z) = none := by
      simp [firstFault?, nodes, ownFault?, nulFault?, meaning, hz]
    rw [hf, denote, meaning]
    rfl
  | .zstring operand => by
    rw [denote, denote_eq operand, firstFault?_zstring]
    cases firstFault? operand with
    | some f => rfl
    | none => exact nulFree_eq (meaning operand)
  | .digits n => by
    have hf : firstFault? (.digits n) = none := by
      simp [firstFault?, nodes, ownFault?, nulFault?, meaning, Decimal.nul_notMem_toDigits]
    rw [hf, denote, meaning]
    rfl
  | .replace operand old new => by
    rw [denote, denote_eq operand, firstFault?_replace]
    cases firstFault? operand with
    | some f => rfl
    | none => exact ascii_ascii_nulFree operand old new
  | .join operands => by
    rw [denote, denoteParts_eq operands, firstFault?_join]
    cases firstOperandFault? operands with
    | some f => rfl
    | none => exact nulFree_eq (meanings operands).flatten

theorem denoteParts_eq :
    ∀ es : List Expr, denoteParts es = answer (firstOperandFault? es) (meanings es)
  | [] => rfl
  | e :: rest => by
    rw [denoteParts, denote_eq e, denoteParts_eq rest, firstOperandFault?_cons, meanings]
    cases firstFault? e with
    | some f => rfl
    | none => cases firstOperandFault? rest <;> rfl

end

end ClassBridge.Expr
