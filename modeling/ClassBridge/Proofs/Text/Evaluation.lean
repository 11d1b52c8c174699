/-
  ClassBridge.Proofs.Text.Evaluation
  ──────────────────────────────────
  **Evaluation on bytes and evaluation on characters agree.**

  A value's bytes are the encoding of its text, and each builder does to the
  encoding what the reference evaluation does to the text:

      digits     a numeral's buffer is the encoding of the numeral
      replace    substituting an ASCII byte substitutes the character
      join       joined encodings are the encoding of the joined text

  Every buffer gets the size it asks for and holds the encoding of a text, so
  of all faults only two are left: a character outside ASCII, and a NUL in a
  text to be terminated.  `eval_denote` states all of this for `build`, too.
-/
import ClassBridge.Proofs.Text.EvaluationOrder
import ClassBridge.Proofs.Text.Joining
import ClassBridge.Proofs.Text.Termination

namespace ClassBridge.Expr

/-! ## §1. The text of a value. -/

/-- The characters of a value. -/
def Value.characters : Value → List Char
  | .plain s => s.toList
  | .terminated z => z.text.toList

/-- The encoding of a list of characters. -/
def encoded (s : List Char) : List UInt8 := Utf8.encode (String.ofList s)

theorem Value.bytes_eq (v : Value) : v.bytes = encoded v.characters := by
  unfold encoded
  cases v with
  | plain s => exact congrArg Utf8.encode String.ofList_toList.symm
  | terminated z => exact congrArg Utf8.encode String.ofList_toList.symm

/-! ## §2. Builders on encodings. -/

/-- A terminated encoding is the text, unless that holds a NUL. -/
theorem characters_ofContent (s : List Char) :
    (Value.terminated <$> ZString.ofContent (encoded s)).map Value.characters = nulFree s := by
  rw [← ZString.characters_ofContent_encode]
  show _ = (ZString.ofContent (encoded s)).map fun z => z.text.toList
  cases ZString.ofContent (encoded s) <;> rfl

/-- A buffer that holds an encoding is finished as its text. -/
theorem characters_finish {size : Nat} {buffer : Buffer size} {s : List Char}
    (h : buffer.toList = encoded s) : (finish buffer).map Value.characters = nulFree s := by
  rw [finish, h, characters_ofContent]

theorem characters_digits (n : Nat) :
    (eval (.digits n)).map Value.characters = .ok (Nat.toDigits 10 n) := by
  rw [eval, Decimal.numeral_digitCount]
  show (finish (Buffer.ofList _ _)).map Value.characters = _
  rw [characters_finish (s := Nat.toDigits 10 n)
      ((Buffer.toList_ofList _).trans (Decimal.lowDigits_digitCount n)),
    nulFree, if_neg (Decimal.nul_notMem_toDigits n)]

/-- The checks of a replacement and its result, on bytes and on characters. -/
theorem characters_replace (s : List Char) (old new : Char) :
    (do
      let oldByte ← asciiByte old
      let newByte ← asciiByte new
      let buffer ← Buffer.replace (encoded s).length (encoded s) oldByte newByte
      finish buffer).map Value.characters
      = (do ascii old; ascii new; nulFree (s.map (Utf8.substitute old new))) := by
  by_cases ho : old.toNat < 128
  · by_cases hn : new.toNat < 128
    · rw [asciiByte, if_pos ho, asciiByte, if_pos hn, ascii, if_pos ho, ascii, if_pos hn]
      show (Buffer.replace (encoded s).length (encoded s) (Utf8.byteOf old) (Utf8.byteOf new)
        >>= finish).map Value.characters = nulFree (s.map (Utf8.substitute old new))
      rw [Buffer.replace, dif_pos rfl]
      show (finish (Buffer.ofList _ _)).map Value.characters = _
      refine characters_finish ?_
      rw [Buffer.toList_ofList]
      exact Utf8.map_replaceByte_encode ho hn s
    · rw [asciiByte, if_pos ho, asciiByte, if_neg hn, ascii, if_pos ho, ascii, if_neg hn]
      rfl
  · rw [asciiByte, if_neg ho, ascii, if_neg ho]
    rfl

/-- The joined encodings are the encoding of the joined texts. -/
theorem characters_join (parts : List (List Char)) :
    (Buffer.join (Buffer.totalLength (parts.map encoded)) (parts.map encoded)
      >>= finish).map Value.characters = nulFree parts.flatten := by
  rw [Buffer.join_totalLength]
  show (finish (Buffer.ofList _ _)).map Value.characters = _
  refine characters_finish ?_
  rw [Buffer.toList_ofList]
  exact (Utf8.encode_ofList_flatten parts).symm

/-! ## §3. The simulation, expression by expression. -/

mutual

/-- **Both evaluations give the same characters, or the same fault.** -/
theorem characters_eval : ∀ e : Expr, (eval e).map Value.characters = denote e
  | .literal s => rfl
  | .constant z => rfl
  | .zstring operand => by
    rw [eval, denote, ← characters_eval operand]
    cases eval operand with
    | error f => rfl
    | ok v =>
      -- the operand's text stands for its bytes from here on
      show (Value.terminated <$> ZString.ofContent v.bytes).map Value.characters
        = nulFree v.characters
      rw [v.bytes_eq]
      exact characters_ofContent v.characters
  | .digits n => characters_digits n
  | .replace operand old new => by
    rw [eval, denote, ← characters_eval operand]
    cases eval operand with
    | error f => rfl
    | ok v =>
      have hr := characters_replace v.characters old new
      rw [← v.bytes_eq] at hr
      exact hr
  | .join operands => by
    rw [eval, denote, evalParts_eq operands]
    cases denoteParts operands with
    | error f => rfl
    | ok parts => exact characters_join parts

/-- The bytes of the operands encode their characters. -/
theorem evalParts_eq :
    ∀ es : List Expr, evalParts es = (denoteParts es).map (List.map encoded)
  | [] => rfl
  | e :: rest => by
    rw [evalParts, denoteParts, ← characters_eval e, evalParts_eq rest]
    cases eval e with
    | error f => rfl
    | ok v =>
      cases denoteParts rest with
      | error f => rfl
      | ok parts =>
        show Except.ok (v.bytes :: parts.map encoded) = _
        rw [v.bytes_eq]
        rfl

end

/-! ## §4. What can be built. -/

/-- Building terminates a literal and leaves other values as they are. -/
theorem characters_build (e : Expr) :
    (build e).map (fun z => z.text.toList) = (denote e).bind nulFree := by
  rw [build, ← characters_eval e]
  cases eval e with
  | error f => rfl
  | ok v =>
    cases v with
    | plain s =>
      have hs := ZString.characters_ofContent_encode s.toList
      rw [String.ofList_toList] at hs
      exact hs
    | terminated z =>
      -- a terminated text holds no NUL to be refused
      show _ = nulFree z.text.toList
      rw [nulFree, if_neg z.nul_notMem]
      rfl

theorem nulFree_ok {s t : List Char} (h : nulFree s = .ok t) : s = t := by
  unfold nulFree at h
  split at h
  · cases h
  · exact Except.ok.inj h

theorem fault_of_nulFree {s : List Char} {f : TextFault} (h : nulFree s = .error f) :
    f = .notTerminated := by
  unfold nulFree at h
  split at h
  · exact (Except.error.inj h).symm
  · cases h

theorem fault_of_nulFault? {s : List Char} {f : TextFault} (h : nulFault? s = some f) :
    f = .notTerminated := by
  unfold nulFault? at h
  split at h
  · exact (Option.some.inj h).symm
  · cases h

/-- A node is at fault for one of two reasons. -/
theorem fault_of_ownFault? {e : Expr} {f : TextFault} (h : ownFault? e = some f) :
    f = .notAscii ∨ f = .notTerminated := by
  cases e with
  | literal s => cases h
  | replace operand old new =>
    rw [ownFault?] at h
    split at h
    · exact .inl (Option.some.inj h).symm
    · split at h
      · exact .inl (Option.some.inj h).symm
      · exact .inr (fault_of_nulFault? h)
  | constant z => exact .inr (fault_of_nulFault? h)
  | zstring operand => exact .inr (fault_of_nulFault? h)
  | digits n => exact .inr (fault_of_nulFault? h)
  | join operands => exact .inr (fault_of_nulFault? h)

theorem fault_of_denote {e : Expr} {f : TextFault} (h : denote e = .error f) :
    f = .notAscii ∨ f = .notTerminated := by
  rw [denote_eq] at h
  cases hf : firstFault? e with
  | none =>
    rw [hf] at h
    cases h
  | some g =>
    rw [hf] at h
    obtain rfl : g = f := Except.error.inj h
    obtain ⟨node, _, hnode⟩ := List.exists_of_findSome?_eq_some hf
    exact fault_of_ownFault? hnode

theorem fault_of_build {e : Expr} {f : TextFault} (h : build e = .error f) :
    f = .notAscii ∨ f = .notTerminated := by
  have hb := characters_build e
  rw [h] at hb
  cases hd : denote e with
  | error g =>
    rw [hd] at hb
    obtain rfl : f = g := Except.error.inj hb
    exact fault_of_denote hd
  | ok s =>
    rw [hd] at hb
    exact .inr (fault_of_nulFree hb.symm)

/-- What is built is the text denoted. -/
theorem denote_of_build {e : Expr} {z : ZString} (h : build e = .ok z) :
    denote e = .ok z.text.toList := by
  have hb := characters_build e
  rw [h] at hb
  cases hd : denote e with
  | error g =>
    rw [hd] at hb
    cases hb
  | ok s =>
    rw [hd] at hb
    rw [nulFree_ok hb.symm]

theorem nulFree_eq_ok_iff {s t : List Char} :
    nulFree s = .ok t ↔ Char.ofNat 0 ∉ s ∧ s = t := by
  unfold nulFree
  by_cases h : Char.ofNat 0 ∈ s
  · simp [h]
  · simp [h]

/-- A text without NUL that an expression denotes is built. -/
theorem exists_build {e : Expr} {s : List Char} (h : denote e = .ok s) (hs : Char.ofNat 0 ∉ s) :
    ∃ z, build e = .ok z ∧ z.text.toList = s := by
  have hb := characters_build e
  rw [h] at hb
  have hs' : nulFree s = .ok s := nulFree_eq_ok_iff.2 ⟨hs, rfl⟩
  cases hz : build e with
  | error f =>
    rw [hz] at hb
    cases hb.trans hs'
  | ok z =>
    rw [hz] at hb
    exact ⟨z, rfl, Except.ok.inj (hb.trans hs')⟩

/-- Building gives a text exactly if the expression denotes it. -/
theorem build_eq_ok_iff {e : Expr} {z : ZString} :
    build e = .ok z ↔ denote e = .ok z.text.toList := by
  constructor
  · exact denote_of_build
  · intro h
    obtain ⟨z', hz', htext⟩ := exists_build h z.nul_notMem
    rw [hz', ZString.ext_text (String.toList_inj.1 htext)]

/-- **Evaluation on bytes is evaluation on characters.**  The two give the
same characters or the same fault, namely the first one of the nodes in the
order of evaluation.  What is built is the text denoted, in a buffer with its
encoding and one NUL; and no builder is ever given a wrong size or bytes that
encode no text. -/
theorem eval_denote (e : Expr) :
    (eval e).map Value.characters = denote e
    ∧ denote e = answer (firstFault? e) (meaning e)
    ∧ (build e).map (fun z => z.text.toList) = (denote e).bind nulFree
    ∧ (∀ z, build e = .ok z → denote e = .ok z.text.toList
        ∧ z.buffer = Utf8.encode z.text ++ [0] ∧ z.buffer.count 0 = 1)
    ∧ (∀ f, build e = .error f → f = .notAscii ∨ f = .notTerminated) := by
  refine ⟨characters_eval e, denote_eq e, characters_build e, ?_, fun f => fault_of_build⟩
  intro z hz
  exact ⟨denote_of_build hz, z.buffer_eq, z.count_zero_buffer⟩

end ClassBridge.Expr
