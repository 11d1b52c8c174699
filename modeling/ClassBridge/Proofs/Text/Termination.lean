/-
  ClassBridge.Proofs.Text.Termination
  ───────────────────────────────────
  **Which contents can be terminated.**

  The buffer that `ofContent` asks for always has the size of its content, so
  what it answers is what is read from the content with one NUL behind it.
  The encoding of a text is accepted as that text exactly if the text holds no
  NUL, and refused for the terminator otherwise.
-/
import ClassBridge.Proofs.Text.Encoding

namespace ClassBridge.ZString

/-! ## §1. Reading terminated bytes. -/

/-- The buffer has the size it needs. -/
theorem ofContent_eq (content : List UInt8) :
    ofContent content = ofBytesWithNul (content ++ [0]) := by
  unfold ofContent Buffer.terminated
  rw [dif_pos rfl]
  exact congrArg ofBytesWithNul (Buffer.toList_ofList _)

theorem isTerminated_append (content : List UInt8) :
    isTerminated (content ++ [0]) = true ↔ 0 ∉ content := by
  rw [isTerminated_iff]
  constructor
  · rintro ⟨c, hc, hn⟩
    rwa [List.append_cancel_right hc]
  · intro h
    exact ⟨content, rfl, h⟩

/-- A terminated encoding is read as its text. -/
theorem ofBytesWithNul_encode {s : String} (h : 0 ∉ Utf8.encode s) :
    ofBytesWithNul (Utf8.encode s ++ [0]) = .ok ⟨s, Utf8.encode s ++ [0], rfl, h⟩ := by
  have hd : Utf8.decode? (Utf8.encode s ++ [0]).dropLast = some s := by simp
  unfold ofBytesWithNul
  rw [dif_pos ((isTerminated_append _).2 h)]
  split
  · next t ht =>
    obtain rfl : s = t := Option.some.inj (hd.symm.trans ht)
    rfl
  · next hn => exact absurd (hd.symm.trans hn) (by simp)

/-! ## §2. Terminating a text. -/

theorem ofContent_encode_of_notMem {s : String} (h : Char.ofNat 0 ∉ s.toList) :
    ofContent (Utf8.encode s)
      = .ok ⟨s, Utf8.encode s ++ [0], rfl, mt Utf8.zero_mem_encode.1 h⟩ := by
  rw [ofContent_eq, ofBytesWithNul_encode]

theorem ofContent_encode_of_mem {s : String} (h : Char.ofNat 0 ∈ s.toList) :
    ofContent (Utf8.encode s) = .error .notTerminated := by
  have hn : ¬ isTerminated (Utf8.encode s ++ [0]) = true := by
    rw [isTerminated_append]
    exact fun hn => hn (Utf8.zero_mem_encode.2 h)
  rw [ofContent_eq, ofBytesWithNul, dif_neg hn]

/-- **Terminating a text gives that text, or refuses a NUL in it.** -/
theorem characters_ofContent_encode (s : List Char) :
    (ofContent (Utf8.encode (String.ofList s))).map (fun z => z.text.toList)
      = Expr.nulFree s := by
  by_cases h : Char.ofNat 0 ∈ s
  · rw [ofContent_encode_of_mem (by simpa using h), Expr.nulFree, if_pos h]
    rfl
  · rw [ofContent_encode_of_notMem (by simpa using h), Expr.nulFree, if_neg h]
    exact congrArg Except.ok String.toList_ofList

/-- No character of a terminated text is NUL. -/
theorem nul_notMem (z : ZString) : Char.ofNat 0 ∉ z.text.toList :=
  mt Utf8.zero_mem_encode.2 z.nul_free

/-- The terminator is the only NUL. -/
theorem count_zero_buffer (z : ZString) : z.buffer.count 0 = 1 := by
  rw [z.buffer_eq, List.count_append, List.count_eq_zero.2 z.nul_free]
  rfl

end ClassBridge.ZString
