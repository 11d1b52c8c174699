/-
  ClassBridge.Proofs.Text.Acceptance
  ──────────────────────────────────
  **Which buffers are accepted, and what is seen of them.**

  A buffer is read in one of three ways (`ofBytesWithNul_cases`):

      not ended by its only NUL            refused for that, whatever else it holds
      ended so, behind other than text     refused as no text
      ended so, behind a text              accepted

  A text that is accepted shows the same content in all its views (`Shows`),
  and each view leads back to it: the buffer is read as the text again, and
  the content, terminated, is the buffer again.
-/
import ClassBridge.Proofs.Text.Termination
import ClassBridge.Proofs.Text.WellFormed

namespace ClassBridge

/-! ## §1. Terminating bytes. -/

namespace Buffer

theorem terminated_length (source : List UInt8) :
    terminated (source.length + 1) source = .ok (ofList (source ++ [0]) List.length_append) := by
  rw [terminated, dif_pos rfl]

theorem terminated_eq_error_iff {size : Nat} {source : List UInt8} {f : TextFault} :
    terminated size source = .error f ↔ size ≠ source.length + 1 ∧ f = .terminatedSize := by
  unfold terminated
  by_cases h : source.length + 1 = size
  · rw [dif_pos h]
    simp [h]
  · rw [dif_neg h]
    simp [Ne.symm h, eq_comm]

theorem toList_of_terminated {size : Nat} {source : List UInt8} {buffer : Buffer size}
    (h : terminated size source = .ok buffer) : buffer.toList = source ++ [0] := by
  unfold terminated at h
  split at h
  · obtain rfl := Except.ok.inj h
    exact toList_ofList _
  · cases h

end Buffer

namespace ZString

/-! ## §2. Reading C strings. -/

/-- A reader of C strings stops at the first NUL, whatever comes behind it. -/
theorem readCString_append {content : List UInt8} (hn : 0 ∉ content) (behind : List UInt8) :
    readCString (content ++ 0 :: behind) = content := by
  have hall : ∀ b ∈ content, decide (b ≠ 0) = true := by
    intro b hb
    apply decide_eq_true
    rintro rfl
    exact hn hb
  rw [readCString, List.takeWhile_append_of_pos hall, List.takeWhile_cons]
  simp

/-- In the memory of a buffer the bytes of the text are read, all of them and
nothing of what comes behind. -/
theorem readCString_buffer (z : ZString) (behind : List UInt8) :
    readCString (z.buffer ++ behind) = z.bytes := by
  rw [z.buffer_eq, List.append_assoc]
  exact readCString_append z.nul_free behind

theorem cString_eq (z : ZString) : z.cString = z.bytes := by
  have h := z.readCString_buffer []
  rwa [List.append_nil] at h

/-! ## §3. The three ways of reading a buffer. -/

/-- A buffer is not terminated if it is empty, or does not end in a NUL, or
has one before. -/
theorem not_isTerminated_iff {bytes : List UInt8} :
    ¬ isTerminated bytes = true
      ↔ bytes = [] ∨ bytes.getLast? ≠ some 0 ∨ 0 ∈ bytes.dropLast := by
  by_cases hlast : bytes.getLast? = some 0
  · have hne : bytes ≠ [] := by
      rintro rfl
      cases hlast
    simp [isTerminated, hlast, hne]
  · simp [isTerminated, hlast]

theorem ofBytesWithNul_of_not_isTerminated {bytes : List UInt8}
    (h : ¬ isTerminated bytes = true) : ofBytesWithNul bytes = .error .notTerminated := by
  rw [ofBytesWithNul, dif_neg h]

theorem ofBytesWithNul_of_not_wellFormed {content : List UInt8} (hn : 0 ∉ content)
    (hw : ¬ Utf8.WellFormed content) : ofBytesWithNul (content ++ [0]) = .error .notUtf8 := by
  have hd : Utf8.decode? (content ++ [0]).dropLast = none := by
    rw [List.dropLast_concat]
    exact Utf8.decode?_eq_none_iff.2 hw
  unfold ofBytesWithNul
  rw [dif_pos ((isTerminated_append content).2 hn)]
  split
  · next t ht => cases ht.symm.trans hd
  · rfl

/-- The buffer of a terminated text is read as that text. -/
theorem ofBytesWithNul_buffer (z : ZString) : ofBytesWithNul z.buffer = .ok z := by
  rw [z.buffer_eq, ofBytesWithNul_encode z.nul_free]
  exact congrArg Except.ok (ext_text rfl)

/-- **All that can come of reading a buffer.** -/
theorem ofBytesWithNul_cases (bytes : List UInt8) :
    (¬ isTerminated bytes = true ∧ ofBytesWithNul bytes = .error .notTerminated)
    ∨ (∃ content, bytes = content ++ [0] ∧ 0 ∉ content ∧ ¬ Utf8.WellFormed content
        ∧ ofBytesWithNul bytes = .error .notUtf8)
    ∨ (∃ z : ZString, bytes = z.buffer ∧ ofBytesWithNul bytes = .ok z) := by
  by_cases ht : isTerminated bytes = true
  · obtain ⟨content, rfl, hn⟩ := isTerminated_iff.1 ht
    by_cases hw : Utf8.WellFormed content
    · obtain ⟨s, rfl⟩ := Utf8.wellFormed_iff.1 hw
      exact .inr (.inr ⟨⟨s, _, rfl, hn⟩, rfl, ofBytesWithNul_encode hn⟩)
    · exact .inr (.inl ⟨content, rfl, hn, hw, ofBytesWithNul_of_not_wellFormed hn hw⟩)
  · exact .inl ⟨ht, ofBytesWithNul_of_not_isTerminated ht⟩

theorem wellFormed_bytes (z : ZString) : Utf8.WellFormed z.bytes :=
  Utf8.wellFormed_iff.2 ⟨z.text, rfl⟩

/-- Exactly one buffer is read as a given text: its own. -/
theorem ofBytesWithNul_eq_ok_iff {bytes : List UInt8} {z : ZString} :
    ofBytesWithNul bytes = .ok z ↔ bytes = z.buffer := by
  constructor
  · intro h
    rcases ofBytesWithNul_cases bytes with ⟨_, hr⟩ | ⟨_, _, _, _, hr⟩ | ⟨z', hb, hr⟩
    · cases h.symm.trans hr
    · cases h.symm.trans hr
    · obtain rfl := Except.ok.inj (h.symm.trans hr)
      exact hb
  · rintro rfl
    exact ofBytesWithNul_buffer z

theorem ofBytesWithNul_eq_notTerminated_iff {bytes : List UInt8} :
    ofBytesWithNul bytes = .error .notTerminated ↔ ¬ isTerminated bytes = true := by
  refine ⟨?_, ofBytesWithNul_of_not_isTerminated⟩
  intro h
  rcases ofBytesWithNul_cases bytes with ⟨ht, _⟩ | ⟨_, _, _, _, hr⟩ | ⟨z, _, hr⟩
  · exact ht
  · cases h.symm.trans hr
  · cases h.symm.trans hr

theorem ofBytesWithNul_eq_notUtf8_iff {bytes : List UInt8} :
    ofBytesWithNul bytes = .error .notUtf8
      ↔ ∃ content, bytes = content ++ [0] ∧ 0 ∉ content ∧ ¬ Utf8.WellFormed content := by
  constructor
  · intro h
    rcases ofBytesWithNul_cases bytes with ⟨_, hr⟩ | ⟨content, hb, hn, hw, _⟩ | ⟨z, _, hr⟩
    · cases h.symm.trans hr
    · exact ⟨content, hb, hn, hw⟩
    · cases h.symm.trans hr
  · rintro ⟨content, rfl, hn, hw⟩
    exact ofBytesWithNul_of_not_wellFormed hn hw

/-- What is accepted is well-formed content without NUL, and a NUL. -/
theorem exists_ofBytesWithNul_iff {bytes : List UInt8} :
    (∃ z, ofBytesWithNul bytes = .ok z)
      ↔ ∃ content, bytes = content ++ [0] ∧ 0 ∉ content ∧ Utf8.WellFormed content := by
  constructor
  · rintro ⟨z, hz⟩
    exact ⟨z.bytes, (ofBytesWithNul_eq_ok_iff.1 hz).trans z.buffer_eq, z.nul_free,
      z.wellFormed_bytes⟩
  · rintro ⟨content, rfl, hn, hw⟩
    obtain ⟨s, rfl⟩ := Utf8.wellFormed_iff.1 hw
    exact ⟨_, ofBytesWithNul_encode hn⟩

/-! ## §4. What is seen of a text. -/

/-- Each view of a terminated text shows the content. -/
structure Shows (z : ZString) (content : List UInt8) : Prop where
  text : Utf8.encode z.text = content
  bytes : z.bytes = content
  bytesWithNul : z.bytesWithNul = content ++ [0]
  cString : z.cString = content
  length : z.length = content.length
  isEmpty : z.isEmpty = true ↔ content = []

theorem shows_bytes (z : ZString) : Shows z z.bytes where
  text := rfl
  bytes := rfl
  bytesWithNul := z.buffer_eq
  cString := z.cString_eq
  length := rfl
  isEmpty := List.isEmpty_iff

/-- A text that was accepted shows what stands in front of the last byte. -/
theorem shows_of_ofBytesWithNul {bytes : List UInt8} {z : ZString}
    (h : ofBytesWithNul bytes = .ok z) : Shows z bytes.dropLast := by
  have hcontent : bytes.dropLast = z.bytes := by
    rw [ofBytesWithNul_eq_ok_iff.1 h, z.buffer_eq, List.dropLast_concat]
    rfl
  rw [hcontent]
  exact shows_bytes z

/-- Both ways of building a text from what is seen of it give it back. -/
structure Rebuilt (z : ZString) : Prop where
  fromBuffer : ofBytesWithNul z.bytesWithNul = .ok z
  fromBytes : ∃ buffer, Buffer.terminated (z.length + 1) z.bytes = .ok buffer
    ∧ buffer.toList = z.bytesWithNul

theorem rebuilt (z : ZString) : Rebuilt z where
  fromBuffer := z.ofBytesWithNul_buffer
  fromBytes := by
    have hbuffer := Buffer.terminated_length z.bytes
    exact ⟨_, hbuffer, (Buffer.toList_of_terminated hbuffer).trans z.buffer_eq.symm⟩

/-- A terminated buffer is accepted exactly if its source is a text without NUL. -/
theorem exists_ofBytesWithNul_terminated_iff {size : Nat} {source : List UInt8}
    {buffer : Buffer size} (h : Buffer.terminated size source = .ok buffer) :
    (∃ z, ofBytesWithNul buffer.toList = .ok z) ↔ Utf8.WellFormed source ∧ 0 ∉ source := by
  rw [Buffer.toList_of_terminated h, exists_ofBytesWithNul_iff]
  constructor
  · rintro ⟨content, hc, hn, hw⟩
    obtain rfl := List.append_cancel_right hc
    exact ⟨hw, hn⟩
  · rintro ⟨hw, hn⟩
    exact ⟨source, rfl, hn, hw⟩

/-- **A buffer is accepted exactly if it is well-formed content without NUL and
one NUL behind it.**  It is refused for its NULs if these are not so, even if it
is no text either, and as no text otherwise.  What is accepted shows its
content in every view and is rebuilt from each; and bytes are terminated exactly
in a buffer that is one byte longer, which is accepted if they are a text
without NUL. -/
theorem ofBytesWithNul_decides (bytes : List UInt8) :
    ((∃ z, ofBytesWithNul bytes = .ok z)
        ↔ ∃ content, bytes = content ++ [0] ∧ 0 ∉ content ∧ Utf8.WellFormed content)
      ∧ (ofBytesWithNul bytes = .error .notTerminated
          ↔ bytes = [] ∨ bytes.getLast? ≠ some 0 ∨ 0 ∈ bytes.dropLast)
      ∧ (∀ f, ofBytesWithNul bytes = .error f ∧ f ≠ .notTerminated
          ↔ f = .notUtf8
            ∧ ∃ content, bytes = content ++ [0] ∧ 0 ∉ content ∧ ¬ Utf8.WellFormed content)
      ∧ (∀ z, ofBytesWithNul bytes = .ok z →
          z.bytesWithNul = bytes ∧ Shows z bytes.dropLast ∧ Rebuilt z)
      ∧ (∀ size f, Buffer.terminated size bytes = .error f
          ↔ size ≠ bytes.length + 1 ∧ f = .terminatedSize)
      ∧ ∃ buffer, Buffer.terminated (bytes.length + 1) bytes = .ok buffer
          ∧ ((∃ z, ofBytesWithNul buffer.toList = .ok z)
            ↔ Utf8.WellFormed bytes ∧ 0 ∉ bytes) := by
  refine ⟨exists_ofBytesWithNul_iff, ?_, ?_, ?_, fun _ _ => Buffer.terminated_eq_error_iff, ?_⟩
  · rw [ofBytesWithNul_eq_notTerminated_iff, not_isTerminated_iff]
  · intro f
    rw [← ofBytesWithNul_eq_notUtf8_iff]
    constructor
    · rintro ⟨h, hf⟩
      rcases ofBytesWithNul_cases bytes with ⟨_, hr⟩ | ⟨_, _, _, _, hr⟩ | ⟨z, _, hr⟩
      · exact absurd (Except.error.inj (h.symm.trans hr)) hf
      · obtain rfl := Except.error.inj (h.symm.trans hr)
        exact ⟨rfl, hr⟩
      · cases h.symm.trans hr
    · rintro ⟨rfl, h⟩
      exact ⟨h, by decide⟩
  · intro z hz
    exact ⟨(ofBytesWithNul_eq_ok_iff.1 hz).symm, shows_of_ofBytesWithNul hz, rebuilt z⟩
  · have hbuffer := Buffer.terminated_length bytes
    exact ⟨_, hbuffer, exists_ofBytesWithNul_terminated_iff hbuffer⟩

/-- A NUL too many is found before bytes that are no text. -/
example : ofBytesWithNul [0xFF, 0, 0] = .error .notTerminated
    ∧ ofBytesWithNul [0xFF, 0] = .error .notUtf8 :=
  ⟨rfl, rfl⟩

end ZString
end ClassBridge
