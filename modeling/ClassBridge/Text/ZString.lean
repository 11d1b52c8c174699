/-
  ClassBridge.Text.ZString
  ────────────────────────
  **Zero-terminated texts.**

  A `ZString` keeps one text in two views: the text itself, and a buffer with
  its bytes and the NUL that ends them, as native interfaces want it.  Two of
  them are equal when their texts are; since the views belong together, all
  that can be read from them is then equal too.

      ofBytesWithNul   accepts a buffer that ends with its only NUL and is
                       the encoding of a text before it
      ofText           terminates a text, which must not hold a NUL
-/
import ClassBridge.Text.Utf8
import ClassBridge.Text.Buffer

namespace ClassBridge

/-- A text without NUL, and its bytes with one NUL behind them. -/
structure ZString where
  /-- The text. -/
  text : String
  /-- The bytes of the text and the terminator. -/
  buffer : List UInt8
  /-- The two views hold the same text. -/
  buffer_eq : buffer = Utf8.encode text ++ [0]
  /-- The terminator is the only NUL. -/
  nul_free : 0 ∉ Utf8.encode text

namespace ZString

/-! ## §1. Construction. -/

/-- The last byte is NUL, and no other byte is. -/
def isTerminated (bytes : List UInt8) : Bool :=
  bytes.getLast? == some 0 && !bytes.dropLast.contains 0

theorem isTerminated_iff {bytes : List UInt8} :
    isTerminated bytes = true ↔ ∃ content, bytes = content ++ [0] ∧ 0 ∉ content := by
  simp only [isTerminated, Bool.and_eq_true, beq_iff_eq, Bool.not_eq_true',
    List.contains_eq_mem, decide_eq_false_iff_not]
  constructor
  · rintro ⟨hl, hn⟩
    obtain ⟨init, rfl⟩ := List.getLast?_eq_some_iff.1 hl
    exact ⟨init, rfl, by simpa using hn⟩
  · rintro ⟨content, rfl, hn⟩
    exact ⟨by simp, by simpa using hn⟩

theorem eq_append_of_isTerminated {bytes : List UInt8} (h : isTerminated bytes = true) :
    bytes = bytes.dropLast ++ [0] ∧ 0 ∉ bytes.dropLast := by
  obtain ⟨content, rfl, hn⟩ := isTerminated_iff.1 h
  exact ⟨by simp, by simpa using hn⟩

/-- Reads a terminated buffer.  Whether it ends with its only NUL is asked
before whether the bytes in front of it are a text. -/
def ofBytesWithNul (bytes : List UInt8) : Except TextFault ZString :=
  if ht : isTerminated bytes = true then
    match hd : Utf8.decode? bytes.dropLast with
    | some text =>
      have he : bytes.dropLast = Utf8.encode text := Utf8.eq_encode_of_decode? hd
      have hb := eq_append_of_isTerminated ht
      .ok ⟨text, bytes, he ▸ hb.1, he ▸ hb.2⟩
    | none => .error .notUtf8
  else .error .notTerminated

/-- Terminates bytes in a buffer of the size they need, and reads it. -/
def ofContent (content : List UInt8) : Except TextFault ZString := do
  let buffer ← Buffer.terminated (content.length + 1) content
  ofBytesWithNul buffer.toList

/-- Terminates a text. -/
def ofText (s : String) : Except TextFault ZString :=
  ofContent (Utf8.encode s)

/-- A text known to hold no NUL, terminated. -/
def constant (s : String) (h : 0 ∉ Utf8.encode s := by decide) : ZString :=
  ⟨s, Utf8.encode s ++ [0], rfl, h⟩

/-! ## §2. Views. -/

/-- The bytes of the text, without the terminator. -/
def bytes (z : ZString) : List UInt8 := Utf8.encode z.text

/-- The bytes of the text and the terminator. -/
def bytesWithNul (z : ZString) : List UInt8 := z.buffer

/-- What is read from the front of a buffer up to its first NUL. -/
def readCString (memory : List UInt8) : List UInt8 :=
  memory.takeWhile (· ≠ 0)

/-- The bytes that a reader of C strings finds in the buffer. -/
def cString (z : ZString) : List UInt8 := readCString z.buffer

/-- The number of bytes, without the terminator. -/
def length (z : ZString) : Nat := z.bytes.length

/-- Whether the text is empty. -/
def isEmpty (z : ZString) : Bool := z.bytes.isEmpty

/-! ## §3. Equality and hashing. -/

/-- Terminated texts are compared by their texts alone. -/
instance : BEq ZString := ⟨fun x y => x.text == y.text⟩

theorem beq_iff {x y : ZString} : (x == y) = true ↔ x.text = y.text := by
  simp [BEq.beq]

/-- Whether the text is the given one. -/
def isText (z : ZString) (s : String) : Bool := z.text == s

theorem isText_iff {z : ZString} {s : String} : z.isText s = true ↔ z.text = s := by
  simp [isText]

/-- Whether a given text is that of a terminated one. -/
def isTextOf (s : String) (z : ZString) : Bool := s == z.text

theorem isTextOf_iff {s : String} {z : ZString} : isTextOf s z = true ↔ s = z.text := by
  simp [isTextOf]

/-- Equal texts make equal terminated texts, buffers included. -/
@[ext] theorem ext_text {x y : ZString} (h : x.text = y.text) : x = y := by
  obtain ⟨s, b, hb, hn⟩ := x
  obtain ⟨t, c, hc, hm⟩ := y
  obtain rfl : s = t := h
  obtain rfl : b = c := hb.trans hc.symm
  rfl

instance : DecidableEq ZString := fun x y =>
  if h : x.text = y.text then isTrue (ext_text h) else isFalse fun e => h (congrArg text e)

/-- The bytes that a text feeds to a hasher: its content and a byte `ff`, which
no text contains. -/
def hashBytesOfText (s : String) : List UInt8 := Utf8.encode s ++ [0xff]

/-- A terminated text feeds the hasher what its text does. -/
def hashBytes (z : ZString) : List UInt8 := hashBytesOfText z.text

end ZString
end ClassBridge
