/-
  ClassBridge.Text.Utf8
  ─────────────────────
  **Text as bytes.**

  The encoding of a text, the partial inverse that reads bytes back, and the
  variant that the Java side uses for names:

      encode           each character in one to four bytes
      decode?          the text whose encoding the bytes are, if there is one
      encodeModified   NUL in two bytes, a character above U+FFFF as a
                       surrogate pair of three bytes each

  Main statement: `decode?_eq_some_iff` — the bytes that can be read are
  exactly the encodings, and each is read as the text it encodes.
-/

namespace ClassBridge.Utf8

/-! ## §1. Encoding and decoding. -/

/-- The bytes of a text, character after character. -/
def encode (s : String) : List UInt8 :=
  s.toList.flatMap String.utf8EncodeChar

/-- The text that a byte string encodes; `none` if it encodes no text. -/
def decode? (bytes : List UInt8) : Option String :=
  String.fromUTF8? bytes.toByteArray

@[simp] theorem encode_empty : encode "" = [] := rfl

theorem encode_append (s t : String) : encode (s ++ t) = encode s ++ encode t := by
  simp [encode]

theorem toByteArray_encode (s : String) : (encode s).toByteArray = s.toByteArray := by
  rw [← String.utf8Encode_toList (b := s)]
  rfl

/-- What was encoded is read back. -/
@[simp] theorem decode?_encode (s : String) : decode? (encode s) = some s := by
  unfold decode? String.fromUTF8?
  rw [toByteArray_encode, dif_pos s.isValidUTF8]
  rfl

/-- What can be read was encoded. -/
theorem eq_encode_of_decode? {bytes : List UInt8} {s : String}
    (h : decode? bytes = some s) : bytes = encode s := by
  unfold decode? String.fromUTF8? at h
  split at h
  · next hv =>
    simp only [Option.some.injEq] at h
    subst h
    have hb : (String.fromUTF8 bytes.toByteArray hv).toByteArray = bytes.toByteArray := rfl
    exact (List.toByteArray_inj.1 ((toByteArray_encode _).trans hb)).symm
  · cases h

theorem decode?_eq_some_iff {bytes : List UInt8} {s : String} :
    decode? bytes = some s ↔ bytes = encode s :=
  ⟨eq_encode_of_decode?, fun h => h ▸ decode?_encode s⟩

/-! ## §2. The encoding of names on the Java side. -/

/-- A sixteen-bit unit in three bytes: four, six and six bits. -/
def threeBytes (unit : Nat) : List UInt8 :=
  [UInt8.ofNat (0xE0 + unit / 0x1000),
   UInt8.ofNat (0x80 + unit / 0x40 % 0x40),
   UInt8.ofNat (0x80 + unit % 0x40)]

/-- One character: NUL never appears as a zero byte, and a character above
U+FFFF is written as its high and then its low surrogate. -/
def encodeModifiedChar (c : Char) : List UInt8 :=
  if c.toNat = 0 then [0xC0, 0x80]
  else if 0xFFFF < c.toNat then
    let offset := c.toNat - 0x10000
    threeBytes (0xD800 + offset / 0x400) ++ threeBytes (0xDC00 + offset % 0x400)
  else String.utf8EncodeChar c

/-- A text in the encoding of class and method names. -/
def encodeModified (s : String) : List UInt8 :=
  s.toList.flatMap encodeModifiedChar

end ClassBridge.Utf8
