/-
  ClassBridge.Text.Buffer
  ───────────────────────
  **Byte buffers of a size fixed beforehand.**

  Every builder is told the size of the buffer it has to fill and refuses any
  size but the one that the content needs, so nothing is ever cut or padded:

      terminated   the source and one NUL
      replace      the source with one byte substituted for another
      join         the parts, one after another

  `join` works by placements: each byte of each part is put at a position of a
  zeroed buffer.  One position runs through all parts: each of them begins where
  the one before it has left it.
-/

namespace ClassBridge

/-- Why a piece of text cannot be built. -/
inductive TextFault where
  /-- A terminated buffer is not one byte longer than its source. -/
  | terminatedSize
  /-- A numeral's buffer does not have the number's digit count. -/
  | numeralSize
  /-- A replacement's buffer does not have the source's length. -/
  | replacementSize
  /-- A joined buffer does not have the total length of the parts. -/
  | joinedSize
  /-- A character outside ASCII was to be replaced or put in. -/
  | notAscii
  /-- The bytes do not end with their only NUL. -/
  | notTerminated
  /-- The content is not the encoding of a text. -/
  | notUtf8
  deriving Repr, DecidableEq

/-- The text of a fault. -/
def TextFault.message : TextFault → String
  | .terminatedSize => "Buffer size must be the source length plus one"
  | .numeralSize => "Buffer size must match the digit count"
  | .replacementSize => "Replacement must preserve the length"
  | .joinedSize => "Buffer size must be the total length of the parts"
  | .notAscii => "Only ASCII characters can be replaced"
  | .notTerminated => "Buffer must end with its only NUL byte"
  | .notUtf8 => "Buffer is not valid UTF-8"

/-- A buffer of `size` bytes. -/
abbrev Buffer (size : Nat) := Vector UInt8 size

/-- The byte of a character, which must be ASCII: only then can a substitution
of bytes not break up another character. -/
def asciiByte (c : Char) : Except TextFault UInt8 :=
  if c.toNat < 128 then .ok (UInt8.ofNat c.toNat) else .error .notAscii

namespace Buffer

/-! ## §1. Buffers from a list of bytes. -/

/-- The buffer that holds the bytes of a list of the right length. -/
def ofList {size : Nat} (bytes : List UInt8) (h : bytes.length = size) : Buffer size :=
  ⟨bytes.toArray, by simpa using h⟩

@[simp] theorem toList_ofList {size : Nat} {bytes : List UInt8} (h : bytes.length = size) :
    (ofList bytes h).toList = bytes := by
  simp [ofList]

/-- The source followed by one NUL. -/
def terminated (size : Nat) (source : List UInt8) : Except TextFault (Buffer size) :=
  if h : source.length + 1 = size then .ok (ofList (source ++ [0]) (by simpa using h))
  else .error .terminatedSize

/-- One byte after the substitution of `new` for `old`. -/
def replaceByte (old new : UInt8) (b : UInt8) : UInt8 :=
  if b = old then new else b

/-- The source with every byte `old` turned into `new`. -/
def replace (size : Nat) (source : List UInt8) (old new : UInt8) :
    Except TextFault (Buffer size) :=
  if h : source.length = size then
    .ok (ofList (source.map (replaceByte old new)) (by simpa using h))
  else .error .replacementSize

/-! ## §2. Joining by placements. -/

/-- A byte and the position it is put at. -/
structure Placement where
  position : Nat
  byte : UInt8
  deriving Repr, DecidableEq

/-- Puts the bytes of one part at `position` and the positions after it, and
leaves the position that comes next. -/
def placePart (position : Nat) : List UInt8 → List Placement × Nat
  | [] => ([], position)
  | b :: rest =>
    let (placed, next) := placePart (position + 1) rest
    (⟨position, b⟩ :: placed, next)

/-- Puts the bytes of all parts at `position` and the positions after it. -/
def placements (position : Nat) : List (List UInt8) → List Placement
  | [] => []
  | part :: rest =>
    let (placed, next) := placePart position part
    placed ++ placements next rest

/-- One placement carried out. -/
def place {size : Nat} (buffer : Buffer size) (p : Placement) : Buffer size :=
  buffer.setIfInBounds p.position p.byte

/-- The sum of the lengths of the parts.  It is meant to be the size of a buffer,
so totals are taken to stay below 2⁶⁴, where adding words is adding numbers. -/
def totalLength : List (List UInt8) → Nat
  | [] => 0
  | part :: rest => part.length + totalLength rest

/-- The parts one after another. -/
def join (size : Nat) (parts : List (List UInt8)) : Except TextFault (Buffer size) :=
  if totalLength parts = size then
    .ok ((placements 0 parts).foldl place (Vector.replicate size 0))
  else .error .joinedSize

@[simp] theorem totalLength_cons (part : List UInt8) (rest : List (List UInt8)) :
    totalLength (part :: rest) = part.length + totalLength rest := rfl

end Buffer
end ClassBridge
