/-
  ClassBridge.QualifiedName
  ─────────────────────────
  **Dotted class names.**

  A qualified name is a list of non-empty segments separated by single dots,
  as in `net.example.Point`; a segment may hold anything but a dot or a
  slash.  `check` runs once over the bytes and stops at the first offence:

      empty            the name is empty
      wrongSeparator   a slash
      emptySegment     a dot, or the end, with no segment in front of it

  The bytes of a segment are counted in a signed word of 32 bits.  A segment of
  2³¹ bytes is one too many for it, and what happens then depends on how the
  program is built: the addition faults, or the count goes on at the smallest
  number there is, which is taken for the length of an empty segment.
-/
import ClassBridge.Text.Utf8

namespace ClassBridge.QualifiedName

/-- Why a text is no qualified name. -/
inductive Fault where
  /-- The name is empty. -/
  | empty
  /-- A slash separates segments. -/
  | wrongSeparator
  /-- Two separators, or a separator and an end, have nothing between them. -/
  | emptySegment
  /-- The bytes of a segment cannot be counted. -/
  | overflow
  deriving Repr, DecidableEq

/-- The text of a fault. -/
def Fault.message : Fault → String
  | .empty => "Java class name can't be empty"
  | .wrongSeparator => "Java class name must use '.' as a separator"
  | .emptySegment => "Java class name has an empty segment"
  | .overflow => "attempt to add with overflow"

/-- What an addition does whose result is no word. -/
inductive Overflow where
  /-- It is a fault: the additions are checked. -/
  | faults
  /-- It leaves out what does not fit. -/
  | wraps
  deriving Repr, DecidableEq

/-- The byte that separates the segments of a qualified name. -/
def dot : UInt8 := 46

/-- The byte that separates the segments of an internal name. -/
def slash : UInt8 := 47

/-- Ends a segment of the given length. -/
def endSegment (segmentLength : Int32) : Except Fault Unit :=
  if 0 < segmentLength then .ok () else .error .emptySegment

/-- Counts one more byte of a segment. -/
def count (o : Overflow) (segmentLength : Int32) : Except Fault Int32 :=
  match o with
  | .faults =>
    if segmentLength = Int32.maxValue then .error .overflow else .ok (segmentLength + 1)
  | .wraps => .ok (segmentLength + 1)

/-- Checks the rest of a name, `segmentLength` bytes into a segment. -/
def scan (o : Overflow) (segmentLength : Int32) : List UInt8 → Except Fault Unit
  | [] => endSegment segmentLength
  | b :: rest =>
    if b = slash then .error .wrongSeparator
    else if b = dot then
      match endSegment segmentLength with
      | .ok () => scan o 0 rest
      | .error f => .error f
    else
      match count o segmentLength with
      | .ok longer => scan o longer rest
      | .error f => .error f

/-- Accepts qualified names, and names the first offence of anything else. -/
def checkWith (o : Overflow) (name : String) : Except Fault Unit :=
  match Utf8.encode name with
  | [] => .error .empty
  | bytes => scan o 0 bytes

/-- The check with checked additions. -/
def check (name : String) : Except Fault Unit := checkWith .faults name

end ClassBridge.QualifiedName
