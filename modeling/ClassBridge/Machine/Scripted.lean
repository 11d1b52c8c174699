/-
  ClassBridge.Machine.Scripted
  ────────────────────────────
  **A machine that answers by a script.**

  The script says how classes resolve, which codes are returned, which
  pointers are null and which entries are missing.  Handles count up from 1;
  each class that is found and each reference that is made takes the next.
-/
import ClassBridge.Machine

namespace ClassBridge

/-- How a class lookup ends. -/
inductive Resolution where
  /-- With a new handle. -/
  | found
  /-- With null. -/
  | null
  /-- With null and a pending exception. -/
  | thrown
  deriving Repr, DecidableEq

/-- The settings of a scripted machine, and where it stands. -/
structure Script where
  /-- The handle given out next. -/
  nextHandle : Handle := 1
  /-- How the classes with these name bytes resolve, the latest setting first. -/
  classes : List (List UInt8 × Resolution) := []
  /-- How all other classes resolve. -/
  default : Resolution := .found
  /-- Whether an exception is pending. -/
  pending : Bool := false
  /-- Return codes, the latest setting first; `0` where none is set. -/
  codes : List (TableEntry × Code) := []
  /-- Whether the pointer is null, the latest setting first. -/
  nulls : List (TableEntry × Bool) := []
  /-- The entries that the tables lack. -/
  missing : List TableEntry := []

namespace Script

/-- The return code of an entry. -/
def code (s : Script) (e : TableEntry) : Code :=
  (s.codes.lookup e).getD 0

/-- Whether an entry hands out null. -/
def isNull (s : Script) (e : TableEntry) : Bool :=
  (s.nulls.lookup e).getD false

/-- How the class with an encoded name resolves. -/
def resolution (s : Script) (name : List UInt8) : Resolution :=
  (s.classes.lookup name).getD s.default

/-- Answers for an entry unless the tables lack it. -/
def entry {α : Type} (s : Script) (e : TableEntry) (answer : α) : Option α :=
  if s.missing.contains e then none else some answer

/-- The next handle, and the script after it. -/
def takeHandle (s : Script) : Handle × Script :=
  (s.nextHandle, { s with nextHandle := s.nextHandle + 1 })

/-- The answer to a class lookup. -/
def find (s : Script) (name : List UInt8) : Handle × Script :=
  match s.resolution name with
  | .found => s.takeHandle
  | .null => (0, s)
  | .thrown => (0, { s with pending := true })

/-- The answer to a request for a reference. -/
def newReference (s : Script) : Handle × Script :=
  if s.isNull .newGlobalRef then (0, s) else s.takeHandle

/-- The code and the pointer of an entry. -/
def pointer (s : Script) (e : TableEntry) : PointerAnswer :=
  ⟨s.code e, s.isNull e⟩

/-- The machine that follows its script. -/
def machine : Machine Script where
  findClass name s := s.entry .findClass (s.find name)
  exceptionCheck s := s.entry .exceptionCheck (s.pending, s)
  newGlobalRef _ s := s.entry .newGlobalRef s.newReference
  deleteGlobalRef _ s := s.entry .deleteGlobalRef s
  registerNatives _ _ _ s := s.entry .registerNatives (s.code .registerNatives, s)
  getJavaVm s := s.entry .getJavaVm (s.pointer .getJavaVm, s)
  getEnvironment _ s := s.entry .getEnvironment (s.pointer .getEnvironment, s)
  attachCurrentThread s := s.entry .attachCurrentThread (s.code .attachCurrentThread, s)
  detachCurrentThread s := s.entry .detachCurrentThread s

end Script
end ClassBridge
