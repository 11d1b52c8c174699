/-
  ClassBridge.Machine
  ───────────────────
  **The virtual machine behind its function tables.**

  A machine is a state and a function for each table entry that is used.  A
  function may answer differently each time, and `none` says that the table
  lacks the entry at that moment; nothing else is assumed about a machine, so
  whatever is shown for all machines holds for any behaviour of a real one.
-/
import ClassBridge.Error
import ClassBridge.Text.ZString

namespace ClassBridge

/-- A reference as the machine hands it out; `0` is null. -/
abbrev Handle := Nat

/-- The entries of the machine's function tables that are called. -/
inductive TableEntry where
  | findClass
  | exceptionCheck
  | newGlobalRef
  | deleteGlobalRef
  | registerNatives
  | getJavaVm
  | getEnvironment
  | attachCurrentThread
  | detachCurrentThread
  deriving Repr, DecidableEq

namespace TableEntry

/-- All entries. -/
def all : List TableEntry :=
  [.findClass, .exceptionCheck, .newGlobalRef, .deleteGlobalRef, .registerNatives, .getJavaVm,
    .getEnvironment, .attachCurrentThread, .detachCurrentThread]

/-- The name of an entry. -/
def name : TableEntry → String
  | .findClass => "FindClass"
  | .exceptionCheck => "ExceptionCheck"
  | .newGlobalRef => "NewGlobalRef"
  | .deleteGlobalRef => "DeleteGlobalRef"
  | .registerNatives => "RegisterNatives"
  | .getJavaVm => "GetJavaVM"
  | .getEnvironment => "GetEnv"
  | .attachCurrentThread => "AttachCurrentThread"
  | .detachCurrentThread => "DetachCurrentThread"

/-- The entry of a name. -/
def ofName? (name : String) : Option TableEntry :=
  all.find? fun e => e.name == name

theorem ofName?_name (e : TableEntry) : ofName? e.name = some e := by
  cases e <;> decide

end TableEntry

/-- The version that is asked for when a thread's environment is wanted. -/
def environmentVersion : Nat := 0x00010001

/-- A row of the table of native methods: two pieces of memory that are read
as C strings, and the address of the function. -/
structure MethodRow where
  /-- The memory that holds the method's name. -/
  name : List UInt8
  /-- The memory that holds the method's descriptor. -/
  signature : List UInt8
  /-- The address of the function. -/
  function : Nat
  deriving Repr, DecidableEq

/-- A native function and the Java method it implements. -/
structure MethodBinding where
  /-- The name of the method. -/
  name : ZString
  /-- The descriptor of the method. -/
  signature : ZString
  /-- The address of the function. -/
  function : Nat
  deriving DecidableEq

namespace MethodBinding

/-- Terminates a name, then a descriptor. -/
def ofText (name signature : String) (function : Nat) : Except TextFault MethodBinding := do
  let z ← ZString.ofText name
  let w ← ZString.ofText signature
  .ok ⟨z, w, function⟩

/-- The row of a binding points at the buffers of its two texts. -/
def toRow (b : MethodBinding) : MethodRow :=
  ⟨b.name.buffer, b.signature.buffer, b.function⟩

/-- An address in lower-case hexadecimal digits. -/
def address (n : Nat) : String :=
  "0x" ++ String.ofList (Nat.toDigits 16 n)

/-- A binding with its fields. -/
def details (b : MethodBinding) : String :=
  Error.withFields "NativeMethod" [("name", Quoted.quoted b.name.text),
    ("signature", Quoted.quoted b.signature.text), ("fn_ptr", address b.function)]

end MethodBinding

/-- What a function returns that hands out a pointer: a code, and whether the
pointer is null. -/
structure PointerAnswer where
  code : Code
  isNull : Bool
  deriving Repr, DecidableEq

/-- What a pointer is good for: code `0` and not null. -/
def PointerAnswer.check (a : PointerAnswer) : Except CallError Unit :=
  if a.code = -2 then .error .threadDetached
  else if a.code ≠ 0 then .error (.failed a.code)
  else if a.isNull then .error (.nullPointer "from_raw ptr argument")
  else .ok ()

/-- The functions of a machine with states in `σ`. -/
structure Machine (σ : Type) where
  /-- Finds the class with an encoded name. -/
  findClass : List UInt8 → σ → Option (Handle × σ)
  /-- Whether an exception is pending. -/
  exceptionCheck : σ → Option (Bool × σ)
  /-- Makes a reference that outlives the call. -/
  newGlobalRef : Handle → σ → Option (Handle × σ)
  /-- Gives such a reference back. -/
  deleteGlobalRef : Handle → σ → Option σ
  /-- Binds native functions to methods of a class. -/
  registerNatives : Handle → List MethodRow → Int32 → σ → Option (Code × σ)
  /-- Asks for the machine itself. -/
  getJavaVm : σ → Option (PointerAnswer × σ)
  /-- Asks for the environment of the current thread. -/
  getEnvironment : Nat → σ → Option (PointerAnswer × σ)
  /-- Attaches the current thread. -/
  attachCurrentThread : σ → Option (Code × σ)
  /-- Detaches the current thread. -/
  detachCurrentThread : σ → Option σ

end ClassBridge
