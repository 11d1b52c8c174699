/-
  ClassBridge.Error
  ─────────────────
  **What can go wrong, and how it is said.**

  Every error is a cause with the data that its text names.  `message` is the
  text for a reader; `details` shows the cause with its fields, where they
  have a form that does not change from run to run.
-/
import ClassBridge.Text.Quoted
import ClassBridge.Declaration

namespace ClassBridge

/-- The identity of a native type. -/
structure TypeId where
  /-- Two types are the same exactly if their tokens are. -/
  token : String
  deriving Repr, DecidableEq

/-- A native type: its identity, and its name for diagnostics. -/
structure NativeType where
  /-- What tells types apart. -/
  id : TypeId
  /-- What a reader sees. -/
  name : String
  deriving Repr, DecidableEq

/-- A number returned by the machine. -/
abbrev Code := Int32

/-- Why a call into the machine failed. -/
inductive CallError where
  /-- The call left an exception pending. -/
  | exceptionThrown
  /-- A null pointer came back where an object was due. -/
  | nullPointer (place : String)
  /-- The thread is not attached to the machine. -/
  | threadDetached
  /-- The call returned another code than success. -/
  | failed (code : Code)
  /-- The environment's table lacks a function. -/
  | missingEnvEntry (name : String)
  /-- The machine's table lacks a function. -/
  | missingVmEntry (name : String)
  deriving Repr, DecidableEq

/-- The text of a failed call. -/
def CallError.message : CallError → String
  | .exceptionThrown => "Java exception was thrown"
  | .nullPointer place => "null pointer in " ++ place
  | .threadDetached => "Current thread is not attached to the java VM"
  | .failed code => "JNI error: " ++ toString code.toInt
  | .missingEnvEntry name => "JNIEnv null method pointer for " ++ name
  | .missingVmEntry name => "JavaVM null method pointer for " ++ name

/-- Why classes cannot be registered, installed, looked up or bound. -/
inductive Error where
  /-- The same native type was added twice. -/
  | duplicateType (type : NativeType)
  /-- Two native types claim one class. -/
  | duplicateClassName (qualifiedName first second : String)
  /-- A registry has been installed before. -/
  | alreadyInstalled
  /-- No registry has been installed. -/
  | notInstalled
  /-- The type is not in the registry. -/
  | unregisteredType (name : String)
  /-- The function table lacks an entry. -/
  | missingFunction (name : String)
  /-- The machine refused to bind methods of a class. -/
  | registrationRefused (className : String) (code : Code)
  /-- A call into the machine failed. -/
  | call (cause : CallError)
  deriving Repr, DecidableEq

namespace Error

/-- The text of an error. -/
def message : Error → String
  | .duplicateType type => type.name ++ " is already mapped to a Java class"
  | .duplicateClassName qualifiedName first second =>
    "Java class " ++ qualifiedName ++ " is mapped by both " ++ first ++ " and " ++ second
  | .alreadyInstalled => "A class registry has already been installed"
  | .notInstalled => "No class registry has been installed"
  | .unregisteredType name => name ++ " has not been registered as a Java class"
  | .missingFunction name => "The JNI function table has no " ++ name ++ " entry"
  | .registrationRefused className code =>
    "Failed to register native methods for " ++ className
      ++ " (error code " ++ toString code.toInt ++ ")"
  | .call _ => "JNI call failed"

/-- The kind of an error, without its data. -/
def kind : Error → String
  | .duplicateType _ => "DuplicateType"
  | .duplicateClassName _ _ _ => "DuplicateClassName"
  | .alreadyInstalled => "AlreadyInstalled"
  | .notInstalled => "NotInstalled"
  | .unregisteredType _ => "UnregisteredType"
  | .missingFunction _ => "MissingFunction"
  | .registrationRefused _ _ => "RegisterNatives"
  | .call _ => "Jni"

/-- The failed call behind an error. -/
def source? : Error → Option CallError
  | .call cause => some cause
  | _ => none

/-- A cause with named fields. -/
def withFields (name : String) (fields : List (String × String)) : String :=
  name ++ " \x7b " ++ ", ".intercalate (fields.map fun f => f.1 ++ ": " ++ f.2) ++ " \x7d"

/-- A cause with its data; `none` where that shows an identity or a call. -/
def details? (e : Error) : Option String :=
  match e with
  | .duplicateType _ => none
  | .duplicateClassName qualifiedName first second =>
    some (withFields e.kind [("qualified_name", Quoted.quoted qualifiedName),
      ("first", Quoted.quoted first), ("second", Quoted.quoted second)])
  | .alreadyInstalled | .notInstalled => some e.kind
  | .unregisteredType name | .missingFunction name =>
    some (e.kind ++ "(" ++ Quoted.quoted name ++ ")")
  | .registrationRefused className code =>
    some (withFields e.kind [("class_name", Quoted.quoted className),
      ("code", toString code.toInt)])
  | .call _ => none

end Error
end ClassBridge
