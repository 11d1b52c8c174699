/-
  ClassBridge.Session.Basic
  ─────────────────────────
  **A session with a machine in it.**

  The state of a session is the machine, the registry that was installed, the
  cached class references, the references held by callers, and the trace of
  all that was done: calls into the machine and records of the log, in order.

  A global reference is told from others by its serial number; the machine
  may hand out the same handle more than once.
-/
import ClassBridge.Machine
import ClassBridge.Registry.Basic

namespace ClassBridge

/-- A global reference to a class, shared by all who hold it. -/
structure GlobalRef where
  /-- Counts the references of the session. -/
  serial : Nat
  /-- What the machine knows the reference by. -/
  handle : Handle
  deriving Repr, DecidableEq

/-! ## §1. The log. -/

/-- How much a record matters. -/
inductive LogLevel where
  | debug
  | info
  | error
  deriving Repr, DecidableEq

/-- The name of a level. -/
def LogLevel.name : LogLevel → String
  | .debug => "DEBUG"
  | .info => "INFO"
  | .error => "ERROR"

/-- A record of the log. -/
inductive LogRecord where
  /-- A mapping was accepted into a registry. -/
  | mapped (m : Mapping)
  /-- A class was found. -/
  | loaded (className : String)
  /-- A class was not found. -/
  | notFound (className : String)
  /-- Methods were bound. -/
  | registered (count : Nat) (qualifiedName : String)
  /-- Methods were not bound. -/
  | notRegistered (count : Nat) (qualifiedName : String)
  /-- The class cache is being cleared. -/
  | releasing (count : Nat)
  /-- A registry was installed. -/
  | installed (count : Nat)
  /-- A library could not be loaded. -/
  | notLoaded (e : Error)
  deriving DecidableEq

namespace LogRecord

/-- How much a record matters. -/
def level : LogRecord → LogLevel
  | .mapped _ | .loaded _ | .releasing _ => .debug
  | .registered _ _ | .installed _ => .info
  | .notFound _ | .notRegistered _ _ | .notLoaded _ => .error

/-- The text of a record. -/
def message : LogRecord → String
  | .mapped m =>
    "Mapped " ++ m.type.name ++ " to Java " ++ m.kind.display ++ " " ++ m.qualifiedName
  | .loaded className => "Loaded " ++ className ++ " Java class"
  | .notFound className => "Failed to find " ++ className ++ " Java class"
  | .registered count qualifiedName =>
    "Registered " ++ toString count ++ " native methods for " ++ qualifiedName
  | .notRegistered count qualifiedName =>
    "Failed to register " ++ toString count ++ " native methods for " ++ qualifiedName
  | .releasing count => "Releasing " ++ toString count ++ " cached Java classes"
  | .installed count => "Installed Java class registry with " ++ toString count ++ " classes"
  | .notLoaded e => "Failed to load native library: " ++ e.message

end LogRecord

/-! ## §2. The trace. -/

/-- One thing a session did. -/
inductive Event where
  /-- Wrote a record to the log. -/
  | log (r : LogRecord)
  /-- Looked up a class by its encoded name. -/
  | findClass (name : List UInt8) (result : Handle)
  /-- Asked for a pending exception. -/
  | exceptionCheck (pending : Bool)
  /-- Had a global reference made. -/
  | newGlobalRef (source result : Handle)
  /-- Gave a global reference back. -/
  | deleteGlobalRef (ref : GlobalRef)
  /-- Had methods of a class bound. -/
  | registerNatives (target : Handle) (rows : List MethodRow) (count : Int32) (code : Code)
  /-- Asked for the machine. -/
  | getJavaVm (code : Code)
  /-- Asked for the thread's environment. -/
  | getEnvironment (version : Nat) (code : Code)
  /-- Attached the thread. -/
  | attachCurrentThread (code : Code)
  /-- Detached the thread. -/
  | detachCurrentThread
  deriving DecidableEq

/-! ## §3. The state. -/

/-- The state of a session. -/
structure Session (σ : Type) where
  /-- The state of the machine. -/
  machine : σ
  /-- The registry of the session, once one is installed. -/
  installed : Option Registry := none
  /-- The cached references by class name. -/
  cache : List (String × GlobalRef) := []
  /-- The references that callers hold, each under a name of theirs. -/
  held : List (String × GlobalRef) := []
  /-- The serial number of the next global reference. -/
  nextSerial : Nat := 0
  /-- What was done so far. -/
  trace : List Event := []

namespace Session

variable {σ : Type}

/-- The session that begins with the given machine. -/
def start (s : σ) : Session σ := { machine := s }

/-- The machine has moved on, and this is what was done. -/
def advance (p : Session σ) (s : σ) (e : Event) : Session σ :=
  { p with machine := s, trace := p.trace ++ [e] }

/-- Writes a record to the log. -/
def log (p : Session σ) (r : LogRecord) : Session σ :=
  { p with trace := p.trace ++ [.log r] }

/-- The cached reference of a class name. -/
def cached? (p : Session σ) (className : String) : Option GlobalRef :=
  p.cache.lookup className

/-- The reference held under a name. -/
def held? (p : Session σ) (slot : String) : Option GlobalRef :=
  p.held.lookup slot

/-- Caches a reference. -/
def remember (p : Session σ) (className : String) (ref : GlobalRef) : Session σ :=
  { p with cache := p.cache ++ [(className, ref)] }

/-- Whether the cache or a caller holds a reference. -/
def holds (p : Session σ) (ref : GlobalRef) : Bool :=
  p.cache.any (fun e => e.2.serial == ref.serial)
    || p.held.any (fun e => e.2.serial == ref.serial)

/-- The registry of the session. -/
def registry (p : Session σ) : Except Error Registry :=
  match p.installed with
  | some r => .ok r
  | none => .error .notInstalled

/-- Builds a registry, with a record for each mapping that is accepted. -/
def buildRegistry (p : Session σ) (ms : List Mapping) : Except Error Registry × Session σ :=
  (Registry.build ms,
    (Registry.accepted ms).foldl (fun p m => p.log (.mapped m)) p)

/-- Makes a registry that of the session.  Only the first one is taken. -/
def install (p : Session σ) (r : Registry) : Except Error Unit × Session σ :=
  match p.installed with
  | some _ => (.error .alreadyInstalled, p)
  | none => (.ok (), { p with installed := some r }.log (.installed r.size))

end Session
end ClassBridge
