/-
  ClassBridge.Session.Program
  ───────────────────────────
  **Runs of any length.**

  A program is a tree: each node is a command or the loading of a library,
  and has a branch for each result that it may have.  The initializer of a
  library is a program itself, so a load may contain anything that a run may
  contain.  `run` carries a program out; every state that a session can reach
  is the last one of some run.
-/
import ClassBridge.Session.Library

namespace ClassBridge

/-! ## §1. Commands. -/

/-- One thing to do, other than loading a library. -/
inductive Command where
  /-- Build a registry. -/
  | build (ms : List Mapping)
  /-- Install a registry. -/
  | install (r : Registry)
  /-- Ask for the registry of the session. -/
  | registry
  /-- Get a class, to keep under a name or to let go of. -/
  | getClass (className : String) (slot : Option String)
  /-- Load a class, to keep under a name or to let go of. -/
  | loadClass (className : String) (slot : Option String)
  /-- Let go of what is held under a name. -/
  | dropHeld (slot : String)
  /-- Get the classes of a registry. -/
  | preload (r : Registry)
  /-- Bind native functions to methods of a class. -/
  | bindMethods (c : ClassConstants) (methods : List MethodBinding)
  /-- Ask for the machine. -/
  | javaVm
  /-- Clear the class cache. -/
  | clearCache
  /-- Unload a library. -/
  | unload

/-- What a command results in. -/
def Command.Result : Command → Type
  | .build _ | .registry => Except Error Registry
  | .install _ | .preload _ | .bindMethods _ _ | .javaVm => Except Error Unit
  | .getClass _ _ | .loadClass _ _ => Except Error GlobalRef
  | .dropHeld _ => Bool
  | .clearCache | .unload => Unit

namespace Session

variable {σ : Type} (m : Machine σ)

/-- Asks for the machine on behalf of a caller. -/
def askJavaVm (p : Session σ) : Except Error Unit × Session σ :=
  match javaVm m p with
  | (.ok (), p) => (.ok (), p)
  | (.error e, p) => (.error (.call e), p)

/-- Carries a command out. -/
def perform (c : Command) (p : Session σ) : c.Result × Session σ :=
  match c with
  | .build ms => p.buildRegistry ms
  | .install r => p.install r
  | .registry => (p.registry, p)
  | .getClass className slot => getClassFor m slot className p
  | .loadClass className slot => loadClassFor m slot className p
  | .dropHeld slot => dropHeld m slot p
  | .preload r => preload m r p
  | .bindMethods c methods => bindMethods m c methods p
  | .javaVm => askJavaVm m p
  | .clearCache => ((), clearCache m p)
  | .unload => ((), unload m p)

end Session

/-! ## §2. Programs. -/

/-- A program with a result in `α`. -/
inductive Program : Type → Type 1 where
  /-- Nothing more to do. -/
  | done {α : Type} (result : α) : Program α
  /-- Do one thing, and go on with its result. -/
  | call {α : Type} (c : Command) (next : c.Result → Program α) : Program α
  /-- Load a library through its entry point, and go on with what it reports. -/
  | load {α : Type} (machineGiven : Bool) (initializer : Program Ending)
      (next : Except TextFault Code → Program α) : Program α

/-- Carries a program out. -/
def Program.run {σ : Type} (m : Machine σ) {α : Type} :
    Program α → Session σ → α × Session σ
  | .done result, p => (result, p)
  | .call c next, p =>
    let r := Session.perform m c p
    (next r.1).run m r.2
  | .load machineGiven initializer next, p =>
    let r := Session.loadEntryPoint m machineGiven (fun p => initializer.run m p) p
    (next r.1).run m r.2

/-! ## §3. Initializers from a list of things to do. -/

/-- The texts of a method to bind. -/
structure MethodText where
  name : String
  signature : String
  function : Nat

/-- Terminates the texts of methods, in order. -/
def MethodText.bindings (rows : List MethodText) : Except TextFault (List MethodBinding) :=
  rows.mapM fun t => MethodBinding.ofText t.name t.signature t.function

/-- What an initializer does, in this order; it ends at the first failure. -/
structure LoadPlan where
  /-- Classes to get. -/
  touch : List String := []
  /-- An error to fail with. -/
  fail : Option Error := none
  /-- The mappings of the registry. -/
  classes : List Mapping := []
  /-- Methods to bind, class by class. -/
  methods : List (ClassConstants × List MethodText) := []

namespace LoadPlan

/-- Gets classes, then goes on. -/
def getAll (next : Program Ending) : List String → Program Ending
  | [] => next
  | className :: rest =>
    .call (.getClass className none) fun
      | .ok _ => getAll next rest
      | .error e => .done (.failed e)

/-- Binds the methods of each class, then ends with the registry. -/
def bindAll (r : Registry) : List (ClassConstants × List MethodText) → Program Ending
  | [] => .done (.ready r)
  | (c, rows) :: rest =>
    match MethodText.bindings rows with
    | .error f => .done (.aborted f)
    | .ok methods =>
      .call (.bindMethods c methods) fun
        | .ok () => bindAll r rest
        | .error e => .done (.failed e)

/-- Builds the registry and binds the methods. -/
def buildAndBind (plan : LoadPlan) : Program Ending :=
  .call (.build plan.classes) fun
    | .ok r => bindAll r plan.methods
    | .error e => .done (.failed e)

/-- The initializer that follows the plan. -/
def program (plan : LoadPlan) : Program Ending :=
  getAll
    (match plan.fail with
      | some e => .done (.failed e)
      | none => plan.buildAndBind)
    plan.touch

end LoadPlan
end ClassBridge
