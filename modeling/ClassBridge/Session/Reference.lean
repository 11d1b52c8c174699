/-
  ClassBridge.Session.Reference
  ─────────────────────────────
  **Making, sharing and giving back global references.**

  A reference lives as long as the cache or a caller holds it.  When the last
  holder lets go it is given back to the machine, which takes an environment
  of the current thread: if there is none the thread is attached for the
  purpose and detached afterwards.

  The machine is reached through an interface of its own.  Which calls that
  makes, in which order, and that a reference is shared by its holders, is taken
  from there as it is; the answers to the calls are the machine's, whatever they
  are.
-/
import ClassBridge.Session.Basic

namespace ClassBridge.Session

variable {σ : Type} (m : Machine σ)

/-! ## §1. Asking for the machine and the environment. -/

/-- Asks for the machine itself. -/
def javaVm (p : Session σ) : Except CallError Unit × Session σ :=
  match m.getJavaVm p.machine with
  | none => (.error (.missingEnvEntry TableEntry.getJavaVm.name), p)
  | some (a, s) => (a.check, p.advance s (.getJavaVm a.code))

/-- Asks for the environment of the current thread. -/
def vmEnv (p : Session σ) : Except CallError Unit × Session σ :=
  match m.getEnvironment environmentVersion p.machine with
  | none => (.error (.missingVmEntry TableEntry.getEnvironment.name), p)
  | some (a, s) => (a.check, p.advance s (.getEnvironment environmentVersion a.code))

/-! ## §2. Making a reference. -/

/-- Makes a global reference.  It counts as made only when the machine itself
can be had; otherwise what was made is lost. -/
def newReference (source : Handle) (p : Session σ) : Except CallError GlobalRef × Session σ :=
  match m.newGlobalRef source p.machine with
  | none => (.error (.missingEnvEntry TableEntry.newGlobalRef.name), p)
  | some (h, s) =>
    match javaVm m (p.advance s (.newGlobalRef source h)) with
    | (.error e, p) => (.error e, p)
    | (.ok (), p) => (.ok ⟨p.nextSerial, h⟩, { p with nextSerial := p.nextSerial + 1 })

/-! ## §3. Giving a reference back. -/

/-- Gives a reference back, if the table has the entry. -/
def delete (ref : GlobalRef) (p : Session σ) : Session σ :=
  match m.deleteGlobalRef ref.handle p.machine with
  | none => p
  | some s => p.advance s (.deleteGlobalRef ref)

/-- Attaches the thread, and gives a reference back if that worked. -/
def deleteAttached (ref : GlobalRef) (p : Session σ) : Session σ :=
  match m.attachCurrentThread p.machine with
  | none => p
  | some (code, s) =>
    let p := p.advance s (.attachCurrentThread code)
    if code = 0 then delete m ref p else p

/-- Detaches the thread, if the table has the entry. -/
def detach (p : Session σ) : Session σ :=
  match m.detachCurrentThread p.machine with
  | none => p
  | some s => p.advance s .detachCurrentThread

/-- Gives back a reference that nobody holds any more.  The environment is
asked for twice before the thread is attached. -/
def release (ref : GlobalRef) (p : Session σ) : Session σ :=
  match vmEnv m p with
  | (.ok (), p) => delete m ref p
  | (.error _, p) =>
    match vmEnv m p with
    | (.ok (), p) => delete m ref p
    | (.error _, p) => detach m (deleteAttached m ref p)

/-- One holder has let go of a reference: it is given back if that was the
last one. -/
def letGo (ref : GlobalRef) (p : Session σ) : Session σ :=
  if p.holds ref then p else release m ref p

/-! ## §4. References held by callers. -/

/-- Holds a reference under a name, in place of what was held there. -/
def hold (slot : String) (ref : GlobalRef) (p : Session σ) : Session σ :=
  let p' := { p with held := (slot, ref) :: p.held.filter (fun e => e.1 ≠ slot) }
  match p.held? slot with
  | none => p'
  | some old => letGo m old p'

/-- Keeps a reference under a name, or lets go of it at once. -/
def keep (slot : Option String) (ref : GlobalRef) (p : Session σ) : Session σ :=
  match slot with
  | some slot => hold m slot ref p
  | none => letGo m ref p

/-- Lets go of what is held under a name; `false` if nothing is. -/
def dropHeld (slot : String) (p : Session σ) : Bool × Session σ :=
  match p.held? slot with
  | none => (false, p)
  | some ref => (true, letGo m ref { p with held := p.held.filter (fun e => e.1 ≠ slot) })

end ClassBridge.Session
