/-
  ClassBridge.Session.ClassCache
  ──────────────────────────────
  **Classes, looked up once and kept.**

      loadClass       looks a class up and makes a global reference to it
      getClass        the cached reference, or else a loaded one, which is
                      cached; a failure is not
      preload         gets the classes of a registry in order, up to the
                      first failure
      bindMethods     binds native functions to methods of a class
      clearCache      forgets all classes
-/
import ClassBridge.Session.Reference

namespace ClassBridge.Session

variable {σ : Type} (m : Machine σ)

/-! ## §1. Loading. -/

/-- Looks a class up.  A pending exception is found before a null handle. -/
def findClass (className : String) (p : Session σ) : Except CallError Handle × Session σ :=
  match m.findClass (Utf8.encodeModified className) p.machine with
  | none => (.error (.missingEnvEntry TableEntry.findClass.name), p)
  | some (h, s) =>
    let p := p.advance s (.findClass (Utf8.encodeModified className) h)
    match m.exceptionCheck p.machine with
    | none => (.error (.missingEnvEntry TableEntry.exceptionCheck.name), p)
    | some (pending, s) =>
      let p := p.advance s (.exceptionCheck pending)
      if pending then (.error .exceptionThrown, p)
      else if h = 0 then (.error (.nullPointer "FindClass result"), p)
      else (.ok h, p)

/-- Looks a class up and makes a global reference to it, past the cache. -/
def loadClass (className : String) (p : Session σ) : Except Error GlobalRef × Session σ :=
  match findClass m className p with
  | (.error e, p) => (.error (.call e), p.log (.notFound className))
  | (.ok h, p) =>
    match newReference m h (p.log (.loaded className)) with
    | (.error e, p) => (.error (.call e), p)
    | (.ok ref, p) => (.ok ref, p)

/-! ## §2. The cache. -/

/-- The reference of a class: the cached one if there is one, or else a new
one, which is cached. -/
def getClass (className : String) (p : Session σ) : Except Error GlobalRef × Session σ :=
  match p.cached? className with
  | some ref => (.ok ref, p)
  | none =>
    match loadClass m className p with
    | (.error e, p) => (.error e, p)
    | (.ok ref, p) => (.ok ref, p.remember className ref)

/-- Gets classes in order, up to the first failure. -/
def getClasses : List String → Session σ → Except Error Unit × Session σ
  | [], p => (.ok (), p)
  | className :: rest, p =>
    match getClass m className p with
    | (.error e, p) => (.error e, p)
    | (.ok _, p) => getClasses rest p

/-- Gets the classes of a registry in the order of its mappings. -/
def preload (r : Registry) (p : Session σ) : Except Error Unit × Session σ :=
  getClasses m (r.mappings.map fun e => e.className.text) p

/-- Forgets all classes, and gives back those that no caller holds, in
ascending order of their handles. -/
def clearCache (p : Session σ) : Session σ :=
  let refs := p.cache.map fun e => e.2
  let p := { p.log (.releasing refs.length) with cache := [] }
  (refs.mergeSort fun a b => a.handle ≤ b.handle).foldl (fun p ref => letGo m ref p) p

/-! ## §3. References for callers. -/

/-- Gets a class for a caller, who keeps it under a name or lets go of it. -/
def getClassFor (slot : Option String) (className : String) (p : Session σ) :
    Except Error GlobalRef × Session σ :=
  match getClass m className p with
  | (.error e, p) => (.error e, p)
  | (.ok ref, p) => (.ok ref, keep m slot ref p)

/-- Loads a class for a caller, who keeps it under a name or lets go of it. -/
def loadClassFor (slot : Option String) (className : String) (p : Session σ) :
    Except Error GlobalRef × Session σ :=
  match loadClass m className p with
  | (.error e, p) => (.error e, p)
  | (.ok ref, p) => (.ok ref, keep m slot ref p)

/-! ## §4. Native methods. -/

/-- Binds native functions to methods of a class.  The class is got first and
stays cached, whatever becomes of the methods. -/
def bindMethods (c : ClassConstants) (methods : List MethodBinding) (p : Session σ) :
    Except Error Unit × Session σ :=
  match getClass m c.className.text p with
  | (.error e, p) => (.error e, p)
  | (.ok ref, p) =>
    let rows := methods.map MethodBinding.toRow
    let count := Int32.ofNat methods.length
    match m.registerNatives ref.handle rows count p.machine with
    | none => (.error (.missingFunction TableEntry.registerNatives.name), p)
    | some (code, s) =>
      let p := p.advance s (.registerNatives ref.handle rows count code)
      if code = 0 then (.ok (), p.log (.registered methods.length c.qualifiedName))
      else
        (.error (.registrationRefused c.qualifiedName code),
          p.log (.notRegistered methods.length c.qualifiedName))

end ClassBridge.Session
