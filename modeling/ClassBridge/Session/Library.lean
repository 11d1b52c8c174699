/-
  ClassBridge.Session.Library
  ───────────────────────────
  **Loading and unloading a native library.**

  Loading runs an initializer, gets all classes of the registry it makes, and
  installs that registry.  If the classes cannot be got or a registry is
  installed already, the class cache is cleared, so that the attempt leaves
  nothing behind and another one can follow.
-/
import ClassBridge.Session.ClassCache

namespace ClassBridge

/-- The version that a loaded library reports. -/
def loadedVersion : Code := 0x00010006

/-- What a library reports that could not be loaded. -/
def loadError : Code := -1

/-- How an initializer ends. -/
inductive Ending where
  /-- With the registry of the library. -/
  | ready (r : Registry)
  /-- With an error. -/
  | failed (e : Error)
  /-- Cut short, by a text that cannot be built. -/
  | aborted (f : TextFault)

namespace Session

variable {σ : Type} (m : Machine σ)

/-- Installs a registry after getting its classes; clears the cache if either
fails. -/
def installPreloaded (r : Registry) (p : Session σ) : Except Error Unit × Session σ :=
  match preload m r p with
  | (.error e, p) => (.error e, clearCache m p)
  | (.ok (), p) =>
    match p.install r with
    | (.error e, p) => (.error e, clearCache m p)
    | (.ok (), p) => (.ok (), p)

/-- Reports that the library could not be loaded. -/
def refuseLoad (e : Error) (p : Session σ) : Except TextFault Code × Session σ :=
  (.ok loadError, p.log (.notLoaded e))

/-- Loads a library with the given initializer: the code it reports, or the
fault that cut the initializer short. -/
def load (initializer : Session σ → Ending × Session σ) (p : Session σ) :
    Except TextFault Code × Session σ :=
  match vmEnv m p with
  | (.error e, p) => refuseLoad (.call e) p
  | (.ok (), p) =>
    match initializer p with
    | (.aborted f, p) => (.error f, p)
    | (.failed e, p) => refuseLoad e p
    | (.ready r, p) =>
      match installPreloaded m r p with
      | (.error e, p) => refuseLoad e p
      | (.ok (), p) => (.ok loadedVersion, p)

/-- Loads a library on behalf of a machine, which must be given: without one
nothing is done. -/
def loadEntryPoint (machineGiven : Bool) (initializer : Session σ → Ending × Session σ)
    (p : Session σ) : Except TextFault Code × Session σ :=
  if machineGiven then load m initializer p else (.ok loadError, p)

/-- Unloads a library: its classes are forgotten, its registry stays. -/
def unload (p : Session σ) : Session σ := clearCache m p

end Session
end ClassBridge
