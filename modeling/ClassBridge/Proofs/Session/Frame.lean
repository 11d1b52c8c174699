/-
  ClassBridge.Proofs.Session.Frame
  ────────────────────────────────
  **What a call into the machine leaves as it is.**

  Calls into the machine and records of the log change the machine, the trace
  and the serial numbers; the installed registry, the cache and what callers
  hold stay the same:

      asking for the machine or the environment     sameTables_javaVm, _vmEnv
      making a reference, loading a class           sameTables_newReference, _loadClass
      giving a reference back                       sameTables_release, _letGo

  Clearing the cache empties the cache and leaves the other two.
-/
import ClassBridge.Session.Library

namespace ClassBridge.Session

variable {σ : Type}

/-! ## §1. The tables of a session. -/

/-- `q` has the installed registry, the cache and the held references of `p`. -/
structure SameTables (p q : Session σ) : Prop where
  installed : q.installed = p.installed
  cache : q.cache = p.cache
  held : q.held = p.held

theorem SameTables.refl (p : Session σ) : SameTables p p := ⟨rfl, rfl, rfl⟩

theorem SameTables.trans {p q s : Session σ} (h : SameTables p q) (h' : SameTables q s) :
    SameTables p s :=
  ⟨h'.installed.trans h.installed, h'.cache.trans h.cache, h'.held.trans h.held⟩

theorem SameTables.cached? {p q : Session σ} (h : SameTables p q) (className : String) :
    q.cached? className = p.cached? className := by
  unfold Session.cached?
  rw [h.cache]

theorem sameTables_advance (p : Session σ) (s : σ) (e : Event) : SameTables p (p.advance s e) :=
  ⟨rfl, rfl, rfl⟩

theorem sameTables_log (p : Session σ) (r : LogRecord) : SameTables p (p.log r) :=
  ⟨rfl, rfl, rfl⟩

variable (m : Machine σ)

/-! ## §2. Asking and making. -/

theorem sameTables_javaVm (p : Session σ) : SameTables p (javaVm m p).2 := by
  unfold javaVm
  split
  · exact .refl p
  · exact sameTables_advance p _ _

theorem sameTables_vmEnv (p : Session σ) : SameTables p (vmEnv m p).2 := by
  unfold vmEnv
  split
  · exact .refl p
  · exact sameTables_advance p _ _

theorem sameTables_newReference (source : Handle) (p : Session σ) :
    SameTables p (newReference m source p).2 := by
  unfold newReference
  split
  · exact .refl p
  · next h s _ =>
    -- the reference is there, and the machine is asked for once more
    have hvm := sameTables_javaVm m (p.advance s (.newGlobalRef source h))
    split
    · next hj =>
      rw [hj] at hvm
      exact (sameTables_advance p _ _).trans hvm
    · next hj =>
      rw [hj] at hvm
      exact (sameTables_advance p _ _).trans ⟨hvm.installed, hvm.cache, hvm.held⟩

theorem sameTables_findClass (className : String) (p : Session σ) :
    SameTables p (findClass m className p).2 := by
  unfold findClass
  split
  · exact .refl p
  · next h s _ =>
    have hfound := sameTables_advance p s (.findClass (Utf8.encodeModified className) h)
    dsimp only
    split
    · exact hfound
    · next pending s' _ =>
      have hchecked := hfound.trans (sameTables_advance _ s' (.exceptionCheck pending))
      split
      · exact hchecked
      · split
        · exact hchecked
        · exact hchecked

theorem sameTables_loadClass (className : String) (p : Session σ) :
    SameTables p (loadClass m className p).2 := by
  have hfind := sameTables_findClass m className p
  unfold loadClass
  split
  · next hf =>
    rw [hf] at hfind
    exact hfind.trans (sameTables_log _ _)
  · next h q hf =>
    rw [hf] at hfind
    have hnew := sameTables_newReference m h (q.log (.loaded className))
    have hall := (hfind.trans (sameTables_log _ _)).trans hnew
    split
    · next hn =>
      rw [hn] at hall
      exact hall
    · next hn =>
      rw [hn] at hall
      exact hall

theorem sameTables_of_loadClass {m : Machine σ} {className : String} {p q : Session σ}
    {result : Except Error GlobalRef} (hl : loadClass m className p = (result, q)) :
    SameTables p q := by
  have hsame := sameTables_loadClass m className p
  rwa [hl] at hsame

/-! ## §3. Giving back. -/

theorem sameTables_delete (ref : GlobalRef) (p : Session σ) : SameTables p (delete m ref p) := by
  unfold delete
  split
  · exact .refl p
  · exact sameTables_advance p _ _

theorem sameTables_deleteAttached (ref : GlobalRef) (p : Session σ) :
    SameTables p (deleteAttached m ref p) := by
  unfold deleteAttached
  split
  · exact .refl p
  · dsimp only
    split
    · exact (sameTables_advance p _ _).trans (sameTables_delete m ref _)
    · exact sameTables_advance p _ _

theorem sameTables_detach (p : Session σ) : SameTables p (detach m p) := by
  unfold detach
  split
  · exact .refl p
  · exact sameTables_advance p _ _

theorem sameTables_release (ref : GlobalRef) (p : Session σ) : SameTables p (release m ref p) := by
  have henv := sameTables_vmEnv m p
  unfold release
  split
  · next he =>
    rw [he] at henv
    exact henv.trans (sameTables_delete m ref _)
  · next q he =>
    -- without an environment the thread is attached for the deletion
    rw [he] at henv
    have henv' := henv.trans (sameTables_vmEnv m q)
    split
    · next he' =>
      rw [he'] at henv'
      exact henv'.trans (sameTables_delete m ref _)
    · next he' =>
      rw [he'] at henv'
      exact (henv'.trans (sameTables_deleteAttached m ref _)).trans (sameTables_detach m _)

theorem sameTables_letGo (ref : GlobalRef) (p : Session σ) : SameTables p (letGo m ref p) := by
  unfold letGo
  split
  · exact .refl p
  · exact sameTables_release m ref p

theorem sameTables_foldl_letGo (refs : List GlobalRef) (p : Session σ) :
    SameTables p (refs.foldl (fun p ref => letGo m ref p) p) := by
  induction refs generalizing p with
  | nil => exact .refl p
  | cons ref refs ih => exact (sameTables_letGo m ref p).trans (ih (letGo m ref p))

/-- Clearing empties the cache, and leaves the registry and what callers hold. -/
theorem sameTables_clearCache (p : Session σ) :
    SameTables { p with cache := [] } (clearCache m p) := by
  unfold clearCache
  dsimp only
  refine SameTables.trans ?_ (sameTables_foldl_letGo m _ _)
  exact ⟨rfl, rfl, rfl⟩

end ClassBridge.Session
