/-
  ClassBridge.Proofs.Session.Surroundings
  ───────────────────────────────────────
  **Calls into the machine do not look around.**

  What a call does depends on the machine alone.  Put a session into other
  surroundings — other tables, an earlier trace, references that were
  numbered before its own — and a call gives the same answer and does the same
  to the machine; only its reference is numbered on from the earlier ones:

      loadClass_within      loading a class
      release_within        giving a reference back

  So a class is loaded past the cache without reading it or writing to it
  (`loadClass_cache`).
-/
import ClassBridge.Proofs.Session.Frame

namespace ClassBridge

/-! ## §1. Numbering on. -/

/-- The reference with `d` references before it. -/
def GlobalRef.renumber (d : Nat) (ref : GlobalRef) : GlobalRef :=
  { ref with serial := ref.serial + d }

@[simp] theorem GlobalRef.handle_renumber (d : Nat) (ref : GlobalRef) :
    (ref.renumber d).handle = ref.handle := rfl

/-- The event with `d` references before those it is about. -/
def Event.renumber (d : Nat) : Event → Event
  | .deleteGlobalRef ref => .deleteGlobalRef (ref.renumber d)
  | e => e

theorem Event.renumber_zero (e : Event) : e.renumber 0 = e := by
  cases e <;> rfl

/-- The references of a table, numbered on. -/
def renumberAll (d : Nat) (refs : List (String × GlobalRef)) : List (String × GlobalRef) :=
  refs.map fun e => (e.1, e.2.renumber d)

/-- What a session may find around it. -/
structure Surroundings where
  /-- The registry that is installed, from that of the session. -/
  installed : Option Registry → Option Registry := id
  /-- The cache, from that of the session. -/
  cache : List (String × GlobalRef) → List (String × GlobalRef) := id
  /-- What callers hold, from what they hold in the session. -/
  held : List (String × GlobalRef) → List (String × GlobalRef) := id
  /-- How many references were made before. -/
  serials : Nat := 0
  /-- What was done before. -/
  earlier : List Event := []

namespace Session

variable {σ : Type}

/-- The session as it stands in its surroundings. -/
def within (S : Surroundings) (p : Session σ) : Session σ where
  machine := p.machine
  installed := S.installed p.installed
  cache := S.cache p.cache
  held := S.held p.held
  nextSerial := p.nextSerial + S.serials
  trace := S.earlier ++ p.trace.map (Event.renumber S.serials)

variable (S : Surroundings)

@[simp] theorem machine_within (p : Session σ) : (p.within S).machine = p.machine := rfl

/-- A call that is not about a reference is the same in all surroundings. -/
theorem advance_within {e : Event} (he : e.renumber S.serials = e) (p : Session σ) (s : σ) :
    (p.within S).advance s e = (p.advance s e).within S := by
  simp [within, advance, he]

theorem log_within (p : Session σ) (r : LogRecord) :
    (p.within S).log r = (p.log r).within S := by
  simp [within, log, Event.renumber]

variable (m : Machine σ)

/-! ## §2. Loading a class. -/

theorem javaVm_within (p : Session σ) :
    javaVm m (p.within S) = ((javaVm m p).1, (javaVm m p).2.within S) := by
  unfold javaVm
  rw [machine_within]
  rcases m.getJavaVm p.machine with _ | ⟨a, s⟩
  · rfl
  · dsimp only
    rw [advance_within S rfl]

theorem vmEnv_within (p : Session σ) :
    vmEnv m (p.within S) = ((vmEnv m p).1, (vmEnv m p).2.within S) := by
  unfold vmEnv
  rw [machine_within]
  rcases m.getEnvironment environmentVersion p.machine with _ | ⟨a, s⟩
  · rfl
  · dsimp only
    rw [advance_within S rfl]

theorem findClass_within (className : String) (p : Session σ) :
    findClass m className (p.within S)
      = ((findClass m className p).1, (findClass m className p).2.within S) := by
  unfold findClass
  rw [machine_within]
  rcases m.findClass (Utf8.encodeModified className) p.machine with _ | ⟨h, s⟩
  · rfl
  · dsimp only
    rw [advance_within S rfl, machine_within]
    rcases m.exceptionCheck
        (p.advance s (.findClass (Utf8.encodeModified className) h)).machine with _ | ⟨pending, s'⟩
    · rfl
    · dsimp only
      rw [advance_within S rfl]
      split
      · rfl
      · split
        · rfl
        · rfl

/-- The reference is numbered on from those that were made before. -/
theorem newReference_within (source : Handle) (p : Session σ) :
    newReference m source (p.within S)
      = ((newReference m source p).1.map (GlobalRef.renumber S.serials),
        (newReference m source p).2.within S) := by
  unfold newReference
  rw [machine_within]
  rcases m.newGlobalRef source p.machine with _ | ⟨h, s⟩
  · rfl
  · dsimp only
    rw [advance_within S rfl, javaVm_within]
    rcases javaVm m (p.advance s (.newGlobalRef source h)) with ⟨result, q⟩
    cases result with
    | error e => rfl
    | ok =>
      have hnext : q.nextSerial + S.serials + 1 = q.nextSerial + 1 + S.serials := by omega
      simp [within, hnext, GlobalRef.renumber, Except.map]

/-- **Loading a class depends on nothing but the machine.** -/
theorem loadClass_within (className : String) (p : Session σ) :
    loadClass m className (p.within S)
      = ((loadClass m className p).1.map (GlobalRef.renumber S.serials),
        (loadClass m className p).2.within S) := by
  unfold loadClass
  rw [findClass_within]
  rcases findClass m className p with ⟨result, q⟩
  cases result with
  | error e =>
    dsimp only
    rw [log_within]
    rfl
  | ok h =>
    dsimp only
    rw [log_within, newReference_within]
    rcases newReference m h (q.log (.loaded className)) with ⟨result, q'⟩
    cases result with
    | error e => rfl
    | ok ref => rfl

/-- Where nothing was done before, other surroundings are other tables. -/
theorem within_tables (installed : Option Registry → Option Registry)
    (cache : List (String × GlobalRef) → List (String × GlobalRef)) (p : Session σ) :
    p.within { installed, cache }
      = { p with installed := installed p.installed, cache := cache p.cache } := by
  have htrace : p.trace.map (Event.renumber 0) = p.trace := by
    rw [funext Event.renumber_zero, List.map_id']
  simp [within, htrace]

/-- Nothing is renumbered then, either. -/
theorem map_renumber_zero (result : Except Error GlobalRef) :
    result.map (GlobalRef.renumber 0) = result := by
  cases result with
  | error e => rfl
  | ok ref => rfl

/-- **Loading a class neither reads the cache nor writes to it.** -/
theorem loadClass_cache (className : String) (p : Session σ) (c : List (String × GlobalRef)) :
    loadClass m className { p with cache := c }
      = ((loadClass m className p).1, { (loadClass m className p).2 with cache := c }) := by
  have h := loadClass_within { cache := fun _ => c } m className p
  rw [within_tables, within_tables, map_renumber_zero] at h
  exact h

/-- The installed registry is not looked at, either. -/
theorem loadClass_installed (className : String) (p : Session σ) (installed : Option Registry) :
    loadClass m className { p with installed }
      = ((loadClass m className p).1, { (loadClass m className p).2 with installed }) := by
  have h := loadClass_within { installed := fun _ => installed } m className p
  rw [within_tables, within_tables, map_renumber_zero] at h
  exact h

/-! ## §3. Giving a reference back. -/

theorem delete_within (ref : GlobalRef) (p : Session σ) :
    delete m (ref.renumber S.serials) (p.within S) = (delete m ref p).within S := by
  unfold delete
  rw [machine_within, GlobalRef.handle_renumber]
  cases m.deleteGlobalRef ref.handle p.machine with
  | none => rfl
  | some s => simp [within, advance, Event.renumber]

theorem deleteAttached_within (ref : GlobalRef) (p : Session σ) :
    deleteAttached m (ref.renumber S.serials) (p.within S) = (deleteAttached m ref p).within S := by
  unfold deleteAttached
  rw [machine_within]
  rcases m.attachCurrentThread p.machine with _ | ⟨code, s⟩
  · rfl
  · dsimp only
    rw [advance_within S rfl]
    split
    · exact delete_within S m ref _
    · rfl

theorem detach_within (p : Session σ) : detach m (p.within S) = (detach m p).within S := by
  unfold detach
  rw [machine_within]
  cases m.detachCurrentThread p.machine with
  | none => rfl
  | some s => exact advance_within S rfl p s

/-- **Giving a reference back depends on nothing but the machine.** -/
theorem release_within (ref : GlobalRef) (p : Session σ) :
    release m (ref.renumber S.serials) (p.within S) = (release m ref p).within S := by
  unfold release
  rw [vmEnv_within]
  rcases vmEnv m p with ⟨result, q⟩
  cases result with
  | ok => exact delete_within S m ref q
  | error e =>
    dsimp only
    rw [vmEnv_within]
    rcases vmEnv m q with ⟨result, q'⟩
    cases result with
    | ok => exact delete_within S m ref q'
    | error e =>
      dsimp only
      rw [deleteAttached_within, detach_within]

end Session
end ClassBridge
