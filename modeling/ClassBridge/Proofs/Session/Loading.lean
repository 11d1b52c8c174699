/-
  ClassBridge.Proofs.Session.Loading
  ──────────────────────────────────
  **A registry is installed last, or not at all.**

  `Loads` lists what it takes to load a library: the environment is there, the
  initializer ends with a registry, the classes of that registry resolve from
  the cache the initializer left, and by then no registry is installed.
  `load_correct` — for every machine, every initializer and every session:

      the version is reported         exactly if the library `Loads`
      a fault gets out                exactly if the initializer is `CutShort`
      the error code is reported      in all other cases

  The registry is installed in a session in which all its classes are cached
  (`Loaded`); a load that fails installs nothing.
-/
import ClassBridge.Machine.Scripted
import ClassBridge.Proofs.Registry.Building
import ClassBridge.Proofs.Session.Preloading

namespace ClassBridge

theorem loadedVersion_ne_loadError : loadedVersion ≠ loadError := by decide

namespace Session

open Registry (classNames)

variable {σ : Type} {m : Machine σ}

/-! ## §1. Installing what has been preloaded. -/

/-- The class of a mapping is among those that are got. -/
theorem className_mem {r : Registry} {e : Mapping} (he : e ∈ r.mappings) :
    e.className.text ∈ classNames r.mappings :=
  List.mem_map.2 ⟨e, he, rfl⟩

/-- The session with a registry installed, and a record of it. -/
def commit (q : Session σ) (r : Registry) : Session σ :=
  { q with installed := some r }.log (.installed r.size)

theorem install_eq_commit {q : Session σ} (hv : q.installed = none) (r : Registry) :
    q.install r = (.ok (), q.commit r) := by
  unfold install
  rw [hv]
  rfl

theorem install_eq_refused {q : Session σ} {r₀ : Registry} (hv : q.installed = some r₀)
    (r : Registry) : q.install r = (.error .alreadyInstalled, q) := by
  unfold install
  rw [hv]

theorem installed_clearCache (m : Machine σ) (p : Session σ) :
    (clearCache m p).installed = p.installed :=
  (sameTables_clearCache m p).installed

theorem installPreloaded_eq_commit {r : Registry} {left q : Session σ}
    (hr : Resolves m (classNames r.mappings) left q) (hv : q.installed = none) :
    installPreloaded m r left = (.ok (), q.commit r) := by
  have hp : preload m r left = (.ok (), q) := (getClasses_eq_ok_iff _).2 hr
  unfold installPreloaded
  rw [hp]
  dsimp only
  rw [install_eq_commit hv]

/-- Where a class does not resolve or a registry is there already, nothing is
installed. -/
theorem installPreloaded_refused {r : Registry} {left : Session σ}
    (hno : ¬ ∃ q, Resolves m (classNames r.mappings) left q ∧ q.installed = none) :
    ∃ e s, installPreloaded m r left = (.error e, s) ∧ s.installed = left.installed := by
  rcases hp : getClasses m (classNames r.mappings) left with ⟨result, q⟩
  have hgrow : Extends left q := by
    have hall := extends_getClasses m (classNames r.mappings) left
    rwa [hp] at hall
  have hpreload : preload m r left = (result, q) := hp
  unfold installPreloaded
  rw [hpreload]
  cases result with
  | error e =>
    refine ⟨e, clearCache m q, rfl, ?_⟩
    rw [installed_clearCache, hgrow.installed]
  | ok =>
    cases hv : q.installed with
    | none =>
      -- the classes did resolve and there is room for a registry
      exact absurd ⟨q, (getClasses_eq_ok_iff _).1 hp, hv⟩ hno
    | some r₀ =>
      refine ⟨.alreadyInstalled, clearCache m q, ?_, ?_⟩
      · dsimp only
        rw [install_eq_refused hv]
      · rw [installed_clearCache, hgrow.installed]

/-! ## §2. Where loading ends. -/

section

variable {initializer : Session σ → Ending × Session σ} {p p' left s : Session σ}

/-- Without an environment the initializer does not run. -/
theorem load_of_noEnvironment {e : CallError} (henv : vmEnv m p = (.error e, p')) :
    load m initializer p = refuseLoad (.call e) p' := by
  rw [load, henv]

theorem load_of_aborted {f : TextFault} (henv : vmEnv m p = (.ok (), p'))
    (hinit : initializer p' = (.aborted f, left)) : load m initializer p = (.error f, left) := by
  rw [load, henv]
  dsimp only
  rw [hinit]

theorem load_of_failed {e : Error} (henv : vmEnv m p = (.ok (), p'))
    (hinit : initializer p' = (.failed e, left)) :
    load m initializer p = refuseLoad e left := by
  rw [load, henv]
  dsimp only
  rw [hinit]

theorem load_of_refused {r : Registry} {e : Error} (henv : vmEnv m p = (.ok (), p'))
    (hinit : initializer p' = (.ready r, left))
    (hinst : installPreloaded m r left = (.error e, s)) :
    load m initializer p = refuseLoad e s := by
  rw [load, henv]
  dsimp only
  rw [hinit]
  dsimp only
  rw [hinst]

theorem load_of_installed {r : Registry} (henv : vmEnv m p = (.ok (), p'))
    (hinit : initializer p' = (.ready r, left))
    (hinst : installPreloaded m r left = (.ok (), s)) :
    load m initializer p = (.ok loadedVersion, s) := by
  rw [load, henv]
  dsimp only
  rw [hinit]
  dsimp only
  rw [hinst]

end

/-! ## §3. What loading takes. -/

/-- The library loads: the initializer gets an environment and ends with the
registry `r` in the session `left`, and from there on the classes of `r`
resolve, up to a session `q` without a registry. -/
structure Loads (m : Machine σ) (initializer : Session σ → Ending × Session σ) (p : Session σ)
    (r : Registry) (left q : Session σ) : Prop where
  initialized : ∃ p', vmEnv m p = (.ok (), p') ∧ initializer p' = (.ready r, left)
  resolved : Resolves m (classNames r.mappings) left q
  vacant : q.installed = none

/-- The initializer gets an environment, and does not end. -/
def CutShort (m : Machine σ) (initializer : Session σ → Ending × Session σ) (p : Session σ)
    (f : TextFault) : Prop :=
  ∃ p', vmEnv m p = (.ok (), p') ∧ (initializer p').1 = .aborted f

/-- The session in which the initializer is over, or has been left out. -/
def handedOver (m : Machine σ) (initializer : Session σ → Ending × Session σ) (p : Session σ) :
    Session σ :=
  match vmEnv m p with
  | (.error _, p') => p'
  | (.ok (), p') => (initializer p').2

variable {initializer : Session σ → Ending × Session σ} {p : Session σ}

theorem handedOver_of_environment {p' left : Session σ} {ending : Ending}
    (henv : vmEnv m p = (.ok (), p')) (hinit : initializer p' = (ending, left)) :
    handedOver m initializer p = left := by
  rw [handedOver, henv]
  dsimp only
  rw [hinit]

theorem load_of_loads {r : Registry} {left q : Session σ} (h : Loads m initializer p r left q) :
    load m initializer p = (.ok loadedVersion, q.commit r) := by
  obtain ⟨p', henv, hinit⟩ := h.initialized
  exact load_of_installed henv hinit (installPreloaded_eq_commit h.resolved h.vacant)

theorem load_of_cutShort {f : TextFault} (h : CutShort m initializer p f) :
    (load m initializer p).1 = .error f := by
  obtain ⟨p', henv, hf⟩ := h
  rcases hinit : initializer p' with ⟨ending, left⟩
  rw [hinit] at hf
  obtain rfl : ending = .aborted f := hf
  rw [load_of_aborted henv hinit]

/-- A library that does not load leaves the registry to what it was handed. -/
theorem load_of_not_loads (hno : ¬ ∃ r left q, Loads m initializer p r left q) :
    ((∃ f, CutShort m initializer p f) ∨ (load m initializer p).1 = .ok loadError)
      ∧ (load m initializer p).2.installed = (handedOver m initializer p).installed := by
  rcases henv : vmEnv m p with ⟨result, p'⟩
  cases result with
  | error e =>
    rw [load_of_noEnvironment henv, handedOver, henv]
    exact ⟨.inr rfl, rfl⟩
  | ok =>
    rcases hinit : initializer p' with ⟨ending, left⟩
    rw [handedOver_of_environment henv hinit]
    cases ending with
    | aborted f =>
      rw [load_of_aborted henv hinit]
      exact ⟨.inl ⟨f, p', henv, by rw [hinit]⟩, rfl⟩
    | failed e =>
      rw [load_of_failed henv hinit]
      exact ⟨.inr rfl, rfl⟩
    | ready r =>
      -- what is left to fail is a class or the installation
      have hrefused : ¬ ∃ q, Resolves m (classNames r.mappings) left q ∧ q.installed = none := by
        rintro ⟨q, hr, hv⟩
        exact hno ⟨r, left, q, ⟨p', henv, hinit⟩, hr, hv⟩
      obtain ⟨e, s, hinst, hs⟩ := installPreloaded_refused hrefused
      rw [load_of_refused henv hinit hinst]
      exact ⟨.inr rfl, hs⟩

theorem load_eq_version_iff :
    (load m initializer p).1 = .ok loadedVersion ↔ ∃ r left q, Loads m initializer p r left q := by
  constructor
  · intro hv
    by_cases hyes : ∃ r left q, Loads m initializer p r left q
    · exact hyes
    · obtain ⟨⟨f, hcut⟩ | herr, _⟩ := load_of_not_loads hyes
      · rw [load_of_cutShort hcut] at hv
        cases hv
      · rw [herr] at hv
        exact absurd (Except.ok.inj hv).symm loadedVersion_ne_loadError
  · rintro ⟨r, left, q, h⟩
    rw [load_of_loads h]

theorem load_eq_fault_iff (f : TextFault) :
    (load m initializer p).1 = .error f ↔ CutShort m initializer p f := by
  refine ⟨?_, load_of_cutShort⟩
  intro hf
  by_cases hyes : ∃ r left q, Loads m initializer p r left q
  · obtain ⟨r, left, q, h⟩ := hyes
    rw [load_of_loads h] at hf
    cases hf
  · obtain ⟨⟨f', hcut⟩ | herr, _⟩ := load_of_not_loads hyes
    · rw [load_of_cutShort hcut] at hf
      obtain rfl : f' = f := Except.error.inj hf
      exact hcut
    · rw [herr] at hf
      cases hf

theorem load_eq_loadError_iff :
    (load m initializer p).1 = .ok loadError
      ↔ (¬ ∃ r left q, Loads m initializer p r left q) ∧ ¬ ∃ f, CutShort m initializer p f := by
  constructor
  · intro he
    refine ⟨?_, ?_⟩
    · rintro ⟨r, left, q, h⟩
      rw [load_of_loads h] at he
      exact loadedVersion_ne_loadError (Except.ok.inj he)
    · rintro ⟨f, hcut⟩
      rw [load_of_cutShort hcut] at he
      cases he
  · rintro ⟨hno, hnocut⟩
    exact (load_of_not_loads hno).1.resolve_left hnocut

/-! ## §4. What loading has done. -/

/-- How a session `final` has come about in which the library is loaded. -/
structure Loaded (m : Machine σ) (r : Registry) (left q final : Session σ) : Prop where
  /-- Nothing but the installation follows when the classes have resolved. -/
  last : final = q.commit r
  /-- The registry of the session is that of the library. -/
  registry : final.registry = .ok r
  /-- The registry is installed where all its classes are cached. -/
  cachedBefore : ∀ e ∈ r.mappings, (q.cached? e.className.text).isSome = true
  /-- They are cached in the end. -/
  cached : ∀ e ∈ r.mappings, (final.cached? e.className.text).isSome = true
  /-- So is all that the initializer left in the cache. -/
  kept : ∀ className ref, left.cached? className = some ref →
    final.cached? className = some ref
  /-- No class is looked up where a registry is installed. -/
  vacant : ∀ s, LooksUpIn m (classNames r.mappings) left s → s.installed = none

theorem Loads.vacant_left {r : Registry} {left q : Session σ}
    (h : Loads m initializer p r left q) : left.installed = none := by
  rw [← h.resolved.extends.installed, h.vacant]

theorem Loads.loaded {r : Registry} {left q : Session σ} (h : Loads m initializer p r left q) :
    Loaded m r left q (q.commit r) where
  last := rfl
  registry := rfl
  cachedBefore := by
    intro e he
    exact h.resolved.isSome_cached? _ (className_mem he)
  cached := by
    intro e he
    show (q.cached? e.className.text).isSome = true
    exact h.resolved.isSome_cached? _ (className_mem he)
  kept := by
    intro className ref hc
    show q.cached? className = some ref
    exact h.resolved.extends.cached className ref hc
  vacant := by
    intro s hs
    -- getting classes leaves the registry as it was, and there was none
    rw [hs.extends.installed, h.vacant_left]

/-- **Loading reports the version exactly if the environment is there, the
initializer ends with a registry, its classes resolve in order and no registry
is installed by then**; a fault of the initializer gets out, and all else is
reported as an error.  Only success installs a registry, after all its classes
are cached; getting classes goes on under the registry, if any, that the
initializer left. -/
theorem load_correct (m : Machine σ) (initializer : Session σ → Ending × Session σ)
    (p : Session σ) :
    ((load m initializer p).1 = .ok loadedVersion
        ↔ ∃ r left q, Loads m initializer p r left q)
      ∧ (∀ f, (load m initializer p).1 = .error f ↔ CutShort m initializer p f)
      ∧ ((load m initializer p).1 = .ok loadError
          ↔ (¬ ∃ r left q, Loads m initializer p r left q)
            ∧ ¬ ∃ f, CutShort m initializer p f)
      ∧ (∀ r left q, Loads m initializer p r left q →
          Loaded m r left q (load m initializer p).2)
      ∧ ((¬ ∃ r left q, Loads m initializer p r left q) →
          (load m initializer p).2.installed = (handedOver m initializer p).installed)
      ∧ ∀ (r : Registry) (s : Session σ),
          LooksUpIn m (classNames r.mappings) (handedOver m initializer p) s →
            s.installed = (handedOver m initializer p).installed := by
  refine ⟨load_eq_version_iff, load_eq_fault_iff, load_eq_loadError_iff, ?_, ?_, ?_⟩
  · intro r left q h
    rw [load_of_loads h]
    exact h.loaded
  · intro hno
    exact (load_of_not_loads hno).2
  · intro r s hs
    exact hs.extends.installed

/-- A registry with one class. -/
def oneClass : Registry :=
  Registry.empty.push
    ⟨⟨⟨"one"⟩, "pool::One"⟩,
      ⟨.data, "m.One", ZString.constant "m/One", ZString.constant "Lm/One;"⟩⟩

/-- A library with one class loads if that is found. -/
example :
    (load Script.machine (fun p => (.ready oneClass, p)) (start {})).1 = .ok loadedVersion := by
  rfl

/-- It does not if the lookup throws. -/
example :
    (load Script.machine (fun p => (.ready oneClass, p)) (start { default := .thrown })).1
      = .ok loadError := by
  rfl

end Session
end ClassBridge
