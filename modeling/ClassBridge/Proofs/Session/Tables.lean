/-
  ClassBridge.Proofs.Session.Tables
  ─────────────────────────────────
  **What a step does to the registry and the cache.**

  The installed registry and the class cache belong to the whole session.  A
  step changes them in one of three ways, or not at all (`Step.globals`):

      a registry is installed, where there was none
      a class that was not cached is loaded and cached
      the cache is cleared

  All that callers do with their references leaves both as they are.
-/
import ClassBridge.Proofs.Session.History

namespace ClassBridge.Session

variable {σ : Type}

/-! ## §1. Sessions with the same registry and cache. -/

/-- `q` has the installed registry and the cache of `p`. -/
structure SameGlobals (p q : Session σ) : Prop where
  installed : q.installed = p.installed
  cache : q.cache = p.cache

theorem SameGlobals.refl (p : Session σ) : SameGlobals p p := ⟨rfl, rfl⟩

theorem SameGlobals.trans {p q s : Session σ} (h : SameGlobals p q) (h' : SameGlobals q s) :
    SameGlobals p s :=
  ⟨h'.installed.trans h.installed, h'.cache.trans h.cache⟩

theorem SameTables.globals {p q : Session σ} (h : SameTables p q) : SameGlobals p q :=
  ⟨h.installed, h.cache⟩

/-! ## §2. Records and calls. -/

/-- Building a registry only writes records: what these keep is kept. -/
theorem buildRegistry_induct {motive : Session σ → Prop} {p : Session σ} (hp : motive p)
    (hlog : ∀ q r, motive q → motive (q.log r)) (ms : List Mapping) :
    motive (p.buildRegistry ms).2 := by
  show motive ((Registry.accepted ms).foldl (fun p m => p.log (.mapped m)) p)
  generalize Registry.accepted ms = accepted
  induction accepted generalizing p with
  | nil => exact hp
  | cons e rest ih => exact ih (hlog p (.mapped e) hp)

theorem sameTables_buildRegistry (p : Session σ) (ms : List Mapping) :
    SameTables p (p.buildRegistry ms).2 :=
  buildRegistry_induct (.refl p) (fun q r h => h.trans (sameTables_log q r)) ms

variable (m : Machine σ)

theorem askJavaVm_snd (p : Session σ) : (askJavaVm m p).2 = (javaVm m p).2 := by
  unfold askJavaVm
  rcases javaVm m p with ⟨result, q⟩
  cases result with
  | error e => rfl
  | ok => rfl

theorem sameTables_askJavaVm (p : Session σ) : SameTables p (askJavaVm m p).2 := by
  rw [askJavaVm_snd]
  exact sameTables_javaVm m p

/-- Binding methods of a class that is cached does nothing, where the table
lacks the entry, or is one call and a record of it. -/
theorem bindMethods_snd {c : ClassConstants} {ref : GlobalRef} {p : Session σ}
    (hc : p.cached? c.className.text = some ref) (methods : List MethodBinding) :
    (bindMethods m c methods p).2 = p
      ∨ ∃ code s r, (bindMethods m c methods p).2
          = (p.advance s (.registerNatives ref.handle (methods.map MethodBinding.toRow)
              (Int32.ofNat methods.length) code)).log r := by
  rw [bindMethods, getClass_hit hc]
  dsimp only
  split
  · exact .inl rfl
  · next code s _ =>
    split
    · exact .inr ⟨code, s, _, rfl⟩
    · exact .inr ⟨code, s, _, rfl⟩

theorem sameTables_bindMethods {c : ClassConstants} {ref : GlobalRef} {p : Session σ}
    (hc : p.cached? c.className.text = some ref) (methods : List MethodBinding) :
    SameTables p (bindMethods m c methods p).2 := by
  rcases bindMethods_snd m hc methods with hq | ⟨code, s, r, hq⟩
  · rw [hq]
    exact .refl p
  · rw [hq]
    exact (sameTables_advance p _ _).trans (sameTables_log _ _)

/-! ## §3. What callers hold. -/

theorem sameGlobals_hold (slot : String) (ref : GlobalRef) (p : Session σ) :
    SameGlobals p (hold m slot ref p) := by
  unfold hold
  dsimp only
  split
  · exact ⟨rfl, rfl⟩
  · next old _ =>
    have hlet := sameTables_letGo m old
      { p with held := (slot, ref) :: p.held.filter fun e => e.1 ≠ slot }
    exact ⟨hlet.installed, hlet.cache⟩

theorem sameGlobals_keep (slot : Option String) (ref : GlobalRef) (p : Session σ) :
    SameGlobals p (keep m slot ref p) := by
  cases slot with
  | none => exact (sameTables_letGo m ref p).globals
  | some slot => exact sameGlobals_hold m slot ref p

theorem sameGlobals_dropHeld (slot : String) (p : Session σ) :
    SameGlobals p (dropHeld m slot p).2 := by
  unfold dropHeld
  split
  · exact .refl p
  · next ref _ =>
    have hlet := sameTables_letGo m ref { p with held := p.held.filter fun e => e.1 ≠ slot }
    exact ⟨hlet.installed, hlet.cache⟩

theorem sameGlobals_loadClassFor (slot : Option String) (className : String) (p : Session σ) :
    SameGlobals p (loadClassFor m slot className p).2 := by
  have hload := (sameTables_loadClass m className p).globals
  unfold loadClassFor
  split
  · next hl =>
    rw [hl] at hload
    exact hload
  · next ref q hl =>
    rw [hl] at hload
    exact hload.trans (sameGlobals_keep m slot ref q)

/-! ## §4. All that a step can do. -/

/-- A step that is none of the three changes. -/
structure Leaves (p : Session σ) (act : Act) (q : Session σ) : Prop where
  globals : SameGlobals p q
  installed? : act.installed? = none
  fetched? : act.fetched? = none
  clears : act.clears = false

variable {m}

/-- **A step leaves the registry and the cache as they are, or installs a
registry where there is none, or caches a class that was loaded, or clears the
cache.** -/
theorem Step.globals {p q : Session σ} {act : Act} (hs : Step m p act q) :
    Leaves p act q
    ∨ (∃ r, act = .install r (.ok ()) ∧ p.installed = none ∧ q = p.commit r)
    ∨ (∃ className ref loaded, act = .miss className (.ok ref) ∧ p.cached? className = none
        ∧ loadClass m className p = (.ok ref, loaded) ∧ q = loaded.remember className ref)
    ∨ (act = .clear ∧ q = clearCache m p) := by
  cases hs with
  | build ms => exact .inl ⟨(sameTables_buildRegistry p ms).globals, rfl, rfl, rfl⟩
  | install r =>
    cases hv : p.installed with
    | none =>
      rw [install_eq_commit hv]
      exact .inr (.inl ⟨r, rfl, rfl, rfl⟩)
    | some r₀ =>
      rw [install_eq_refused hv]
      exact .inl ⟨.refl p, rfl, rfl, rfl⟩
  | registry => exact .inl ⟨.refl p, rfl, rfl, rfl⟩
  | hit hc => exact .inl ⟨.refl p, rfl, rfl, rfl⟩
  | fetch hc hl => exact .inr (.inr (.inl ⟨_, _, _, rfl, hc, hl, rfl⟩))
  | @fail _ className e hc hl =>
    have hload := (sameTables_loadClass m className p).globals
    rw [hl] at hload
    exact .inl ⟨hload, rfl, rfl, rfl⟩
  | past className slot => exact .inl ⟨sameGlobals_loadClassFor m slot className p, rfl, rfl, rfl⟩
  | @keep _ ref slot hc => exact .inl ⟨sameGlobals_keep m slot ref p, rfl, rfl, rfl⟩
  | dropHeld slot => exact .inl ⟨sameGlobals_dropHeld m slot p, rfl, rfl, rfl⟩
  | bind methods hc => exact .inl ⟨(sameTables_bindMethods m hc methods).globals, rfl, rfl, rfl⟩
  | javaVm => exact .inl ⟨(sameTables_askJavaVm m p).globals, rfl, rfl, rfl⟩
  | clear => exact .inr (.inr (.inr ⟨rfl, rfl⟩))
  | enter machineGiven initializer => exact .inl ⟨.refl p, rfl, rfl, rfl⟩
  | environment => exact .inl ⟨(sameTables_vmEnv m p).globals, rfl, rfl, rfl⟩
  | refuse e => exact .inl ⟨(sameTables_log p _).globals, rfl, rfl, rfl⟩

end ClassBridge.Session
