/-
  ClassBridge.Proofs.Session.Retrying
  ───────────────────────────────────
  **A load that fails leaves nothing behind.**

  A load reports an error in one of four ways (`Refused`), each with what it
  leaves of the registry and of the cache:

      no environment             both as they were, the initializer not run
      the initializer fails      both as the initializer left them
      a class is not got         the registry as the initializer left it,
      a registry is there        and an empty cache

  If no registry is installed by then, the session has nothing installed and
  nothing cached.  It begins `Anew`: whatever is done next has the results it
  has at the start, and looks up the same classes, so that the library loads
  as soon as its classes are found.
-/
import ClassBridge.Proofs.Session.Conservation
import ClassBridge.Proofs.Session.Installing
import ClassBridge.Proofs.Session.Resumption

namespace ClassBridge

open Registry (classNames)

namespace Session

variable {σ : Type} {m : Machine σ}

/-! ## §1. How loading fails. -/

/-- The registry of `left`, and an empty cache. -/
structure Undone (left final : Session σ) : Prop where
  installed : final.installed = left.installed
  cache : final.cache = []

/-- How a load that ends in `final` has come to report an error. -/
inductive Refused (m : Machine σ) (initializer : Session σ → Ending × Session σ)
    (p final : Session σ) : Prop where
  /-- There is no environment, and it makes no difference what the initializer
  would do. -/
  | environment {e : CallError} {p' : Session σ} (henv : vmEnv m p = (.error e, p'))
      (hunused : ∀ other, load m other p = (.ok loadError, final)) (hsame : SameGlobals p final)
  /-- The initializer fails. -/
  | initializer {e : Error} {p' left : Session σ} (henv : vmEnv m p = (.ok (), p'))
      (hinit : initializer p' = (.failed e, left)) (hsame : SameGlobals left final)
  /-- One of the classes cannot be got. -/
  | preload {r : Registry} {e : Error} {p' left q : Session σ} (henv : vmEnv m p = (.ok (), p'))
      (hinit : initializer p' = (.ready r, left)) (hp : preload m r left = (.error e, q))
      (hundone : Undone left final)
  /-- The classes are got, and a registry is there already. -/
  | install {r r₀ : Registry} {p' left q : Session σ} (henv : vmEnv m p = (.ok (), p'))
      (hinit : initializer p' = (.ready r, left)) (hp : preload m r left = (.ok (), q))
      (hr : left.installed = some r₀) (hundone : Undone left final)

theorem undone_clearCache {left q : Session σ} (hq : q.installed = left.installed) :
    Undone left (clearCache m q) :=
  ⟨(installed_clearCache m q).trans hq, (sameTables_clearCache m q).cache⟩

theorem installed_of_preload {r : Registry} {left q : Session σ} {result : Except Error Unit}
    (hp : preload m r left = (result, q)) : q.installed = left.installed := by
  have hgrow := extends_getClasses m (classNames r.mappings) left
  have hq : (getClasses m (classNames r.mappings) left).2 = q := congrArg Prod.snd hp
  rw [hq] at hgrow
  exact hgrow.installed

theorem installPreloaded_of_refused {r : Registry} {e : Error} {left q : Session σ}
    (hp : preload m r left = (.error e, q)) :
    installPreloaded m r left = (.error e, clearCache m q) := by
  rw [installPreloaded, hp]

theorem installPreloaded_of_taken {r r₀ : Registry} {left q : Session σ}
    (hp : preload m r left = (.ok (), q)) (hr : q.installed = some r₀) :
    installPreloaded m r left = (.error .alreadyInstalled, clearCache m q) := by
  rw [installPreloaded, hp]
  dsimp only
  rw [install_eq_refused hr]

/-- Where nothing is installed after the initializer, a class was not got or a
registry was there; both end with the cache cleared. -/
theorem installPreloaded_eq_error {r : Registry} {e : Error} {left s : Session σ}
    (hinst : installPreloaded m r left = (.error e, s)) :
    ∃ q, s = clearCache m q
      ∧ (preload m r left = (.error e, q)
        ∨ preload m r left = (.ok (), q) ∧ ∃ r₀, q.installed = some r₀) := by
  rcases hp : preload m r left with ⟨result, q⟩
  cases result with
  | error e' =>
    rw [installPreloaded_of_refused hp] at hinst
    obtain ⟨he, rfl⟩ := Prod.mk.inj hinst
    obtain rfl : e' = e := Except.error.inj he
    exact ⟨q, rfl, .inl rfl⟩
  | ok =>
    cases hv : q.installed with
    | none =>
      rw [installPreloaded_eq_commit ((getClasses_eq_ok_iff _).1 hp) hv] at hinst
      cases congrArg Prod.fst hinst
    | some r₀ =>
      rw [installPreloaded_of_taken hp hv] at hinst
      obtain ⟨_, rfl⟩ := Prod.mk.inj hinst
      exact ⟨q, rfl, .inr ⟨rfl, r₀, hv⟩⟩

variable {initializer : Session σ → Ending × Session σ} {p final : Session σ}

/-- A load that reports an error fails in one of four ways. -/
theorem refused_of_loadError (he : (load m initializer p).1 = .ok loadError) :
    Refused m initializer p (load m initializer p).2 := by
  rcases henv : vmEnv m p with ⟨result, p'⟩
  cases result with
  | error e =>
    have hsame := sameTables_vmEnv m p
    rw [henv] at hsame
    rw [load_of_noEnvironment henv]
    refine .environment henv ?_ (hsame.globals.trans (sameTables_log p' _).globals)
    intro other
    exact load_of_noEnvironment henv
  | ok =>
    rcases hinit : initializer p' with ⟨ending, left⟩
    cases ending with
    | aborted f =>
      rw [load_of_aborted henv hinit] at he
      cases he
    | failed e =>
      rw [load_of_failed henv hinit]
      exact .initializer henv hinit (sameTables_log left _).globals
    | ready r =>
      rcases hinst : installPreloaded m r left with ⟨result, s⟩
      cases result with
      | ok =>
        rw [load_of_installed henv hinit hinst] at he
        exact absurd (Except.ok.inj he) loadedVersion_ne_loadError
      | error e =>
        rw [load_of_refused henv hinit hinst]
        obtain ⟨q, rfl, hp | ⟨hp, r₀, hr⟩⟩ := installPreloaded_eq_error hinst
        · have hundone := undone_clearCache (m := m) (installed_of_preload hp)
          exact .preload henv hinit hp ⟨hundone.installed, hundone.cache⟩
        · have hq := installed_of_preload hp
          have hundone := undone_clearCache (m := m) hq
          exact .install henv hinit hp (hq.symm.trans hr) ⟨hundone.installed, hundone.cache⟩

/-- Each of the four ways is reported as an error. -/
theorem Refused.loadError (h : Refused m initializer p final) :
    (load m initializer p).1 = .ok loadError := by
  cases h with
  | environment _ hunused =>
    rw [hunused]
  | initializer henv hinit =>
    rw [load_of_failed henv hinit]
    rfl
  | preload henv hinit hp =>
    rw [load_of_refused henv hinit (installPreloaded_of_refused hp)]
    rfl
  | install henv hinit hp hr =>
    -- getting classes leaves the registry that the initializer left
    have hr' := (installed_of_preload hp).trans hr
    rw [load_of_refused henv hinit (installPreloaded_of_taken hp hr')]
    rfl

/-! ## §2. Beginning anew. -/

/-- The session has nothing installed and nothing cached, and goes on as at the
start. -/
structure Anew (m : Machine σ) (final : Session σ) : Prop where
  registry : final.registry = .error .notInstalled
  cache : final.cache = []
  /-- A program that leaves alone what callers hold from before has the result
  that it has at the start, and does what it does there, after all that was done
  before. -/
  runs : final.Numbered → ∀ {α : Type} (prog : Program α),
    prog.Avoids (final.held.map Prod.fst) →
      (prog.after final.nextSerial).run m final
        = ((prog.run m (start final.machine)).1,
          (prog.run m (start final.machine)).2.within final.past)
  /-- It looks up the same classes. -/
  lookups : final.Numbered → ∀ {α : Type} (prog : Program α),
    prog.Avoids (final.held.map Prod.fst) →
      ((prog.after final.nextSerial).run m final).2.lookups
        = final.lookups ++ (prog.run m (start final.machine)).2.lookups
  /-- As long as no registry is installed, a library loads whose classes are
  found. -/
  loads : ∀ H q, Path m final H q → (∀ x ∈ H, x.act.installed? = none) →
    ∀ (initializer : Session σ → Ending × Session σ) p' r left q',
      vmEnv m q = (.ok (), p') → initializer p' = (.ready r, left) →
        left.installed = p'.installed → Resolves m (classNames r.mappings) left q' →
          (load m initializer q).1 = .ok loadedVersion

/-- A program runs after `final` as it runs at the start. -/
theorem run_anew (hv : final.installed = none) (hc : final.cache = []) (hn : final.Numbered)
    {α : Type} {prog : Program α} (ha : prog.Avoids (final.held.map Prod.fst)) :
    (prog.after final.nextSerial).run m final
      = ((prog.run m (start final.machine)).1,
        (prog.run m (start final.machine)).2.within final.past) := by
  have hrun := run_past m hn ha (start final.machine)
  rwa [within_past hv hc] at hrun

/-- A library loads whose classes are found, where no registry is installed. -/
theorem load_of_vacant {q p' left q' : Session σ} {r : Registry} (hv : q.installed = none)
    (henv : vmEnv m q = (.ok (), p')) (hinit : initializer p' = (.ready r, left))
    (hleft : left.installed = p'.installed) (hr : Resolves m (classNames r.mappings) left q') :
    (load m initializer q).1 = .ok loadedVersion := by
  have hsame := sameTables_vmEnv m q
  rw [henv] at hsame
  have hq' : q'.installed = none :=
    (hr.extends.installed.trans hleft).trans (hsame.installed.trans hv)
  exact load_eq_version_iff.2 ⟨r, left, q', ⟨p', henv, hinit⟩, hr, hq'⟩

theorem anew_of_vacant (hv : final.installed = none) (hc : final.cache = []) :
    Anew m final where
  registry := registry_eq_notInstalled_iff.2 hv
  cache := hc
  runs := fun hn _ _ ha => run_anew hv hc hn ha
  lookups := by
    intro hn α prog ha
    rw [run_anew hv hc hn ha]
    exact lookups_within final.past _
  loads := by
    intro H q hp hno initializer p' r left q' henv hinit hleft hr
    exact load_of_vacant ((hp.installed_eq hno).trans hv) henv hinit hleft hr

/-- What callers hold in a run was made in it. -/
theorem Accounted.numbered_held {made hands : List GlobalRef}
    (h : Accounted m made hands p) : p.Numbered := by
  intro e he
  exact h.serial_lt (h.alive e.2 (.inl (.inr (List.mem_map_of_mem he)))).1

/-- A library that follows a plan loads as at the start. -/
theorem Anew.load_plan (h : Anew m final) (hn : final.Numbered) (plan : LoadPlan) :
    (load m (fun p => plan.program.run m p) final).1
      = (load m (fun p => plan.program.run m p) (start final.machine)).1 := by
  have hruns := h.runs hn (.load true plan.program .done)
    ⟨plan.program_avoids _, fun _ => trivial⟩
  -- the plan makes the same program of its initializer, whatever was made before
  unfold Program.after at hruns
  rw [plan.program_after] at hruns
  have hreported := congrArg Prod.fst hruns
  exact hreported

/-! ## §3. Failed loads. -/

/-- A load that fails after its initializer, where no registry is installed,
ends with a session that begins anew. -/
theorem Refused.anew {r : Registry} {p' left : Session σ} (h : Refused m initializer p final)
    (henv : vmEnv m p = (.ok (), p')) (hinit : initializer p' = (.ready r, left))
    (hv : left.installed = none) : Anew m final := by
  cases h with
  | environment henv' => cases henv.symm.trans henv'
  | initializer henv' hinit' =>
    obtain rfl := congrArg Prod.snd (henv.symm.trans henv')
    cases hinit.symm.trans hinit'
  | preload henv' hinit' _ hundone =>
    obtain rfl := congrArg Prod.snd (henv.symm.trans henv')
    cases hinit.symm.trans hinit'
    exact anew_of_vacant (hundone.installed.trans hv) hundone.cache
  | install henv' hinit' _ hr =>
    -- there would be a registry
    obtain rfl := congrArg Prod.snd (henv.symm.trans henv')
    cases hinit.symm.trans hinit'
    cases hv.symm.trans hr

/-- **A load reports an error exactly if it fails in one of four ways: without
an environment or by its initializer, and then the registry and the cache stay
as they were, or after its initializer, and then the registry stays and the
cache is empty.**  In the latter case, if no registry was installed, the session
begins anew; in every session of a run references are numbered as that takes. -/
theorem failed_load_undone (m : Machine σ) (initializer : Session σ → Ending × Session σ)
    (p : Session σ) :
    ((load m initializer p).1 = .ok loadError
        ↔ Refused m initializer p (load m initializer p).2)
      ∧ (∀ p' r left, vmEnv m p = (.ok (), p') → initializer p' = (.ready r, left) →
          left.installed = none → (load m initializer p).1 = .ok loadError →
            Anew m (load m initializer p).2)
      ∧ ∀ {α : Type} (prog : Program α) (s : σ) H q, ComesTo m prog (start s) H q →
          q.Numbered := by
  refine ⟨⟨refused_of_loadError, Refused.loadError⟩, ?_, ?_⟩
  · intro p' r left henv hinit hv he
    exact (refused_of_loadError he).anew henv hinit hv
  · intro α prog s H q hq
    exact hq.path.accounted.numbered_held

end Session

/-- A machine that does not find the first class it is asked for. -/
def Machine.reluctant : Machine Nat :=
  { Machine.obliging with findClass := fun _ n => some (if n = 0 then 0 else 1, n + 1) }

namespace Session

/-- A library whose class is not found at first does not load, and loads when
it is tried again. -/
theorem reluctant_loads_again :
    (load Machine.reluctant (fun p => (.ready oneClass, p)) (start 0)).1 = .ok loadError
      ∧ (load Machine.reluctant (fun p => (.ready oneClass, p)) (start 0)).2.cache = []
      ∧ (load Machine.reluctant (fun p => (.ready oneClass, p))
          (load Machine.reluctant (fun p => (.ready oneClass, p)) (start 0)).2).1
        = .ok loadedVersion := by
  have herror : (load Machine.reluctant (fun p => (.ready oneClass, p)) (start 0)).1
      = .ok loadError := by
    rfl
  have hanew := (failed_load_undone Machine.reluctant (fun p => (.ready oneClass, p)) (start 0)).2.1
    (vmEnv Machine.reluctant (start 0)).2 oneClass _ rfl rfl rfl herror
  exact ⟨herror, hanew.cache, by decide +kernel⟩

end Session
end ClassBridge
