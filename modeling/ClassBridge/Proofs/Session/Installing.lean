/-
  ClassBridge.Proofs.Session.Installing
  ─────────────────────────────────────
  **A registry is installed once, and stays.**

  `installs_once` — in the history of every program that starts a session:

      at most one installation is taken, by whatever way it comes
      before it                   there is no registry (`Vacant`)
      after it                    the registry is that one, others are not
                                  taken, and no library loads (`Settled`)

  Unloading, clearing and failing change none of this: of all steps only an
  installation that is taken changes the registry, and it is taken exactly
  where there is none.
-/
import ClassBridge.Proofs.Session.Tables

namespace ClassBridge.Session

variable {σ : Type} {m : Machine σ} {p q : Session σ} {H : List (Moment σ)}

/-! ## §1. The registry over one step. -/

theorem registry_eq_ok_iff {r : Registry} : p.registry = .ok r ↔ p.installed = some r := by
  unfold registry
  cases p.installed with
  | none => exact ⟨nofun, nofun⟩
  | some r₀ =>
    exact ⟨fun h => congrArg some (Except.ok.inj h), fun h => congrArg _ (Option.some.inj h)⟩

theorem registry_eq_notInstalled_iff :
    p.registry = .error .notInstalled ↔ p.installed = none := by
  unfold registry
  cases p.installed with
  | none => exact ⟨fun _ => rfl, fun _ => rfl⟩
  | some r₀ => exact ⟨nofun, nofun⟩

/-- A step that installs nothing leaves the registry. -/
theorem Step.installed_of_none {act : Act} (hs : Step m p act q) (ha : act.installed? = none) :
    q.installed = p.installed := by
  rcases hs.globals with hl | ⟨r, rfl, _, _⟩ | ⟨className, ref, loaded, _, _, hl, rfl⟩ | ⟨_, rfl⟩
  · exact hl.globals.installed
  · cases ha
  · exact (extends_of_loadClass hl).installed
  · exact installed_clearCache m p

/-- A registry is only installed where there is none. -/
theorem Step.installed_of_some {act : Act} {r : Registry} (hs : Step m p act q)
    (ha : act.installed? = some r) : p.installed = none ∧ q.installed = some r := by
  rcases hs.globals with hl | ⟨r', rfl, hv, rfl⟩ | ⟨_, _, _, rfl, _⟩ | ⟨rfl, _⟩
  · rw [hl.installed?] at ha
    cases ha
  · obtain rfl : r' = r := Option.some.inj ha
    exact ⟨hv, rfl⟩
  · cases ha
  · cases ha

/-- An installation is taken exactly where there is no registry. -/
theorem Step.install_result {r : Registry} {result : Except Error Unit}
    (hs : Step m p (.install r result) q) :
    (p.installed = none → result = .ok ())
      ∧ ∀ r₀, p.installed = some r₀ → result = .error .alreadyInstalled := by
  cases hs
  constructor
  · intro hv
    rw [install_eq_commit hv]
  · intro r₀ hv
    rw [install_eq_refused hv]

/-- A load that begins reports what loading reports. -/
theorem Step.enter_reported {machineGiven : Bool} {initializer : Program Ending}
    {reported : Except TextFault Code}
    (hs : Step m p (.enter machineGiven initializer reported) q) :
    reported = (loadEntryPoint m machineGiven (fun p => initializer.run m p) p).1 := by
  cases hs
  rfl

/-! ## §2. The registry over a path. -/

/-- Where a registry is installed, it stays, and nothing else is installed. -/
theorem Path.installed_some {r : Registry} (hp : Path m p H q) (hr : p.installed = some r) :
    (∀ y ∈ H, y.act.installed? = none ∧ y.before.installed = some r ∧ y.after.installed = some r)
      ∧ q.installed = some r := by
  induction hp with
  | nil => exact ⟨List.forall_mem_nil _, hr⟩
  | @cons p q s act H hs _ ih =>
    have ha : act.installed? = none := by
      -- an installation that is taken finds no registry
      cases ha : act.installed? with
      | none => rfl
      | some r' => cases (hs.installed_of_some ha).1.symm.trans hr
    have hq : q.installed = some r := (hs.installed_of_none ha).trans hr
    obtain ⟨hH, hlast⟩ := ih hq
    refine ⟨?_, hlast⟩
    intro y hy
    rcases List.mem_cons.1 hy with rfl | hy
    · exact ⟨ha, hr, hq⟩
    · exact hH y hy

/-- Where no registry is installed in the end, there was none all along. -/
theorem Path.installed_none (hp : Path m p H q) (hv : q.installed = none) :
    p.installed = none
      ∧ ∀ y ∈ H,
        y.act.installed? = none ∧ y.before.installed = none ∧ y.after.installed = none := by
  induction hp with
  | nil => exact ⟨hv, List.forall_mem_nil _⟩
  | @cons p q s act H hs _ ih =>
    obtain ⟨hq, hH⟩ := ih hv
    have ha : act.installed? = none := by
      cases ha : act.installed? with
      | none => rfl
      | some r' => cases (hs.installed_of_some ha).2.symm.trans hq
    have hpv : p.installed = none := (hs.installed_of_none ha).symm.trans hq
    refine ⟨hpv, ?_⟩
    intro y hy
    rcases List.mem_cons.1 hy with rfl | hy
    · exact ⟨ha, hpv, hq⟩
    · exact hH y hy

/-- A path on which nothing is installed ends with the registry it began with. -/
theorem Path.installed_eq (hp : Path m p H q) (hno : ∀ y ∈ H, y.act.installed? = none) :
    q.installed = p.installed := by
  induction hp with
  | nil => rfl
  | cons hs _ ih =>
    obtain ⟨ha, hno⟩ := List.forall_mem_cons.1 hno
    exact (ih hno).trans (hs.installed_of_none ha)

/-- A program leaves the registry that is installed. -/
theorem installed_run {α : Type} (prog : Program α) {r : Registry} (hr : p.installed = some r) :
    (prog.run m p).2.installed = some r :=
  ((path_history m prog p).installed_some hr).2

/-! ## §3. Loading where a registry is installed. -/

/-- A library does not load under a registry, whatever its initializer does. -/
theorem load_of_installedBefore (initializer : Program Ending) {r : Registry}
    (hr : p.installed = some r) :
    (load m (fun p => initializer.run m p) p).1 = .ok loadError
      ∨ ∃ f, (load m (fun p => initializer.run m p) p).1 = .error f
          ∧ CutShort m (fun p => initializer.run m p) p f := by
  have hno : ¬ ∃ r' left q, Loads m (fun p => initializer.run m p) p r' left q := by
    rintro ⟨r', left, q, h⟩
    obtain ⟨p', henv, hinit⟩ := h.initialized
    -- the registry is there for the initializer, and is there when it has ended
    have henvSame := sameTables_vmEnv m p
    rw [henv] at henvSame
    have hleft := installed_run (m := m) initializer (henvSame.installed.trans hr)
    rw [hinit] at hleft
    cases h.vacant_left.symm.trans hleft
  rcases (load_of_not_loads hno).1 with ⟨f, hcut⟩ | herror
  · exact .inr ⟨f, load_of_cutShort hcut, hcut⟩
  · exact .inl herror

theorem loadEntryPoint_of_installedBefore (machineGiven : Bool) (initializer : Program Ending)
    {r : Registry} (hr : p.installed = some r) :
    (loadEntryPoint m machineGiven (fun p => initializer.run m p) p).1 = .ok loadError
      ∨ ∃ f, (loadEntryPoint m machineGiven (fun p => initializer.run m p) p).1 = .error f
          ∧ CutShort m (fun p => initializer.run m p) p f := by
  cases machineGiven with
  | false => exact .inl rfl
  | true => exact load_of_installedBefore initializer hr

/-! ## §4. One installation in a run. -/

/-- A moment in which no registry is installed, before and after. -/
structure Vacant (x : Moment σ) : Prop where
  before : x.before.registry = .error .notInstalled
  after : x.after.registry = .error .notInstalled

/-- A moment in which `r` is installed, and nothing else can be. -/
structure Settled (m : Machine σ) (r : Registry) (x : Moment σ) : Prop where
  before : x.before.registry = .ok r
  after : x.after.registry = .ok r
  /-- Another registry is not taken. -/
  installs : ∀ r' result, x.act = .install r' result → result = .error .alreadyInstalled
  /-- A load that begins reports an error, unless a fault of its initializer
  gets out. -/
  loads : ∀ machineGiven initializer reported, x.act = .enter machineGiven initializer reported →
    reported = .ok loadError
      ∨ ∃ f, reported = .error f ∧ CutShort m (fun p => initializer.run m p) x.before f

theorem Path.vacant (hp : Path m p H q) (hv : q.installed = none) : ∀ y ∈ H, Vacant y := by
  intro y hy
  obtain ⟨_, hbefore, hafter⟩ := (hp.installed_none hv).2 y hy
  exact ⟨registry_eq_notInstalled_iff.2 hbefore, registry_eq_notInstalled_iff.2 hafter⟩

/-- Each moment of a path is a step. -/
theorem Path.step_of_mem (hp : Path m p H q) {y : Moment σ} (hy : y ∈ H) :
    Step m y.before y.act y.after := by
  obtain ⟨H₁, H₂, rfl⟩ := List.append_of_mem hy
  exact hp.split.2.1

theorem Path.settled {r : Registry} (hp : Path m p H q) (hr : p.installed = some r) :
    ∀ y ∈ H, Settled m r y := by
  intro y hy
  obtain ⟨_, hbefore, hafter⟩ := (hp.installed_some hr).1 y hy
  have hs := hp.step_of_mem hy
  refine ⟨registry_eq_ok_iff.2 hbefore, registry_eq_ok_iff.2 hafter, ?_, ?_⟩
  · intro r' result ha
    rw [ha] at hs
    exact hs.install_result.2 r hbefore
  · intro machineGiven initializer reported ha
    rw [ha] at hs
    rw [hs.enter_reported]
    exact loadEntryPoint_of_installedBefore machineGiven initializer hbefore

/-- On a path at most one installation is taken. -/
theorem Path.length_installed_le (hp : Path m p H q) :
    (H.filterMap fun y => y.act.installed?).length ≤ 1 := by
  induction hp with
  | nil => exact Nat.zero_le 1
  | @cons p q s act H hs hp ih =>
    rw [List.filterMap_cons]
    split
    · exact ih
    · next r ha =>
      -- the first one leaves nothing to be taken
      have hrest : H.filterMap (fun y => y.act.installed?) = [] := by
        rw [List.filterMap_eq_nil_iff]
        intro y hy
        exact ((hp.installed_some (hs.installed_of_some ha).2).1 y hy).1
      rw [hrest]
      exact Nat.le_refl 1

/-- **In every run at most one registry is installed, be it by a caller, by an
initializer or by a load; there is none in any session before, and it is the
registry of every session after**, in which other installations are refused
and libraries do not load.  Without a machine loading reports an error and does
nothing. -/
theorem installs_once (m : Machine σ) {α : Type} (prog : Program α) (s : σ) :
    ((prog.history m (start s)).filterMap fun x => x.act.installed?).length ≤ 1
      ∧ (∀ H x H' r, prog.history m (start s) = H ++ x :: H' → x.act.installed? = some r →
          (∀ y ∈ H, Vacant y)
            ∧ x.before.registry = .error .notInstalled
            ∧ x.after.registry = .ok r
            ∧ (∀ y ∈ H', Settled m r y)
            ∧ (prog.run m (start s)).2.registry = .ok r)
      ∧ ((∀ x ∈ prog.history m (start s), x.act.installed? = none) →
          (∀ x ∈ prog.history m (start s), Vacant x)
            ∧ (prog.run m (start s)).2.registry = .error .notInstalled)
      ∧ (∀ x ∈ prog.history m (start s), ∀ r result, x.act = .install r result →
          (result = .ok () ↔ x.before.registry = .error .notInstalled))
      ∧ ∀ (initializer : Session σ → Ending × Session σ) (p : Session σ),
          loadEntryPoint m false initializer p = (.ok loadError, p) := by
  have hp := path_history m prog (start s)
  refine ⟨hp.length_installed_le, ?_, ?_, ?_, fun _ _ => rfl⟩
  · intro H x H' r hH ha
    rw [hH] at hp
    obtain ⟨hbefore, hs, hafter⟩ := hp.split
    obtain ⟨hv, hr⟩ := hs.installed_of_some ha
    exact ⟨hbefore.vacant hv, registry_eq_notInstalled_iff.2 hv, registry_eq_ok_iff.2 hr,
      hafter.settled hr, registry_eq_ok_iff.2 (hafter.installed_some hr).2⟩
  · intro hno
    have hv : (prog.run m (start s)).2.installed = none := hp.installed_eq hno
    exact ⟨hp.vacant hv, registry_eq_notInstalled_iff.2 hv⟩
  · intro x hx r result ha
    have hs := hp.step_of_mem hx
    rw [ha] at hs
    obtain ⟨hnone, hsome⟩ := hs.install_result
    rw [registry_eq_notInstalled_iff]
    constructor
    · intro hok
      cases hv : x.before.installed with
      | none => rfl
      | some r₀ => cases hok.symm.trans (hsome r₀ hv)
    · exact hnone

/-- A registry is installed, and installed again after unloading. -/
def installedTwice : Program (Except Error Unit) :=
  .call (.install oneClass) fun _ => .call .unload fun _ => .call (.install oneClass) .done

/-- It is not taken again, and is there in the end. -/
theorem installedTwice_refused :
    (installedTwice.run Script.machine (start {})).1 = .error .alreadyInstalled
      ∧ (installedTwice.run Script.machine (start {})).2.registry = .ok oneClass := by
  refine ⟨by decide +kernel, ?_⟩
  obtain ⟨-, hinstalled, -⟩ := installs_once Script.machine installedTwice {}
  exact (hinstalled [] _ _ oneClass rfl rfl).2.2.2.2

end ClassBridge.Session
