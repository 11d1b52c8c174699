/-
  ClassBridge.Proofs.Session.Clearing
  ───────────────────────────────────
  **What clears the cache.**

  Of all that a run does, three things clear the class cache:

      clearing it, or unloading a library
      a load that fails late, because a class of its registry is not got or
      a registry is installed already (`FailsLate`)

  A load clears the cache also if its initializer does, which is a program
  itself.  `cleared_history` — the history of a program has a clearing in it
  exactly if the program `Clears` the cache in this sense; all other failures,
  such as that of a single lookup, leave the cache alone.
-/
import ClassBridge.Proofs.Session.History

namespace ClassBridge

open Registry (classNames)

variable {σ : Type}

namespace Act

/-- Whether the loading of a library begins. -/
def enters : Act → Bool
  | .enter _ _ _ => true
  | _ => false

/-- Neither a clearing nor the beginning of a load. -/
structure Plain (act : Act) : Prop where
  keeps : act.clears = false
  inside : act.enters = false

end Act

namespace Session

variable {m : Machine σ} {p q : Session σ} {H H' : List (Moment σ)}

/-! ## §1. Requests for classes are plain. -/

theorem plain_momentOfGet (m : Machine σ) (className : String) (p : Session σ) :
    (momentOfGet m className p).act.Plain := by
  unfold momentOfGet
  split
  · exact ⟨rfl, rfl⟩
  · exact ⟨rfl, rfl⟩

/-- Getting classes, up to the first failure, is plain. -/
theorem plain_of_mem_gets {names : List String} {x : Moment σ}
    (hx : x ∈ momentsOfGets m names p) : x.act.Plain := by
  induction names generalizing p with
  | nil => cases hx
  | cons className rest ih =>
    rw [momentsOfGets] at hx
    rcases List.mem_cons.1 hx with rfl | hx
    · exact plain_momentOfGet m className p
    · -- the others follow only if this class was got
      rcases hg : getClass m className p with ⟨result, q⟩
      rw [hg] at hx
      cases result with
      | error e => cases hx
      | ok ref => exact ih hx

/-- Using a class is plain if what is done with its reference is. -/
theorem plain_of_mem_use {className : String} {use : GlobalRef → Session σ → Moment σ}
    (huse : ∀ ref q, (use ref q).act.Plain) {x : Moment σ}
    (hx : x ∈ momentsOfUse m className use p) : x.act.Plain := by
  rw [momentsOfUse] at hx
  rcases List.mem_cons.1 hx with rfl | hx
  · exact plain_momentOfGet m className p
  · rcases hg : getClass m className p with ⟨result, q⟩
    rw [hg] at hx
    cases result with
    | error e => cases hx
    | ok ref =>
      obtain rfl := List.mem_singleton.1 hx
      exact huse ref q

/-! ## §2. The commands that clear the cache. -/

/-- The cache is cleared in one of the moments. -/
def Cleared (H : List (Moment σ)) : Prop := ∃ x ∈ H, x.act.clears = true

theorem not_cleared_nil : ¬ Cleared ([] : List (Moment σ)) := by
  rintro ⟨x, hx, _⟩
  cases hx

theorem cleared_cons {x : Moment σ} : Cleared (x :: H) ↔ x.act.clears = true ∨ Cleared H := by
  simp [Cleared]

theorem cleared_append : Cleared (H ++ H') ↔ Cleared H ∨ Cleared H' := by
  simp [Cleared, or_and_right, exists_or]

theorem not_cleared_iff : ¬ Cleared H ↔ ∀ x ∈ H, x.act.clears = false := by
  simp [Cleared]

theorem not_cleared_of_plain (hH : ∀ x ∈ H, x.act.Plain) : ¬ Cleared H :=
  not_cleared_iff.2 fun x hx => (hH x hx).keeps

/-- Of all commands two clear the cache. -/
theorem cleared_momentsOf (m : Machine σ) (c : Command) (p : Session σ) :
    Cleared (momentsOf m c p) ↔ c = .clearCache ∨ c = .unload := by
  cases c with
  | clearCache => simp [momentsOf, Cleared, Act.clears]
  | unload => simp [momentsOf, Cleared, Act.clears]
  | getClass className slot =>
    show Cleared (momentsOfUse m className _ p) ↔ _
    refine iff_of_false (not_cleared_of_plain fun _ hx => ?_) (by simp)
    exact plain_of_mem_use (fun _ _ => ⟨rfl, rfl⟩) hx
  | bindMethods c methods =>
    show Cleared (momentsOfUse m c.className.text _ p) ↔ _
    refine iff_of_false (not_cleared_of_plain fun _ hx => ?_) (by simp)
    exact plain_of_mem_use (fun _ _ => ⟨rfl, rfl⟩) hx
  | preload r =>
    show Cleared (momentsOfGets m (classNames r.mappings) p) ↔ _
    exact iff_of_false (not_cleared_of_plain fun _ => plain_of_mem_gets) (by simp)
  | _ => simp [momentsOf, Cleared, Act.clears]

/-! ## §3. The loads that clear the cache. -/

/-- A load fails after its initializer: a class of the registry is not got, or
all are and a registry is installed already. -/
inductive FailsLate (m : Machine σ) (r : Registry) (left : Session σ) : Prop where
  | preload {e : Error} {q : Session σ} (hp : preload m r left = (.error e, q))
  | install {r₀ : Registry} {q : Session σ} (hp : preload m r left = (.ok (), q))
      (hr : q.installed = some r₀)

theorem cleared_momentsOfUndoing (m : Machine σ) (e : Error) (p : Session σ) :
    Cleared (momentsOfUndoing m e p) :=
  ⟨_, List.mem_cons_self, rfl⟩

/-- Installing a registry after getting its classes clears the cache exactly if
it fails. -/
theorem cleared_momentsOfInstalling (m : Machine σ) (r : Registry) (left : Session σ) :
    Cleared (momentsOfInstalling m r left) ↔ FailsLate m r left := by
  rw [momentsOfInstalling, cleared_append,
    or_iff_right (not_cleared_of_plain fun _ => plain_of_mem_gets)]
  rcases hp : preload m r left with ⟨result, q⟩
  cases result with
  | error e => exact iff_of_true (cleared_momentsOfUndoing m e q) (.preload hp)
  | ok =>
    dsimp only
    rw [cleared_cons]
    cases hr : q.installed with
    | none =>
      rw [install_eq_commit hr]
      refine iff_of_false ?_ ?_
      · rintro (hc | hc)
        · cases hc
        · exact not_cleared_nil hc
      · -- neither a class nor a registry is in the way
        rintro (⟨hp'⟩ | ⟨hp', hr'⟩)
        · cases congrArg Prod.fst (hp.symm.trans hp')
        · obtain rfl := congrArg Prod.snd (hp.symm.trans hp')
          cases hr.symm.trans hr'
    | some r₀ =>
      rw [install_eq_refused hr]
      exact iff_of_true (.inr (cleared_momentsOfUndoing m _ q)) (.install hp hr)

theorem cleared_momentsAfter (m : Machine σ) (ending : Ending) (left : Session σ) :
    Cleared (momentsAfter m ending left) ↔ ∃ r, ending = .ready r ∧ FailsLate m r left := by
  cases ending with
  | aborted f => simp [momentsAfter, not_cleared_nil]
  | failed e => simp [momentsAfter, momentOfRefusal, Cleared, Act.clears]
  | ready r => simp [momentsAfter, cleared_momentsOfInstalling]

/-- A load clears the cache if its initializer does, or if it fails late. -/
theorem cleared_momentsOfLoad (m : Machine σ) (initializer : Session σ → Ending × Session σ)
    (history : Session σ → List (Moment σ)) (p : Session σ) :
    Cleared (momentsOfLoad m true initializer history p)
      ↔ ∃ p', vmEnv m p = (.ok (), p')
        ∧ (Cleared (history p')
          ∨ ∃ r left, initializer p' = (.ready r, left) ∧ FailsLate m r left) := by
  rw [momentsOfLoad, if_pos rfl, cleared_cons, or_iff_right (by simp [Act.clears])]
  rcases henv : vmEnv m p with ⟨result, p'⟩
  cases result with
  | error e => simp [momentOfRefusal, Cleared, Act.clears]
  | ok =>
    rcases hinit : initializer p' with ⟨ending, left⟩
    simp [cleared_append, cleared_momentsAfter, hinit]

end Session

/-! ## §4. What clears the cache in a run. -/

/-- The run of a program clears the cache: a command does, or a load whose
initializer does or that fails late. -/
def Program.Clears (m : Machine σ) {α : Type} : Program α → Session σ → Prop
  | .done _, _ => False
  | .call c next, p =>
    let r := Session.perform m c p
    (c = .clearCache ∨ c = .unload) ∨ (next r.1).Clears m r.2
  | .load machineGiven initializer next, p =>
    let r := Session.loadEntryPoint m machineGiven (fun p => initializer.run m p) p
    (machineGiven = true ∧ ∃ p', Session.vmEnv m p = (.ok (), p')
        ∧ (initializer.Clears m p'
          ∨ ∃ r left, initializer.run m p' = (.ready r, left) ∧ Session.FailsLate m r left))
      ∨ (next r.1).Clears m r.2

namespace Session

variable {m : Machine σ} {p q : Session σ} {H H' : List (Moment σ)}

theorem cleared_history (m : Machine σ) {α : Type} (prog : Program α) (p : Session σ) :
    Cleared (prog.history m p) ↔ prog.Clears m p := by
  induction prog generalizing p with
  | done result => exact iff_of_false not_cleared_nil id
  | call c next ih =>
    show Cleared (momentsOf m c p ++ _) ↔ (_ ∨ _) ∨ _
    rw [cleared_append, cleared_momentsOf, ih]
  | load machineGiven initializer next ihInit ih =>
    show Cleared (_ :: (momentsOfLoad m machineGiven _ _ p ++ _)) ↔ (machineGiven = true ∧ _) ∨ _
    rw [cleared_cons, cleared_append, ih, or_iff_right (by simp [Act.clears])]
    cases machineGiven with
    | false => simp [momentsOfLoad, not_cleared_nil]
    | true => simp [cleared_momentsOfLoad, ihInit]

end Session
end ClassBridge
