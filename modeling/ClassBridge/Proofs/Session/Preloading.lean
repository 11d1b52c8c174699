/-
  ClassBridge.Proofs.Session.Preloading
  ─────────────────────────────────────
  **Getting classes one after another.**

  `Resolves` says, name by name, what it takes that all classes of a list are
  got: each is cached, or is loaded and then cached.  `getClasses_eq_ok_iff` —
  this is exactly when getting them succeeds.  On the way the session only
  grows (`Extends`): the registry stays, every cached reference stays cached,
  and in the end all the names are.
-/
import ClassBridge.Proofs.Session.Frame

namespace ClassBridge.Session

variable {σ : Type} {m : Machine σ}

/-! ## §1. Sessions that grow. -/

/-- `q` has the installed registry and all cached references of `p`. -/
structure Extends (p q : Session σ) : Prop where
  installed : q.installed = p.installed
  cached : ∀ className ref, p.cached? className = some ref → q.cached? className = some ref

theorem Extends.refl (p : Session σ) : Extends p p := ⟨rfl, fun _ _ h => h⟩

theorem Extends.trans {p q s : Session σ} (h : Extends p q) (h' : Extends q s) : Extends p s :=
  ⟨h'.installed.trans h.installed, fun n ref hc => h'.cached n ref (h.cached n ref hc)⟩

theorem SameTables.extends {p q : Session σ} (h : SameTables p q) : Extends p q :=
  ⟨h.installed, fun n _ hc => (h.cached? n).trans hc⟩

theorem Extends.isSome {p q : Session σ} (h : Extends p q) {className : String}
    (hc : (p.cached? className).isSome = true) : (q.cached? className).isSome = true := by
  obtain ⟨ref, hr⟩ := Option.isSome_iff_exists.1 hc
  rw [h.cached className ref hr]
  rfl

theorem cached?_remember (p : Session σ) (className : String) (ref : GlobalRef) (n : String) :
    (p.remember className ref).cached? n
      = (p.cached? n).or (if n = className then some ref else none) := by
  show (p.cache ++ [(className, ref)]).lookup n = _
  rw [List.lookup_append]
  by_cases h : n = className
  · rw [if_pos h, h, List.lookup_cons_self]
    rfl
  · rw [if_neg h, List.lookup_cons, beq_eq_false_iff_ne.2 h]
    rfl

/-- What is cached behind the others hides none of them. -/
theorem extends_remember (p : Session σ) (className : String) (ref : GlobalRef) :
    Extends p (p.remember className ref) := by
  refine ⟨rfl, ?_⟩
  intro n r hc
  rw [cached?_remember, hc]
  rfl

/-! ## §2. One class. -/

theorem getClass_hit {className : String} {p : Session σ} {ref : GlobalRef}
    (hc : p.cached? className = some ref) : getClass m className p = (.ok ref, p) := by
  rw [getClass, hc]

theorem getClass_miss {className : String} {p q : Session σ} {ref : GlobalRef}
    (hc : p.cached? className = none) (hl : loadClass m className p = (.ok ref, q)) :
    getClass m className p = (.ok ref, q.remember className ref) := by
  rw [getClass, hc]
  dsimp only
  rw [hl]

theorem getClass_refused {className : String} {p q : Session σ} {e : Error}
    (hc : p.cached? className = none) (hl : loadClass m className p = (.error e, q)) :
    getClass m className p = (.error e, q) := by
  rw [getClass, hc]
  dsimp only
  rw [hl]

/-- All that getting a class can do. -/
theorem getClass_cases (m : Machine σ) (className : String) (p : Session σ) :
    (∃ ref, p.cached? className = some ref ∧ getClass m className p = (.ok ref, p))
    ∨ (∃ ref q, p.cached? className = none ∧ loadClass m className p = (.ok ref, q)
        ∧ getClass m className p = (.ok ref, q.remember className ref))
    ∨ (∃ e q, p.cached? className = none ∧ loadClass m className p = (.error e, q)
        ∧ getClass m className p = (.error e, q)) := by
  cases hc : p.cached? className with
  | some ref => exact .inl ⟨ref, rfl, getClass_hit hc⟩
  | none =>
    rcases hl : loadClass m className p with ⟨result, q⟩
    cases result with
    | ok ref => exact .inr (.inl ⟨ref, q, rfl, rfl, getClass_miss hc hl⟩)
    | error e => exact .inr (.inr ⟨e, q, rfl, rfl, getClass_refused hc hl⟩)

theorem extends_of_loadClass {className : String} {p q : Session σ}
    {result : Except Error GlobalRef} (hl : loadClass m className p = (result, q)) :
    Extends p q :=
  (sameTables_of_loadClass hl).extends

/-- Getting a class, whether it succeeds or not, only lets the session grow. -/
theorem extends_getClass (m : Machine σ) (className : String) (p : Session σ) :
    Extends p (getClass m className p).2 := by
  rcases getClass_cases m className p with ⟨ref, _, hg⟩ | ⟨ref, q, _, hl, hg⟩ | ⟨e, q, _, hl, hg⟩
  · rw [hg]
    exact .refl p
  · rw [hg]
    exact (extends_of_loadClass hl).trans (extends_remember q className ref)
  · rw [hg]
    exact extends_of_loadClass hl

/-! ## §3. All classes of a list. -/

/-- The classes are got one after another, from `p` to `q`: each is cached, or
else it can be loaded, and is cached then. -/
inductive Resolves (m : Machine σ) : List String → Session σ → Session σ → Prop where
  | nil (p : Session σ) : Resolves m [] p p
  | hit {className : String} {rest : List String} {p q : Session σ} {ref : GlobalRef}
      (hc : p.cached? className = some ref) (hr : Resolves m rest p q) :
      Resolves m (className :: rest) p q
  | miss {className : String} {rest : List String} {p loaded q : Session σ} {ref : GlobalRef}
      (hc : p.cached? className = none) (hl : loadClass m className p = (.ok ref, loaded))
      (hr : Resolves m rest (loaded.remember className ref) q) :
      Resolves m (className :: rest) p q

/-- While the classes are got from `p` on, one of them is looked up in `s`. -/
inductive LooksUpIn (m : Machine σ) : List String → Session σ → Session σ → Prop where
  | here {className : String} {rest : List String} {p : Session σ} :
      LooksUpIn m (className :: rest) p p
  | later {className : String} {rest : List String} {p q s : Session σ} {ref : GlobalRef}
      (hg : getClass m className p = (.ok ref, q)) (hs : LooksUpIn m rest q s) :
      LooksUpIn m (className :: rest) p s

theorem getClasses_cons_ok {className : String} {rest : List String} {p q : Session σ}
    {ref : GlobalRef} (hg : getClass m className p = (.ok ref, q)) :
    getClasses m (className :: rest) p = getClasses m rest q := by
  rw [getClasses, hg]

theorem getClasses_cons_error {className : String} {rest : List String} {p q : Session σ}
    {e : Error} (hg : getClass m className p = (.error e, q)) :
    getClasses m (className :: rest) p = (.error e, q) := by
  rw [getClasses, hg]

/-- **Getting classes succeeds exactly if each of them resolves in turn.** -/
theorem getClasses_eq_ok_iff (names : List String) {p q : Session σ} :
    getClasses m names p = (.ok (), q) ↔ Resolves m names p q := by
  constructor
  · intro h
    induction names generalizing p with
    | nil =>
      obtain rfl : p = q := congrArg Prod.snd h
      exact .nil p
    | cons className rest ih =>
      -- a class that is refused ends the run, and with it the success
      rcases getClass_cases m className p with
        ⟨ref, hc, hg⟩ | ⟨ref, loaded, hc, hl, hg⟩ | ⟨e, _, _, _, hg⟩
      · rw [getClasses_cons_ok hg] at h
        exact .hit hc (ih h)
      · rw [getClasses_cons_ok hg] at h
        exact .miss hc hl (ih h)
      · rw [getClasses_cons_error hg] at h
        cases congrArg Prod.fst h
  · intro h
    induction h with
    | nil p => rfl
    | hit hc _ ih => rw [getClasses_cons_ok (getClass_hit hc), ih]
    | miss hc hl _ ih => rw [getClasses_cons_ok (getClass_miss hc hl), ih]

theorem Resolves.extends {names : List String} {p q : Session σ} (h : Resolves m names p q) :
    Extends p q := by
  induction h with
  | nil p => exact .refl p
  | hit _ _ ih => exact ih
  | miss _ hl _ ih => exact ((extends_of_loadClass hl).trans (extends_remember _ _ _)).trans ih

/-- In the end all the names are cached. -/
theorem Resolves.isSome_cached? {names : List String} {p q : Session σ}
    (h : Resolves m names p q) : ∀ n ∈ names, (q.cached? n).isSome = true := by
  induction h with
  | nil p =>
    intro n hn
    cases hn
  | hit hc hr ih =>
    intro n hn
    rcases List.mem_cons.1 hn with rfl | hn
    · exact hr.extends.isSome (by rw [hc]; rfl)
    · exact ih n hn
  | @miss className _ _ loaded _ ref _ _ hr ih =>
    intro n hn
    rcases List.mem_cons.1 hn with rfl | hn
    · -- it is cached now, and what follows forgets nothing
      refine hr.extends.isSome ?_
      rw [cached?_remember, if_pos rfl]
      cases loaded.cached? n <;> rfl
    · exact ih n hn

/-- All along the way the registry is the same. -/
theorem LooksUpIn.extends {names : List String} {p s : Session σ} (h : LooksUpIn m names p s) :
    Extends p s := by
  induction h with
  | here => exact .refl _
  | @later className _ p _ _ _ hg _ ih =>
    have hstep := extends_getClass m className p
    rw [hg] at hstep
    exact hstep.trans ih

theorem extends_getClasses (m : Machine σ) (names : List String) (p : Session σ) :
    Extends p (getClasses m names p).2 := by
  induction names generalizing p with
  | nil => exact .refl p
  | cons className rest ih =>
    have hstep := extends_getClass m className p
    rcases hg : getClass m className p with ⟨result, q⟩
    rw [hg] at hstep
    cases result with
    | ok ref =>
      rw [getClasses_cons_ok hg]
      exact hstep.trans (ih q)
    | error e =>
      rw [getClasses_cons_error hg]
      exact hstep

end ClassBridge.Session
