/-
  ClassBridge.Proofs.Session.History
  ──────────────────────────────────
  **What happens in a run, one thing after another.**

  The history of a program lists the moments of its run: the session before,
  what was done, and the session after.  Getting a class is told apart by
  whether it was cached (`hit`) or not (`miss`); loading a library begins with
  a moment that says what will be reported, and goes on with the moments of
  its initializer, of its preload and of its installation, so nothing that a
  nested initializer does is left out.

      Step m p act q      what `act` does to a session, with all it depends on
      Path m p H q        moments that follow each other, from `p` to `q`
      path_history        the history of a program is a path, and ends where
                          the run ends
      ComesTo m prog p H q
                          the run is in `q` when `H` has happened

  What every step keeps holds after every path (`Path.induct`), and so in
  every session that a run comes through.
-/
import ClassBridge.Proofs.Session.Loading
import ClassBridge.Session.Program
import Mathlib.Data.List.Induction

namespace ClassBridge

open Registry (classNames)

variable {σ : Type}

/-! ## §1. What happens. -/

/-- One thing that happens in a run, and what came of it. -/
inductive Act where
  /-- A registry was built. -/
  | build (ms : List Mapping) (result : Except Error Registry)
  /-- A registry was to be installed, by a caller or at the end of a load. -/
  | install (r : Registry) (result : Except Error Unit)
  /-- The registry of the session was asked for. -/
  | registry (result : Except Error Registry)
  /-- A class was got that was cached. -/
  | hit (className : String) (ref : GlobalRef)
  /-- A class was to be got that was not cached, and was loaded. -/
  | miss (className : String) (result : Except Error GlobalRef)
  /-- A class was loaded past the cache, to keep under a name or to let go of. -/
  | past (className : String) (slot : Option String) (result : Except Error GlobalRef)
  /-- A class that was got is kept under a name or let go of. -/
  | keep (slot : Option String) (ref : GlobalRef)
  /-- What is held under a name was to be let go of. -/
  | dropHeld (slot : String) (found : Bool)
  /-- Methods of a class that was got were to be bound. -/
  | bind (c : ClassConstants) (methods : List MethodBinding) (ref : GlobalRef)
      (result : Except Error Unit)
  /-- The machine was asked for. -/
  | javaVm (result : Except Error Unit)
  /-- The class cache was cleared. -/
  | clear
  /-- The loading of a library begins, and will report this. -/
  | enter (machineGiven : Bool) (initializer : Program Ending)
      (reported : Except TextFault Code)
  /-- The environment was asked for, to load a library. -/
  | environment (result : Except CallError Unit)
  /-- A library was not loaded. -/
  | refuse (e : Error)

namespace Act

/-- The registry that was installed. -/
def installed? : Act → Option Registry
  | .install r (.ok ()) => some r
  | _ => none

/-- Whether the cache was cleared. -/
def clears : Act → Bool
  | .clear => true
  | _ => false

/-- The class that was loaded for the cache, and its reference. -/
def fetched? : Act → Option (String × GlobalRef)
  | .miss className (.ok ref) => some (className, ref)
  | _ => none

/-- The class that was asked of the cache, and the answer. -/
def answer? : Act → Option (String × Except Error GlobalRef)
  | .hit className ref => some (className, .ok ref)
  | .miss className result => some (className, result)
  | _ => none

/-- The reference that was made. -/
def made? : Act → Option GlobalRef
  | .miss _ (.ok ref) => some ref
  | .past _ _ (.ok ref) => some ref
  | _ => none

end Act

/-- Something happens: the session before, and the session after. -/
structure Moment (σ : Type) where
  before : Session σ
  act : Act
  after : Session σ

namespace Session

variable (m : Machine σ)

/-! ## §2. The moments of a command and of a load. -/

/-- A class is got. -/
def momentOfGet (className : String) (p : Session σ) : Moment σ :=
  match p.cached? className with
  | some ref => ⟨p, .hit className ref, p⟩
  | none => ⟨p, .miss className (getClass m className p).1, (getClass m className p).2⟩

/-- Classes are got in order, up to the first failure. -/
def momentsOfGets : List String → Session σ → List (Moment σ)
  | [], _ => []
  | className :: rest, p =>
    momentOfGet m className p ::
      match getClass m className p with
      | (.error _, _) => []
      | (.ok _, q) => momentsOfGets rest q

/-- A class is got, and what is to be done with its reference follows. -/
def momentsOfUse (className : String) (use : GlobalRef → Session σ → Moment σ) (p : Session σ) :
    List (Moment σ) :=
  momentOfGet m className p ::
    match getClass m className p with
    | (.error _, _) => []
    | (.ok ref, q) => [use ref q]

/-- A command is carried out. -/
def momentsOf (c : Command) (p : Session σ) : List (Moment σ) :=
  match c with
  | .build ms => [⟨p, .build ms (p.buildRegistry ms).1, (p.buildRegistry ms).2⟩]
  | .install r => [⟨p, .install r (p.install r).1, (p.install r).2⟩]
  | .registry => [⟨p, .registry p.registry, p⟩]
  | .getClass className slot =>
    momentsOfUse m className (fun ref q => ⟨q, .keep slot ref, keep m slot ref q⟩) p
  | .loadClass className slot =>
    [⟨p, .past className slot (loadClassFor m slot className p).1,
      (loadClassFor m slot className p).2⟩]
  | .dropHeld slot => [⟨p, .dropHeld slot (dropHeld m slot p).1, (dropHeld m slot p).2⟩]
  | .preload r => momentsOfGets m (classNames r.mappings) p
  | .bindMethods c methods =>
    -- the class is cached by then, so that getting it again changes nothing
    momentsOfUse m c.className.text
      (fun ref q => ⟨q, .bind c methods ref (bindMethods m c methods q).1,
        (bindMethods m c methods q).2⟩) p
  | .javaVm => [⟨p, .javaVm (askJavaVm m p).1, (askJavaVm m p).2⟩]
  | .clearCache | .unload => [⟨p, .clear, clearCache m p⟩]

/-- A library is not loaded. -/
def momentOfRefusal (e : Error) (p : Session σ) : Moment σ :=
  ⟨p, .refuse e, p.log (.notLoaded e)⟩

/-- The cache is cleared, and the library is not loaded. -/
def momentsOfUndoing (e : Error) (p : Session σ) : List (Moment σ) :=
  [⟨p, .clear, clearCache m p⟩, momentOfRefusal e (clearCache m p)]

/-- A registry is installed after getting its classes. -/
def momentsOfInstalling (r : Registry) (p : Session σ) : List (Moment σ) :=
  momentsOfGets m (classNames r.mappings) p ++
    match preload m r p with
    | (.error e, q) => momentsOfUndoing m e q
    | (.ok (), q) =>
      ⟨q, .install r (q.install r).1, (q.install r).2⟩ ::
        match q.install r with
        | (.error e, q) => momentsOfUndoing m e q
        | (.ok (), _) => []

/-- A load goes on after its initializer. -/
def momentsAfter (ending : Ending) (left : Session σ) : List (Moment σ) :=
  match ending with
  | .aborted _ => []
  | .failed e => [momentOfRefusal e left]
  | .ready r => momentsOfInstalling m r left

/-- A library is loaded, with an initializer of which `history` lists the
moments. -/
def momentsOfLoad (machineGiven : Bool) (initializer : Session σ → Ending × Session σ)
    (history : Session σ → List (Moment σ)) (p : Session σ) : List (Moment σ) :=
  if machineGiven then
    ⟨p, .environment (vmEnv m p).1, (vmEnv m p).2⟩ ::
      match vmEnv m p with
      | (.error e, q) => [momentOfRefusal (.call e) q]
      | (.ok (), q) => history q ++ momentsAfter m (initializer q).1 (initializer q).2
  else []

end Session

/-! ## §3. The history of a program. -/

/-- All that happens while a program is carried out. -/
def Program.history (m : Machine σ) {α : Type} : Program α → Session σ → List (Moment σ)
  | .done _, _ => []
  | .call c next, p =>
    let r := Session.perform m c p
    Session.momentsOf m c p ++ (next r.1).history m r.2
  | .load machineGiven initializer next, p =>
    let r := Session.loadEntryPoint m machineGiven (fun p => initializer.run m p) p
    ⟨p, .enter machineGiven initializer r.1, p⟩ ::
      (Session.momentsOfLoad m machineGiven (fun p => initializer.run m p)
          (fun p => initializer.history m p) p
        ++ (next r.1).history m r.2)

namespace Session

/-! ## §4. Steps. -/

/-- What an act does to a session. -/
inductive Step (m : Machine σ) : Session σ → Act → Session σ → Prop where
  | build (p : Session σ) (ms : List Mapping) :
      Step m p (.build ms (p.buildRegistry ms).1) (p.buildRegistry ms).2
  | install (p : Session σ) (r : Registry) :
      Step m p (.install r (p.install r).1) (p.install r).2
  | registry (p : Session σ) : Step m p (.registry p.registry) p
  | hit {p : Session σ} {className : String} {ref : GlobalRef}
      (hc : p.cached? className = some ref) : Step m p (.hit className ref) p
  | fetch {p q : Session σ} {className : String} {ref : GlobalRef}
      (hc : p.cached? className = none) (hl : loadClass m className p = (.ok ref, q)) :
      Step m p (.miss className (.ok ref)) (q.remember className ref)
  | fail {p q : Session σ} {className : String} {e : Error}
      (hc : p.cached? className = none) (hl : loadClass m className p = (.error e, q)) :
      Step m p (.miss className (.error e)) q
  | past (p : Session σ) (className : String) (slot : Option String) :
      Step m p (.past className slot (loadClassFor m slot className p).1)
        (loadClassFor m slot className p).2
  | keep {p : Session σ} {className : String} {ref : GlobalRef} (slot : Option String)
      (hc : p.cached? className = some ref) : Step m p (.keep slot ref) (keep m slot ref p)
  | dropHeld (p : Session σ) (slot : String) :
      Step m p (.dropHeld slot (dropHeld m slot p).1) (dropHeld m slot p).2
  | bind {p : Session σ} {c : ClassConstants} {ref : GlobalRef} (methods : List MethodBinding)
      (hc : p.cached? c.className.text = some ref) :
      Step m p (.bind c methods ref (bindMethods m c methods p).1) (bindMethods m c methods p).2
  | javaVm (p : Session σ) : Step m p (.javaVm (askJavaVm m p).1) (askJavaVm m p).2
  | clear (p : Session σ) : Step m p .clear (clearCache m p)
  | enter (p : Session σ) (machineGiven : Bool) (initializer : Program Ending) :
      Step m p
        (.enter machineGiven initializer
          (loadEntryPoint m machineGiven (fun p => initializer.run m p) p).1) p
  | environment (p : Session σ) : Step m p (.environment (vmEnv m p).1) (vmEnv m p).2
  | refuse (p : Session σ) (e : Error) : Step m p (.refuse e) (p.log (.notLoaded e))

/-! ## §5. Paths. -/

/-- The moments follow each other from `p` to `q`, each of them a step. -/
inductive Path (m : Machine σ) : Session σ → List (Moment σ) → Session σ → Prop where
  | nil (p : Session σ) : Path m p [] p
  | cons {p q s : Session σ} {act : Act} {H : List (Moment σ)} (hs : Step m p act q)
      (hp : Path m q H s) : Path m p (⟨p, act, q⟩ :: H) s

variable {m : Machine σ} {p q s : Session σ} {H H' : List (Moment σ)}

theorem Step.path {act : Act} (hs : Step m p act q) : Path m p [⟨p, act, q⟩] q :=
  .cons hs (.nil q)

theorem Path.append (h : Path m p H q) (h' : Path m q H' s) : Path m p (H ++ H') s := by
  induction h with
  | nil => exact h'
  | cons hs _ ih => exact .cons hs (ih h')

theorem Path.of_append (h : Path m p (H ++ H') s) : ∃ q, Path m p H q ∧ Path m q H' s := by
  induction H generalizing p with
  | nil => exact ⟨p, .nil p, h⟩
  | cons x H ih =>
    cases h with
    | cons hs hp =>
      obtain ⟨q, h₁, h₂⟩ := ih hp
      exact ⟨q, .cons hs h₁, h₂⟩

/-- A path at one of its moments: what leads there, the step, and what follows. -/
theorem Path.of_cons {x : Moment σ} (h : Path m p (x :: H) s) :
    x.before = p ∧ Step m x.before x.act x.after ∧ Path m x.after H s := by
  cases h with
  | cons hs hp => exact ⟨rfl, hs, hp⟩

theorem Path.split {x : Moment σ} (h : Path m p (H ++ x :: H') s) :
    Path m p H x.before ∧ Step m x.before x.act x.after ∧ Path m x.after H' s := by
  obtain ⟨q, h₁, h₂⟩ := h.of_append
  obtain ⟨rfl, hs, hp⟩ := h₂.of_cons
  exact ⟨h₁, hs, hp⟩

/-- A path that ends with a moment ends in the session after it. -/
theorem Path.split_last {x : Moment σ} (h : Path m p (H ++ [x]) s) :
    Path m p H x.before ∧ Step m x.before x.act x.after ∧ s = x.after := by
  obtain ⟨h₁, hs, hp⟩ := h.split
  cases hp
  exact ⟨h₁, hs, rfl⟩

/-- **What holds at first and is kept by every step holds after every path.** -/
theorem Path.induct {motive : List (Moment σ) → Session σ → Prop} (hp : Path m p H q)
    (nil : motive [] p)
    (snoc : ∀ H q act s, Path m p H q → motive H q → Step m q act s →
      motive (H ++ [⟨q, act, s⟩]) s) :
    motive H q := by
  induction H using List.reverseRecOn generalizing q with
  | nil =>
    cases hp
    exact nil
  | append_singleton H x ih =>
    obtain ⟨hH, hs, rfl⟩ := hp.split_last
    exact snoc H x.before x.act x.after hH (ih hH) hs

/-! ## §6. The moments of a command and of a load follow each other. -/

/-- Getting a class is one step, whether it was cached or not. -/
theorem step_momentOfGet (m : Machine σ) (className : String) (p : Session σ) :
    ∃ act, momentOfGet m className p = ⟨p, act, (getClass m className p).2⟩
      ∧ Step m p act (getClass m className p).2 := by
  rcases getClass_cases m className p with
    ⟨ref, hc, hg⟩ | ⟨ref, q, hc, hl, hg⟩ | ⟨e, q, hc, hl, hg⟩
  · exact ⟨.hit className ref, by rw [momentOfGet, hc, hg], by rw [hg]; exact .hit hc⟩
  · exact ⟨.miss className (.ok ref), by rw [momentOfGet, hc, hg], by rw [hg]; exact .fetch hc hl⟩
  · exact ⟨.miss className (.error e), by rw [momentOfGet, hc, hg], by rw [hg]; exact .fail hc hl⟩

theorem path_momentsOfGets (m : Machine σ) (names : List String) (p : Session σ) :
    Path m p (momentsOfGets m names p) (getClasses m names p).2 := by
  induction names generalizing p with
  | nil => exact .nil p
  | cons className rest ih =>
    obtain ⟨act, hm, hs⟩ := step_momentOfGet m className p
    rcases hg : getClass m className p with ⟨result, q⟩
    rw [hg] at hm hs
    cases result with
    | error e =>
      rw [momentsOfGets, hm, getClasses_cons_error hg, hg]
      exact hs.path
    | ok ref =>
      rw [momentsOfGets, hm, getClasses_cons_ok hg, hg]
      exact .cons hs (ih q)

/-- A class that has been got is cached. -/
theorem cached?_of_getClass {className : String} {ref : GlobalRef}
    (hg : getClass m className p = (.ok ref, q)) : q.cached? className = some ref := by
  rcases getClass_cases m className p with
    ⟨ref', hc, hg'⟩ | ⟨ref', q', hc, hl, hg'⟩ | ⟨e, q', _, _, hg'⟩
  · obtain ⟨h₁, rfl⟩ := Prod.mk.inj (hg.symm.trans hg')
    obtain rfl := Except.ok.inj h₁
    exact hc
  · obtain ⟨h₁, rfl⟩ := Prod.mk.inj (hg.symm.trans hg')
    obtain rfl := Except.ok.inj h₁
    have hsame := sameTables_loadClass m className p
    rw [hl] at hsame
    rw [cached?_remember, hsame.cached?, hc, if_pos rfl]
    rfl
  · cases congrArg Prod.fst (hg.symm.trans hg')

/-- Binding methods of a class that has been got goes on from there. -/
theorem bindMethods_of_getClass {c : ClassConstants} {ref : GlobalRef}
    (hg : getClass m c.className.text p = (.ok ref, q)) (methods : List MethodBinding) :
    bindMethods m c methods p = bindMethods m c methods q := by
  rw [bindMethods, hg, bindMethods, getClass_hit (cached?_of_getClass hg)]

theorem bindMethods_of_refused {c : ClassConstants} {e : Error}
    (hg : getClass m c.className.text p = (.error e, q)) (methods : List MethodBinding) :
    bindMethods m c methods p = (.error e, q) := by
  rw [bindMethods, hg]

/-- A class is got, and its reference is used in a step if there is one. -/
theorem path_momentsOfUse {className : String} {use : GlobalRef → Session σ → Moment σ}
    {final : Session σ}
    (hok : ∀ ref q, getClass m className p = (.ok ref, q) → q.cached? className = some ref →
      Path m q [use ref q] final)
    (herror : ∀ e q, getClass m className p = (.error e, q) → q = final) :
    Path m p (momentsOfUse m className use p) final := by
  obtain ⟨act, hm, hs⟩ := step_momentOfGet m className p
  rcases hg : getClass m className p with ⟨result, q⟩
  rw [hg] at hm hs
  cases result with
  | error e =>
    rw [momentsOfUse, hm, hg, ← herror e q hg]
    exact hs.path
  | ok ref =>
    rw [momentsOfUse, hm, hg]
    exact .cons hs (hok ref q hg (cached?_of_getClass hg))

/-- **The moments of a command lead where the command leads.** -/
theorem path_momentsOf (m : Machine σ) (c : Command) (p : Session σ) :
    Path m p (momentsOf m c p) (perform m c p).2 := by
  cases c with
  | build ms => exact (Step.build p ms).path
  | install r => exact (Step.install p r).path
  | registry => exact (Step.registry p).path
  | getClass className slot =>
    refine path_momentsOfUse ?_ ?_
    · intro ref q hg hc
      show Path m q _ (getClassFor m slot className p).2
      rw [getClassFor, hg]
      exact (Step.keep slot hc).path
    · intro e q hg
      show q = (getClassFor m slot className p).2
      rw [getClassFor, hg]
  | loadClass className slot => exact (Step.past p className slot).path
  | dropHeld slot => exact (Step.dropHeld p slot).path
  | preload r => exact path_momentsOfGets m _ p
  | bindMethods c methods =>
    refine path_momentsOfUse ?_ ?_
    · intro ref q hg hc
      show Path m q _ (bindMethods m c methods p).2
      rw [bindMethods_of_getClass hg]
      exact (Step.bind methods hc).path
    · intro e q hg
      show q = (bindMethods m c methods p).2
      rw [bindMethods_of_refused hg]
  | javaVm => exact (Step.javaVm p).path
  | clearCache => exact (Step.clear p).path
  | unload => exact (Step.clear p).path

theorem path_momentsOfUndoing (m : Machine σ) (e : Error) (p : Session σ) :
    Path m p (momentsOfUndoing m e p) (refuseLoad e (clearCache m p)).2 :=
  .cons (.clear p) (Step.refuse (clearCache m p) e).path

/-- The session in which a load ends that has come to its installation. -/
theorem path_momentsOfInstalling (m : Machine σ) (r : Registry) (p : Session σ) :
    Path m p (momentsOfInstalling m r p)
      (match installPreloaded m r p with
        | (.error e, q) => (refuseLoad e q).2
        | (.ok (), q) => q) := by
  have hgets : Path m p (momentsOfGets m (classNames r.mappings) p) (preload m r p).2 :=
    path_momentsOfGets m _ p
  refine hgets.append ?_
  unfold installPreloaded
  rcases hp : preload m r p with ⟨result, q⟩
  cases result with
  | error e => exact path_momentsOfUndoing m e q
  | ok =>
    dsimp only
    have hs := Step.install (m := m) q r
    rcases hi : q.install r with ⟨result, q'⟩
    rw [hi] at hs
    cases result with
    | error e => exact .cons hs (path_momentsOfUndoing m e q')
    | ok => exact hs.path

/-- What happens after the initializer leads where the load ends. -/
theorem path_momentsAfter {initializer : Session σ → Ending × Session σ} {p' left : Session σ}
    {ending : Ending} (henv : vmEnv m p = (.ok (), p'))
    (hinit : initializer p' = (ending, left)) :
    Path m left (momentsAfter m ending left) (load m initializer p).2 := by
  cases ending with
  | aborted f =>
    rw [load_of_aborted henv hinit]
    exact .nil left
  | failed e =>
    rw [load_of_failed henv hinit]
    exact (Step.refuse left e).path
  | ready r =>
    have hpath := path_momentsOfInstalling m r left
    rcases hinst : installPreloaded m r left with ⟨result, q⟩
    rw [hinst] at hpath
    cases result with
    | error e =>
      rw [load_of_refused henv hinit hinst]
      exact hpath
    | ok =>
      rw [load_of_installed henv hinit hinst]
      exact hpath

/-- The moments of a load lead where the load ends, if those of its initializer
lead where that ends. -/
theorem path_momentsOfLoad {machineGiven : Bool} {initializer : Session σ → Ending × Session σ}
    {history : Session σ → List (Moment σ)}
    (hinit : ∀ p, Path m p (history p) (initializer p).2) (p : Session σ) :
    Path m p (momentsOfLoad m machineGiven initializer history p)
      (loadEntryPoint m machineGiven initializer p).2 := by
  cases machineGiven with
  | false => exact .nil p
  | true =>
    show Path m p _ (load m initializer p).2
    rw [momentsOfLoad, if_pos rfl]
    refine .cons (.environment p) ?_
    rcases henv : vmEnv m p with ⟨result, p'⟩
    cases result with
    | error e =>
      rw [load_of_noEnvironment henv]
      exact (Step.refuse p' (.call e)).path
    | ok => exact (hinit p').append (path_momentsAfter henv rfl)

/-- **The history of a program is a path, and ends where the run ends.** -/
theorem path_history (m : Machine σ) {α : Type} (prog : Program α) (p : Session σ) :
    Path m p (prog.history m p) (prog.run m p).2 := by
  induction prog generalizing p with
  | done result => exact .nil p
  | call c next ih => exact (path_momentsOf m c p).append (ih _ _)
  | load machineGiven initializer next ihInit ih =>
    exact .cons (.enter p machineGiven initializer)
      ((path_momentsOfLoad ihInit p).append (ih _ _))

/-! ## §7. The sessions that a run comes through. -/

/-- When `H` has happened, the run of the program is in the session `q`. -/
structure ComesTo (m : Machine σ) {α : Type} (prog : Program α) (p : Session σ)
    (H : List (Moment σ)) (q : Session σ) : Prop where
  path : Path m p H q
  rest : ∃ H', prog.history m p = H ++ H'

theorem comesTo_end (m : Machine σ) {α : Type} (prog : Program α) (p : Session σ) :
    ComesTo m prog p (prog.history m p) (prog.run m p).2 :=
  ⟨path_history m prog p, [], (List.append_nil _).symm⟩

/-- A run comes through a session at each place of its history. -/
theorem exists_comesTo {α : Type} {prog : Program α} (hH : prog.history m p = H ++ H') :
    ∃ q, ComesTo m prog p H q := by
  have hp := path_history m prog p
  rw [hH] at hp
  obtain ⟨q, h₁, _⟩ := hp.of_append
  exact ⟨q, h₁, H', hH⟩

end Session
end ClassBridge
