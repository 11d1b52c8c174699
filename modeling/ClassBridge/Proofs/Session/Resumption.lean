/-
  ClassBridge.Proofs.Session.Resumption
  ─────────────────────────────────────
  **A session with nothing installed and nothing cached begins anew.**

  Whatever such a session has been through (`past`) makes no difference to
  what comes: callers hold references from before, but no one else holds those,
  and new ones are numbered on from them.  Each operation does in the session
  what it does at the start,

      getClass_past, clearCache_past, …      one operation
      perform_past                           one command
      run_past                               a program, with its loads

  if it leaves alone the names under which callers hold references from before
  (`Avoids`), and sees the new ones by the numbers that they would have had
  (`after`).
-/
import ClassBridge.Proofs.Session.Surroundings
import ClassBridge.Proofs.Session.Trace
import ClassBridge.Session.Program

namespace ClassBridge

/-! ## §1. Counting references anew. -/

/-- The reference with `d` references before it left out. -/
def GlobalRef.recount (d : Nat) (ref : GlobalRef) : GlobalRef :=
  { ref with serial := ref.serial - d }

theorem GlobalRef.recount_renumber (d : Nat) (ref : GlobalRef) :
    (ref.renumber d).recount d = ref := by
  simp [recount, renumber]

theorem renumberAll_append (d : Nat) (refs refs' : List (String × GlobalRef)) :
    renumberAll d (refs ++ refs') = renumberAll d refs ++ renumberAll d refs' :=
  List.map_append

theorem lookup_renumberAll (d : Nat) (n : String) (refs : List (String × GlobalRef)) :
    (renumberAll d refs).lookup n = (refs.lookup n).map (GlobalRef.renumber d) := by
  induction refs with
  | nil => rfl
  | cons e refs ih =>
    obtain ⟨k, ref⟩ := e
    unfold renumberAll at ih ⊢
    rw [List.map_cons, List.lookup_cons, List.lookup_cons, ih]
    cases n == k with
    | true => rfl
    | false => rfl

theorem any_serial_renumberAll (d serial : Nat) (refs : List (String × GlobalRef)) :
    (renumberAll d refs).any (fun e => e.2.serial == serial + d)
      = refs.any fun e => e.2.serial == serial := by
  unfold renumberAll
  rw [List.any_map]
  congr 1
  funext e
  show (e.2.serial + d == serial + d) = (e.2.serial == serial)
  rw [Bool.eq_iff_iff, beq_iff_eq, beq_iff_eq, Nat.add_right_cancel_iff]

theorem filter_name_renumberAll (d : Nat) (slot : String) (refs : List (String × GlobalRef)) :
    (renumberAll d refs).filter (fun e => e.1 ≠ slot)
      = renumberAll d (refs.filter fun e => e.1 ≠ slot) := by
  unfold renumberAll
  rw [List.filter_map]
  rfl

namespace Session

variable {σ : Type}

/-! ## §2. The past of a session. -/

/-- What a session finds around it that begins where `old` ends, with nothing
installed and nothing cached. -/
def past (old : Session σ) : Surroundings where
  cache := renumberAll old.nextSerial
  held := fun held => renumberAll old.nextSerial held ++ old.held
  serials := old.nextSerial
  earlier := old.trace

/-- All that callers hold is numbered before what is made next. -/
def Numbered (p : Session σ) : Prop :=
  ∀ e ∈ p.held, e.2.serial < p.nextSerial

/-- A session with nothing installed and nothing cached has just begun, but for
its past. -/
theorem within_past {old : Session σ} (hv : old.installed = none) (hc : old.cache = []) :
    (start old.machine).within old.past = old := by
  cases old
  obtain rfl := hv
  obtain rfl := hc
  simp [within, past, start, renumberAll]

theorem lookups_within (S : Surroundings) (p : Session σ) :
    (p.within S).lookups = S.earlier.filterMap Event.lookup? ++ p.lookups := by
  have hsame : Event.lookup? ∘ Event.renumber S.serials = Event.lookup? := by
    funext e
    cases e <;> rfl
  show (S.earlier ++ p.trace.map (Event.renumber S.serials)).filterMap Event.lookup? = _
  rw [List.filterMap_append, List.filterMap_map, hsame]
  rfl

variable (m : Machine σ) (old : Session σ)

/-! ## §3. Through the cache. -/

theorem cached?_past (className : String) (p : Session σ) :
    (p.within old.past).cached? className
      = (p.cached? className).map (GlobalRef.renumber old.nextSerial) :=
  lookup_renumberAll _ _ _

theorem remember_past (className : String) (ref : GlobalRef) (p : Session σ) :
    (p.within old.past).remember className (ref.renumber old.nextSerial)
      = (p.remember className ref).within old.past := by
  show Session.mk _ _ (renumberAll _ p.cache ++ renumberAll _ [(className, ref)]) _ _ _ = _
  rw [← renumberAll_append]
  rfl

theorem getClass_past (className : String) (p : Session σ) :
    getClass m className (p.within old.past)
      = ((getClass m className p).1.map (GlobalRef.renumber old.nextSerial),
        (getClass m className p).2.within old.past) := by
  unfold getClass
  rw [cached?_past]
  cases p.cached? className with
  | some ref => rfl
  | none =>
    dsimp only [Option.map_none]
    rw [loadClass_within]
    rcases loadClass m className p with ⟨result, q⟩
    cases result with
    | error e => rfl
    | ok ref =>
      show (_, (q.within old.past).remember className (ref.renumber old.nextSerial)) = _
      rw [remember_past]
      rfl

theorem getClasses_past (names : List String) (p : Session σ) :
    getClasses m names (p.within old.past)
      = ((getClasses m names p).1, (getClasses m names p).2.within old.past) := by
  induction names generalizing p with
  | nil => rfl
  | cons className rest ih =>
    unfold getClasses
    rw [getClass_past]
    rcases getClass m className p with ⟨result, q⟩
    cases result with
    | error e => rfl
    | ok ref => exact ih q

/-! ## §4. Letting go. -/

section

variable {old} (hn : old.Numbered)
include hn

/-- A reference from before is none of the new ones. -/
theorem holds_past (ref : GlobalRef) (p : Session σ) :
    (p.within old.past).holds (ref.renumber old.nextSerial) = p.holds ref := by
  -- what is held from before has a smaller number
  have hbefore : old.held.any (fun e => e.2.serial == ref.serial + old.nextSerial) = false := by
    rw [List.any_eq_false]
    intro e he
    have hlt := hn e he
    rw [beq_iff_eq]
    omega
  show ((renumberAll old.nextSerial p.cache).any
        (fun e => e.2.serial == ref.serial + old.nextSerial)
      || (renumberAll old.nextSerial p.held ++ old.held).any
        (fun e => e.2.serial == ref.serial + old.nextSerial)) = _
  rw [List.any_append, any_serial_renumberAll, any_serial_renumberAll, hbefore, Bool.or_false]
  rfl

theorem letGo_past (ref : GlobalRef) (p : Session σ) :
    letGo m (ref.renumber old.nextSerial) (p.within old.past)
      = (letGo m ref p).within old.past := by
  unfold letGo
  rw [holds_past hn]
  split
  · rfl
  · exact release_within old.past m ref p

theorem foldl_letGo_past (refs : List GlobalRef) (p : Session σ) :
    (refs.map (GlobalRef.renumber old.nextSerial)).foldl (fun p ref => letGo m ref p)
        (p.within old.past)
      = (refs.foldl (fun p ref => letGo m ref p) p).within old.past := by
  induction refs generalizing p with
  | nil => rfl
  | cons ref refs ih =>
    rw [List.map_cons, List.foldl_cons, List.foldl_cons, letGo_past m hn, ih]

/-- References are given back in the same order: they have the same handles. -/
theorem clearCache_past (p : Session σ) :
    clearCache m (p.within old.past) = (clearCache m p).within old.past := by
  have hrefs : (p.within old.past).cache.map (fun e => e.2)
      = (p.cache.map fun e => e.2).map (GlobalRef.renumber old.nextSerial) := by
    show (renumberAll old.nextSerial p.cache).map (fun e => e.2) = _
    unfold renumberAll
    rw [List.map_map, List.map_map]
    rfl
  unfold clearCache
  dsimp only
  rw [hrefs, List.length_map, log_within,
    ← List.map_mergeSort (r := fun a b => decide (a.handle ≤ b.handle)) (fun _ _ _ _ => rfl)]
  exact foldl_letGo_past m hn _
    { p.log (.releasing (p.cache.map fun e => e.2).length) with cache := [] }

/-! ## §5. References held by callers. -/

variable {slot : String} (hslot : slot ∉ old.held.map Prod.fst)
include hslot

omit hn in
theorem held?_past (p : Session σ) :
    (p.within old.past).held? slot = (p.held? slot).map (GlobalRef.renumber old.nextSerial) := by
  have hnone : old.held.lookup slot = none := by
    rw [List.lookup_eq_none_iff]
    intro e he
    have hne : slot ≠ e.1 := by
      rintro rfl
      exact hslot (List.mem_map_of_mem he)
    exact bne_iff_ne.2 hne
  show (renumberAll old.nextSerial p.held ++ old.held).lookup slot = _
  rw [List.lookup_append, hnone, Option.or_none]
  exact lookup_renumberAll _ _ _

omit hn in
/-- What is held under other names stays, and what is held from before with it. -/
theorem filter_held_past (p : Session σ) :
    (p.within old.past).held.filter (fun e => e.1 ≠ slot)
      = renumberAll old.nextSerial (p.held.filter fun e => e.1 ≠ slot) ++ old.held := by
  have hkept : old.held.filter (fun e => e.1 ≠ slot) = old.held := by
    rw [List.filter_eq_self]
    intro e he
    have hne : e.1 ≠ slot := by
      rintro rfl
      exact hslot (List.mem_map_of_mem he)
    exact decide_eq_true hne
  show (renumberAll old.nextSerial p.held ++ old.held).filter (fun e => e.1 ≠ slot) = _
  rw [List.filter_append, hkept, filter_name_renumberAll]

theorem hold_past (ref : GlobalRef) (p : Session σ) :
    hold m slot (ref.renumber old.nextSerial) (p.within old.past)
      = (hold m slot ref p).within old.past := by
  unfold hold
  dsimp only
  rw [filter_held_past hslot, held?_past hslot]
  cases p.held? slot with
  | none => rfl
  | some ref' =>
    exact letGo_past m hn ref'
      { p with held := (slot, ref) :: p.held.filter fun e => e.1 ≠ slot }

theorem dropHeld_past (p : Session σ) :
    dropHeld m slot (p.within old.past)
      = ((dropHeld m slot p).1, (dropHeld m slot p).2.within old.past) := by
  unfold dropHeld
  rw [held?_past hslot, filter_held_past hslot]
  cases p.held? slot with
  | none => rfl
  | some ref =>
    exact congrArg (Prod.mk true)
      (letGo_past m hn ref { p with held := p.held.filter fun e => e.1 ≠ slot })

omit hslot

variable {kept : Option String} (hkept : ∀ slot ∈ kept, slot ∉ old.held.map Prod.fst)
include hkept

theorem keep_past (ref : GlobalRef) (p : Session σ) :
    keep m kept (ref.renumber old.nextSerial) (p.within old.past)
      = (keep m kept ref p).within old.past := by
  cases kept with
  | none => exact letGo_past m hn ref p
  | some slot => exact hold_past m hn (hkept slot rfl) ref p

theorem getClassFor_past (className : String) (p : Session σ) :
    getClassFor m kept className (p.within old.past)
      = ((getClassFor m kept className p).1.map (GlobalRef.renumber old.nextSerial),
        (getClassFor m kept className p).2.within old.past) := by
  unfold getClassFor
  rw [getClass_past]
  rcases getClass m className p with ⟨result, q⟩
  cases result with
  | error e => rfl
  | ok ref => exact congrArg (Prod.mk _) (keep_past m hn hkept ref q)

theorem loadClassFor_past (className : String) (p : Session σ) :
    loadClassFor m kept className (p.within old.past)
      = ((loadClassFor m kept className p).1.map (GlobalRef.renumber old.nextSerial),
        (loadClassFor m kept className p).2.within old.past) := by
  unfold loadClassFor
  rw [loadClass_within]
  rcases loadClass m className p with ⟨result, q⟩
  cases result with
  | error e => rfl
  | ok ref => exact congrArg (Prod.mk _) (keep_past m hn hkept ref q)

end

/-! ## §6. Registries and methods. -/

theorem buildRegistry_past (ms : List Mapping) (p : Session σ) :
    (p.within old.past).buildRegistry ms
      = ((p.buildRegistry ms).1, (p.buildRegistry ms).2.within old.past) := by
  refine congrArg (Prod.mk _) ?_
  show (Registry.accepted ms).foldl (fun p m => p.log (.mapped m)) (p.within old.past)
    = ((Registry.accepted ms).foldl (fun p m => p.log (.mapped m)) p).within old.past
  generalize Registry.accepted ms = accepted
  induction accepted generalizing p with
  | nil => rfl
  | cons e rest ih => rw [List.foldl_cons, List.foldl_cons, log_within, ih]

theorem install_past (r : Registry) (p : Session σ) :
    (p.within old.past).install r = ((p.install r).1, (p.install r).2.within old.past) := by
  have hinstalled : (p.within old.past).installed = p.installed := rfl
  unfold install
  rw [hinstalled]
  cases p.installed with
  | some r₀ => rfl
  | none => exact congrArg (Prod.mk _) (log_within old.past { p with installed := some r } _)

theorem askJavaVm_past (p : Session σ) :
    askJavaVm m (p.within old.past)
      = ((askJavaVm m p).1, (askJavaVm m p).2.within old.past) := by
  unfold askJavaVm
  rw [javaVm_within]
  rcases javaVm m p with ⟨result, q⟩
  cases result with
  | error e => rfl
  | ok => rfl

theorem bindMethods_past (c : ClassConstants) (methods : List MethodBinding) (p : Session σ) :
    bindMethods m c methods (p.within old.past)
      = ((bindMethods m c methods p).1, (bindMethods m c methods p).2.within old.past) := by
  unfold bindMethods
  rw [getClass_past]
  rcases getClass m c.className.text p with ⟨result, q⟩
  cases result with
  | error e => rfl
  | ok ref =>
    dsimp only [Except.map, GlobalRef.handle_renumber, machine_within]
    cases m.registerNatives ref.handle (methods.map MethodBinding.toRow)
        (Int32.ofNat methods.length) q.machine with
    | none => rfl
    | some answer =>
      obtain ⟨code, s⟩ := answer
      dsimp only
      rw [advance_within old.past rfl, log_within, log_within]
      split
      · rfl
      · rfl

/-! ## §7. Loading a library. -/

section

variable {old} (hn : old.Numbered)
include hn

theorem installPreloaded_past (r : Registry) (p : Session σ) :
    installPreloaded m r (p.within old.past)
      = ((installPreloaded m r p).1, (installPreloaded m r p).2.within old.past) := by
  have hpreload : preload m r (p.within old.past)
      = ((preload m r p).1, (preload m r p).2.within old.past) := getClasses_past m old _ p
  unfold installPreloaded
  rw [hpreload]
  rcases preload m r p with ⟨result, q⟩
  cases result with
  | error e => exact congrArg (Prod.mk _) (clearCache_past m hn q)
  | ok =>
    dsimp only
    rw [install_past]
    rcases q.install r with ⟨result, q'⟩
    cases result with
    | error e => exact congrArg (Prod.mk _) (clearCache_past m hn q')
    | ok => rfl

/-- Loading does the same if its initializer does. -/
theorem load_past {initializer initializer' : Session σ → Ending × Session σ}
    (hinit : ∀ p, initializer' (p.within old.past)
      = ((initializer p).1, (initializer p).2.within old.past)) (p : Session σ) :
    load m initializer' (p.within old.past)
      = ((load m initializer p).1, (load m initializer p).2.within old.past) := by
  unfold load
  rw [vmEnv_within]
  rcases vmEnv m p with ⟨result, p'⟩
  cases result with
  | error e => exact congrArg (Prod.mk _) (log_within old.past p' _)
  | ok =>
    dsimp only
    rw [hinit]
    rcases initializer p' with ⟨ending, left⟩
    cases ending with
    | aborted f => rfl
    | failed e => exact congrArg (Prod.mk _) (log_within old.past left _)
    | ready r =>
      dsimp only
      rw [installPreloaded_past m hn]
      rcases installPreloaded m r left with ⟨result, q⟩
      cases result with
      | error e => exact congrArg (Prod.mk _) (log_within old.past q _)
      | ok => rfl

theorem loadEntryPoint_past {initializer initializer' : Session σ → Ending × Session σ}
    (hinit : ∀ p, initializer' (p.within old.past)
      = ((initializer p).1, (initializer p).2.within old.past)) (machineGiven : Bool)
    (p : Session σ) :
    loadEntryPoint m machineGiven initializer' (p.within old.past)
      = ((loadEntryPoint m machineGiven initializer p).1,
        (loadEntryPoint m machineGiven initializer p).2.within old.past) := by
  cases machineGiven with
  | false => rfl
  | true => exact load_past m hn hinit p

end

end Session

/-! ## §8. Commands and programs. -/

/-- The result of a command, with `f ref` for each reference in it. -/
def Command.mapRefs (f : GlobalRef → GlobalRef) : (c : Command) → c.Result → c.Result
  | .getClass _ _, result | .loadClass _ _, result => Except.map f result
  | .build _, result | .install _, result | .registry, result | .dropHeld _, result
  | .preload _, result | .bindMethods _ _, result | .javaVm, result | .clearCache, result
  | .unload, result => result

/-- The name under which a command changes what callers hold. -/
def Command.slot? : Command → Option String
  | .getClass _ slot | .loadClass _ slot => slot
  | .dropHeld slot => some slot
  | _ => none

/-- The program leaves alone what is held under the given names. -/
def Program.Avoids (names : List String) {α : Type} : Program α → Prop
  | .done _ => True
  | .call c next => (∀ slot ∈ c.slot?, slot ∉ names) ∧ ∀ result, (next result).Avoids names
  | .load _ initializer next =>
    initializer.Avoids names ∧ ∀ reported, (next reported).Avoids names

/-- The program, for a session in which `d` references were made before: it
sees each new one by the number it would have without those. -/
def Program.after (d : Nat) {α : Type} : Program α → Program α
  | .done result => .done result
  | .call c next => .call c fun result => (next (c.mapRefs (GlobalRef.recount d) result)).after d
  | .load machineGiven initializer next =>
    .load machineGiven (initializer.after d) fun reported => (next reported).after d

namespace Session

variable {σ : Type} (m : Machine σ) {old : Session σ} (hn : old.Numbered)

theorem mapRefs_recount (c : Command) (d : Nat) (result : c.Result) :
    c.mapRefs (GlobalRef.recount d) (c.mapRefs (GlobalRef.renumber d) result) = result := by
  cases c with
  | getClass className slot | loadClass className slot =>
    cases result with
    | error e => rfl
    | ok ref => exact congrArg Except.ok (ref.recount_renumber d)
  | _ => rfl

include hn

/-- **A command does what it does at the start**, and new references are
numbered on. -/
theorem perform_past {c : Command} (hc : ∀ slot ∈ c.slot?, slot ∉ old.held.map Prod.fst)
    (p : Session σ) :
    perform m c (p.within old.past)
      = (c.mapRefs (GlobalRef.renumber old.nextSerial) (perform m c p).1,
        (perform m c p).2.within old.past) := by
  cases c with
  | build ms => exact buildRegistry_past old ms p
  | install r => exact install_past old r p
  | registry => rfl
  | getClass className slot => exact getClassFor_past m hn hc className p
  | loadClass className slot => exact loadClassFor_past m hn hc className p
  | dropHeld slot => exact dropHeld_past m hn (hc slot rfl) p
  | preload r => exact getClasses_past m old _ p
  | bindMethods c methods => exact bindMethods_past m old c methods p
  | javaVm => exact askJavaVm_past m old p
  | clearCache => exact congrArg (Prod.mk ()) (clearCache_past m hn p)
  | unload => exact congrArg (Prod.mk ()) (clearCache_past m hn p)

/-- **A program does what it does at the start**: its result is the same, and
what it does follows what was done before. -/
theorem run_past {α : Type} {prog : Program α} (ha : prog.Avoids (old.held.map Prod.fst))
    (p : Session σ) :
    (prog.after old.nextSerial).run m (p.within old.past)
      = ((prog.run m p).1, (prog.run m p).2.within old.past) := by
  induction prog generalizing p with
  | done result => rfl
  | call c next ih =>
    obtain ⟨hc, hnext⟩ := ha
    show (Program.run m (Program.after _ (next _)) _) = _
    -- the past puts on the numbers what `after` takes off them
    rw [perform_past m hn hc, mapRefs_recount]
    exact ih _ (hnext _) _
  | load machineGiven initializer next ihInit ih =>
    obtain ⟨hinit, hnext⟩ := ha
    show (Program.run m (Program.after _ (next _)) _) = _
    -- the initializer is a program, and what holds of it carries over to the load
    rw [loadEntryPoint_past m hn (fun p => ihInit hinit p)]
    exact ih _ (hnext _) _

end Session

/-! ## §9. Initializers from a list of things to do. -/

namespace LoadPlan

theorem getAll_after {d : Nat} {next : Program Ending} (hnext : next.after d = next)
    (names : List String) : (getAll next names).after d = getAll next names := by
  induction names with
  | nil => exact hnext
  | cons className rest ih =>
    refine congrArg (Program.call (.getClass className none)) (funext fun result => ?_)
    -- whichever reference it is, only that there is one is seen
    cases result with
    | ok ref => exact ih
    | error e => rfl

theorem bindAll_after (d : Nat) (r : Registry) (rows : List (ClassConstants × List MethodText)) :
    (bindAll r rows).after d = bindAll r rows := by
  induction rows with
  | nil => rfl
  | cons row rest ih =>
    obtain ⟨c, texts⟩ := row
    unfold bindAll
    cases MethodText.bindings texts with
    | error f => rfl
    | ok methods =>
      refine congrArg (Program.call (.bindMethods c methods)) (funext fun result => ?_)
      cases result with
      | ok => exact ih
      | error e => rfl

/-- **An initializer that follows a plan sees no numbers.** -/
theorem program_after (plan : LoadPlan) (d : Nat) : plan.program.after d = plan.program := by
  refine getAll_after ?_ plan.touch
  cases plan.fail with
  | some e => rfl
  | none =>
    refine congrArg (Program.call (.build plan.classes)) (funext fun result => ?_)
    cases result with
    | ok r => exact bindAll_after d r plan.methods
    | error e => rfl

theorem getAll_avoids {held : List String} {next : Program Ending} (hnext : next.Avoids held)
    (names : List String) : (getAll next names).Avoids held := by
  induction names with
  | nil => exact hnext
  | cons className rest ih =>
    refine ⟨nofun, ?_⟩
    intro result
    cases result with
    | ok ref => exact ih
    | error e => trivial

theorem bindAll_avoids (held : List String) (r : Registry)
    (rows : List (ClassConstants × List MethodText)) : (bindAll r rows).Avoids held := by
  induction rows with
  | nil => trivial
  | cons row rest ih =>
    obtain ⟨c, texts⟩ := row
    unfold bindAll
    cases MethodText.bindings texts with
    | error f => trivial
    | ok methods =>
      refine ⟨nofun, ?_⟩
      intro result
      cases result with
      | ok => exact ih
      | error e => trivial

/-- It leaves alone what callers hold. -/
theorem program_avoids (plan : LoadPlan) (held : List String) : plan.program.Avoids held := by
  refine getAll_avoids ?_ plan.touch
  cases plan.fail with
  | some e => trivial
  | none =>
    refine ⟨nofun, ?_⟩
    intro result
    cases result with
    | ok r => exact bindAll_avoids held r plan.methods
    | error e => trivial

end LoadPlan
end ClassBridge
