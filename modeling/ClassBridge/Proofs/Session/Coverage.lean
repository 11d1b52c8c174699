/-
  ClassBridge.Proofs.Session.Coverage
  ───────────────────────────────────
  **The classes of a loaded library stay at hand.**

  A load that succeeds has cached every class of its registry, and only a
  clearing takes a class out of the cache again.  `preload_covers` — in every
  run, from each successful load on:

      up to the next clearing    every class of the registry is got as the
                                 reference that the load has cached, without a
                                 call into the machine (`Serves`)
      after a clearing           a class is looked up when it is asked for

  The loads of a run are found in its history: where one begins, its moments
  follow (`WellNested`), and what follows these has happened since
  (`LoadedSince`).  What a clearing is says `cleared_history`.
-/
import ClassBridge.Proofs.Session.Clearing
import ClassBridge.Proofs.Session.Conservation
import ClassBridge.Proofs.Session.Installing
import ClassBridge.Proofs.Session.ReadThrough

namespace ClassBridge

open Registry (classNames)

namespace Session

variable {σ : Type} {m : Machine σ} {p q : Session σ} {H H' : List (Moment σ)}

/-! ## §1. Loads in a history. -/

/-- What follows where a load begins are the moments of that load. -/
def WellNested (m : Machine σ) (H : List (Moment σ)) : Prop :=
  ∀ H₁ x H₂ machineGiven initializer reported, H = H₁ ++ x :: H₂ →
    x.act = .enter machineGiven initializer reported →
      momentsOfLoad m machineGiven (fun p => initializer.run m p)
        (fun p => initializer.history m p) x.before <+: H₂

/-- Where no load begins, there is nothing to follow. -/
theorem wellNested_of_plain (hH : ∀ x ∈ H, x.act.enters = false) : WellNested m H := by
  intro H₁ x H₂ machineGiven initializer reported hsplit ha
  have hx : x.act.enters = false := hH x (by simp [hsplit])
  rw [ha] at hx
  cases hx

theorem wellNested_nil : WellNested m ([] : List (Moment σ)) := by
  refine wellNested_of_plain ?_
  intro x hx
  cases hx

theorem WellNested.append (h : WellNested m H) (h' : WellNested m H') :
    WellNested m (H ++ H') := by
  intro H₁ x H₂ machineGiven initializer reported hsplit ha
  rcases List.append_eq_append_iff.1 hsplit with ⟨K, rfl, hK⟩ | ⟨K, rfl, hK⟩
  · exact h' K x H₂ _ _ _ hK ha
  · cases K with
    | nil => exact h' [] x H₂ _ _ _ hK.symm ha
    | cons y K =>
      -- the load begins in the first part, and so do its moments
      obtain ⟨rfl, rfl⟩ := List.cons.inj hK
      exact (h H₁ x K _ _ _ rfl ha).trans (List.prefix_append K H')

theorem WellNested.enter {machineGiven : Bool} {initializer : Program Ending}
    {reported : Except TextFault Code}
    (hmoments : momentsOfLoad m machineGiven (fun p => initializer.run m p)
      (fun p => initializer.history m p) p <+: H) (h : WellNested m H) :
    WellNested m (⟨p, .enter machineGiven initializer reported, p⟩ :: H) := by
  intro H₁ x H₂ machineGiven' initializer' reported' hsplit ha
  cases H₁ with
  | nil =>
    obtain ⟨rfl, rfl⟩ := List.cons.inj hsplit
    obtain ⟨rfl, rfl, -⟩ := Act.enter.inj ha
    exact hmoments
  | cons y H₁ => exact h H₁ x H₂ _ _ _ (List.cons.inj hsplit).2 ha

theorem enters_momentsOf {c : Command} {x : Moment σ} (hx : x ∈ momentsOf m c p) :
    x.act.enters = false := by
  cases c with
  | getClass className slot => exact (plain_of_mem_use (fun _ _ => ⟨rfl, rfl⟩) hx).inside
  | bindMethods c methods => exact (plain_of_mem_use (fun _ _ => ⟨rfl, rfl⟩) hx).inside
  | preload r => exact (plain_of_mem_gets hx).inside
  | _ =>
    obtain rfl := List.mem_singleton.1 hx
    rfl

theorem enters_momentsOfUndoing {e : Error} {x : Moment σ} (hx : x ∈ momentsOfUndoing m e p) :
    x.act.enters = false := by
  rcases List.mem_cons.1 hx with rfl | hx
  · rfl
  · obtain rfl := List.mem_singleton.1 hx
    rfl

theorem enters_momentsAfter {ending : Ending} {x : Moment σ} (hx : x ∈ momentsAfter m ending p) :
    x.act.enters = false := by
  cases ending with
  | aborted f => cases hx
  | failed e =>
    obtain rfl := List.mem_singleton.1 hx
    rfl
  | ready r =>
    rw [momentsAfter, momentsOfInstalling] at hx
    rcases List.mem_append.1 hx with hx | hx
    · exact (plain_of_mem_gets hx).inside
    · rcases hp : preload m r p with ⟨result, q⟩
      rw [hp] at hx
      cases result with
      | error e => exact enters_momentsOfUndoing hx
      | ok =>
        rcases List.mem_cons.1 hx with rfl | hx
        · rfl
        · rcases hi : q.install r with ⟨result, q'⟩
          rw [hi] at hx
          cases result with
          | error e => exact enters_momentsOfUndoing hx
          | ok => cases hx

theorem wellNested_momentsOfLoad {machineGiven : Bool}
    {initializer : Session σ → Ending × Session σ} {history : Session σ → List (Moment σ)}
    (hinit : ∀ p, WellNested m (history p)) (p : Session σ) :
    WellNested m (momentsOfLoad m machineGiven initializer history p) := by
  cases machineGiven with
  | false => exact wellNested_nil
  | true =>
    rw [momentsOfLoad, if_pos rfl, ← List.singleton_append]
    refine WellNested.append (wellNested_of_plain (by simp [Act.enters])) ?_
    rcases vmEnv m p with ⟨result, p'⟩
    cases result with
    | error e => exact wellNested_of_plain (by simp [momentOfRefusal, Act.enters])
    | ok => exact (hinit p').append (wellNested_of_plain fun _ => enters_momentsAfter)

/-- **In the history of a program every load is followed by its moments**, those
of initializers included. -/
theorem wellNested_history (m : Machine σ) {α : Type} (prog : Program α) (p : Session σ) :
    WellNested m (prog.history m p) := by
  induction prog generalizing p with
  | done result => exact wellNested_nil
  | call c next ih => exact (wellNested_of_plain fun _ => enters_momentsOf).append (ih _ _)
  | load machineGiven initializer next ihInit ih =>
    exact .enter (List.prefix_append _ _) ((wellNested_momentsOfLoad ihInit p).append (ih _ _))

/-! ## §2. Requests for a class. -/

/-- A request for a class that is cached is answered from the cache. -/
theorem Step.hit_of_cached {act : Act} {className : String} {ref : GlobalRef}
    {result : Except Error GlobalRef} (hs : Step m p act q) (hc : p.cached? className = some ref)
    (ha : act.answer? = some (className, result)) : act = .hit className ref ∧ q = p := by
  cases hs with
  | hit hc' =>
    obtain ⟨rfl, -⟩ := Prod.mk.inj (Option.some.inj ha)
    obtain rfl := Option.some.inj (hc.symm.trans hc')
    exact ⟨rfl, rfl⟩
  | fetch hc' _ =>
    obtain ⟨rfl, -⟩ := Prod.mk.inj (Option.some.inj ha)
    cases hc.symm.trans hc'
  | fail hc' _ =>
    obtain ⟨rfl, -⟩ := Prod.mk.inj (Option.some.inj ha)
    cases hc.symm.trans hc'
  | _ => cases ha

/-- A request for a class that is not cached looks the class up. -/
theorem Step.miss_of_uncached {act : Act} {className : String}
    {result : Except Error GlobalRef} (hs : Step m p act q) (hc : p.cached? className = none)
    (ha : act.answer? = some (className, result)) :
    act = .miss className result ∧ q.lookups = p.lookups ++ sought m className p := by
  have hload := (loadEvents_loadClass m className p).lookups
  cases hs with
  | hit hc' =>
    obtain ⟨rfl, -⟩ := Prod.mk.inj (Option.some.inj ha)
    cases hc.symm.trans hc'
  | fetch _ hl =>
    obtain ⟨rfl, rfl⟩ := Prod.mk.inj (Option.some.inj ha)
    rw [hl] at hload
    exact ⟨rfl, hload⟩
  | fail _ hl =>
    obtain ⟨rfl, rfl⟩ := Prod.mk.inj (Option.some.inj ha)
    rw [hl] at hload
    exact ⟨rfl, hload⟩
  | _ => cases ha

/-- A class that is not cached stays so until it is got. -/
theorem Step.uncached_of_unanswered {act : Act} {className : String} (hs : Step m p act q)
    (hc : p.cached? className = none) (hno : ∀ ref, act.answer? ≠ some (className, .ok ref)) :
    q.cached? className = none := by
  rcases hs.globals with hl | ⟨r, rfl, _, rfl⟩ | ⟨n, ref, loaded, rfl, _, hl, rfl⟩ | ⟨_, rfl⟩
  · rw [cached?, hl.globals.cache]
    exact hc
  · exact hc
  · have hsame := sameTables_loadClass m n p
    rw [hl] at hsame
    rw [cached?_remember, hsame.cached?, hc]
    by_cases hn : className = n
    · subst hn
      exact absurd rfl (hno ref)
    · rw [if_neg hn]
      rfl
  · rw [cached?, (sameTables_clearCache m p).cache]
    rfl

theorem Path.uncached_of_unanswered {className : String} (hp : Path m p H q)
    (hc : p.cached? className = none)
    (hno : ∀ z ∈ H, ∀ ref, z.act.answer? ≠ some (className, .ok ref)) :
    q.cached? className = none := by
  induction hp with
  | nil => exact hc
  | cons hs _ ih =>
    obtain ⟨ha, hno⟩ := List.forall_mem_cons.1 hno
    exact ih (hs.uncached_of_unanswered hc ha) hno

/-! ## §3. Where a library is loaded. -/

/-- A load that reports the version ends with its registry installed and all
classes of that registry cached. -/
theorem loaded_of_version {machineGiven : Bool} {initializer : Session σ → Ending × Session σ}
    (hv : (loadEntryPoint m machineGiven initializer p).1 = .ok loadedVersion) :
    ∃ r, (loadEntryPoint m machineGiven initializer p).2.registry = .ok r
      ∧ ∀ e ∈ r.mappings,
        ((loadEntryPoint m machineGiven initializer p).2.cached?
          e.className.text).isSome = true := by
  cases machineGiven with
  | false => exact absurd (Except.ok.inj hv).symm loadedVersion_ne_loadError
  | true =>
    obtain ⟨r, left, q, h⟩ := load_eq_version_iff.1 hv
    show ∃ r, (load m initializer p).2.registry = .ok r ∧ _
    rw [show (loadEntryPoint m true initializer p).2 = q.commit r from congrArg _ (load_of_loads h),
      load_of_loads h]
    exact ⟨r, h.loaded.registry, h.loaded.cached⟩

/-- Where a load begins, nothing has been done yet. -/
theorem Step.enter_same {machineGiven : Bool} {initializer : Program Ending}
    {reported : Except TextFault Code}
    (hs : Step m p (.enter machineGiven initializer reported) q) : q = p := by
  cases hs
  rfl

/-- A path leads to one session. -/
theorem Path.unique {s : Session σ} (hp : Path m p H q) (hp' : Path m p H s) : q = s := by
  induction hp with
  | nil =>
    cases hp'
    rfl
  | cons _ _ ih =>
    cases hp' with
    | cons _ hp' => exact ih hp'

/-- The run of a program has come through a load that reported the version: it
ended in the session `loaded` with the registry `r`, and with `K` after that
the run is in `q`. -/
inductive LoadedSince (m : Machine σ) {α : Type} (prog : Program α) (s : Session σ) (r : Registry)
    (loaded : Session σ) (K : List (Moment σ)) (q : Session σ) : Prop where
  | intro {H : List (Moment σ)} {p : Session σ} {machineGiven : Bool}
      {initializer : Program Ending}
      (hload : loadEntryPoint m machineGiven (fun p => initializer.run m p) p
        = (.ok loadedVersion, loaded))
      (hr : loaded.registry = .ok r)
      (hq : ComesTo m prog s
        (H ++ ⟨p, .enter machineGiven initializer (.ok loadedVersion), p⟩ ::
          (momentsOfLoad m machineGiven (fun p => initializer.run m p)
            (fun p => initializer.history m p) p ++ K)) q)

section

variable {α : Type} {prog : Program α} {s : Session σ} {r : Registry} {loaded : Session σ}
  {K : List (Moment σ)}

theorem LoadedSince.path (h : LoadedSince m prog s r loaded K q) : Path m loaded K q := by
  obtain @⟨_, p, machineGiven, initializer, hload, _, hq⟩ := h
  obtain ⟨t, hmoments, hK⟩ := hq.path.split.2.2.of_append
  -- the moments of the load lead where the load ends
  have hend : Path m p (momentsOfLoad m machineGiven (fun p => initializer.run m p)
        (fun p => initializer.history m p) p)
      (loadEntryPoint m machineGiven (fun p => initializer.run m p) p).2 :=
    path_momentsOfLoad (fun p => path_history m initializer p) p
  rw [hload] at hend
  obtain rfl := hmoments.unique hend
  exact hK

theorem LoadedSince.cached (h : LoadedSince m prog s r loaded K q) :
    ∀ e ∈ r.mappings, ∃ ref, loaded.cached? e.className.text = some ref := by
  obtain ⟨hload, hr, _⟩ := h
  obtain ⟨r', hr', hcached⟩ := loaded_of_version (congrArg Prod.fst hload)
  rw [hload] at hr' hcached
  obtain rfl : r' = r := Except.ok.inj (hr'.symm.trans hr)
  intro e he
  exact Option.isSome_iff_exists.1 (hcached e he)

theorem LoadedSince.installed (h : LoadedSince m prog s r loaded K q) :
    loaded.registry = .ok r := by
  obtain ⟨_, hr, _⟩ := h
  exact hr

end

/-- Each load of a run that reports the version is one that the run has come
through, at every place after its moments. -/
theorem loadedSince_of_enter {α : Type} {prog : Program α} {s : Session σ} {x : Moment σ}
    {machineGiven : Bool} {initializer : Program Ending}
    (hH : prog.history m s = H ++ x :: H')
    (ha : x.act = .enter machineGiven initializer (.ok loadedVersion)) :
    ∃ r loaded H'',
      H' = momentsOfLoad m machineGiven (fun p => initializer.run m p)
          (fun p => initializer.history m p) x.before ++ H''
        ∧ ∀ K K', H'' = K ++ K' → ∃ q, LoadedSince m prog s r loaded K q := by
  have hp := path_history m prog s
  rw [hH] at hp
  have hs := hp.split.2.1
  obtain ⟨p, act, p'⟩ := x
  obtain rfl : act = .enter machineGiven initializer (.ok loadedVersion) := ha
  obtain rfl : p' = p := hs.enter_same
  have hreported := hs.enter_reported
  obtain ⟨r, hr, _⟩ := loaded_of_version hreported.symm
  obtain ⟨H'', rfl⟩ := wellNested_history m prog s H _ H' machineGiven initializer _ hH rfl
  refine ⟨r, (loadEntryPoint m machineGiven (fun p => initializer.run m p) p').2, H'', rfl, ?_⟩
  rintro K K' rfl
  -- the history up to the place in question ends with `K`
  rw [← List.append_assoc, ← List.cons_append, ← List.append_assoc] at hH
  obtain ⟨q, hq⟩ := exists_comesTo hH
  exact ⟨q, .intro (Prod.ext hreported.symm rfl) hr hq⟩

/-! ## §4. Coverage. -/

/-- The class is there for whoever asks: it is got as the reference `ref`, and
the machine is not asked for it. -/
structure Serves (m : Machine σ) (className : String) (ref : GlobalRef) (q : Session σ) :
    Prop where
  cached : q.cached? className = some ref
  /-- Getting the class does nothing. -/
  got : getClass m className q = (.ok ref, q)
  /-- A caller who gets the class is left with keeping it. -/
  gotFor : ∀ slot, getClassFor m slot className q = (.ok ref, keep m slot ref q)
  /-- Whatever happens next, a request for the class is answered from the cache. -/
  hit : ∀ act s result, Step m q act s → act.answer? = some (className, result) →
    act = .hit className ref ∧ s = q
  /-- Methods are bound to the reference, in one call if any. -/
  bound : ∀ (c : ClassConstants) (methods : List MethodBinding), c.className.text = className →
    (bindMethods m c methods q).2 = q
      ∨ ∃ code s r, (bindMethods m c methods q).2
          = (q.advance s (.registerNatives ref.handle (methods.map MethodBinding.toRow)
              (Int32.ofNat methods.length) code)).log r
  /-- Where methods are not bound, it is not for the class. -/
  resolved : ∀ (c : ClassConstants) (methods : List MethodBinding) (e : CallError),
    c.className.text = className → (bindMethods m c methods q).1 ≠ .error (.call e)
  /-- No class is looked up to bind methods. -/
  lookups : ∀ (c : ClassConstants) (methods : List MethodBinding), c.className.text = className →
    (bindMethods m c methods q).2.lookups = q.lookups

/-- Binding methods of a class that is cached fails only for the methods. -/
theorem bindMethods_ne_call {c : ClassConstants} {ref : GlobalRef}
    (hc : q.cached? c.className.text = some ref) (methods : List MethodBinding) (e : CallError) :
    (bindMethods m c methods q).1 ≠ .error (.call e) := by
  rw [bindMethods, getClass_hit hc]
  intro hcall
  dsimp only at hcall
  split at hcall
  · cases hcall
  · split at hcall
    · cases hcall
    · cases hcall

theorem serves_of_cached {className : String} {ref : GlobalRef}
    (hc : q.cached? className = some ref) : Serves m className ref q where
  cached := hc
  got := getClass_hit hc
  gotFor := by
    intro slot
    rw [getClassFor, getClass_hit hc]
  hit := fun _ _ _ hs ha => hs.hit_of_cached hc ha
  bound := by
    rintro c methods rfl
    exact bindMethods_snd m hc methods
  resolved := by
    rintro c methods e rfl
    exact bindMethods_ne_call hc methods e
  lookups := by
    rintro c methods rfl
    exact (quiet_bindMethods hc methods).lookups

/-- The registry `r` is installed, and each of its classes is served with the
reference that it had in the session `loaded`. -/
structure Covers (m : Machine σ) (r : Registry) (loaded q : Session σ) : Prop where
  registry : q.registry = .ok r
  serves : ∀ e ∈ r.mappings, ∃ ref, loaded.cached? e.className.text = some ref
    ∧ Serves m e.className.text ref q

theorem LoadedSince.covers {α : Type} {prog : Program α} {s : Session σ} {r : Registry}
    {loaded : Session σ} {K : List (Moment σ)} (h : LoadedSince m prog s r loaded K q)
    (hK : ¬ Cleared K) : Covers m r loaded q where
  registry := by
    have hr := registry_eq_ok_iff.1 h.installed
    exact registry_eq_ok_iff.2 (h.path.installed_some hr).2
  serves := by
    intro e he
    obtain ⟨ref, hc⟩ := h.cached e he
    -- what is cached stays cached where nothing is cleared
    exact ⟨ref, hc, serves_of_cached (h.path.cached_of_keeps (not_cleared_iff.1 hK) hc)⟩

/-- **In every run, from each successful load up to the next clearing, every
class of the loaded registry is served with the reference that the load has
cached; after a clearing the class is looked up once more when it is asked
for.**  The cache is cleared by clearing it, by unloading, and by loads that
fail after their initializer, and by nothing else. -/
theorem preload_covers (m : Machine σ) {α : Type} (prog : Program α) (s : σ) :
    (∀ {β : Type} (prog' : Program β) (p : Session σ),
        Cleared (prog'.history m p) ↔ prog'.Clears m p)
      ∧ (∀ H x H' machineGiven initializer, prog.history m (start s) = H ++ x :: H' →
          x.act = .enter machineGiven initializer (.ok loadedVersion) →
            ∃ r loaded H'',
              H' = momentsOfLoad m machineGiven (fun p => initializer.run m p)
                  (fun p => initializer.history m p) x.before ++ H''
                ∧ ∀ K K', H'' = K ++ K' → ∃ q, LoadedSince m prog (start s) r loaded K q)
      ∧ (∀ r loaded K q, LoadedSince m prog (start s) r loaded K q → ¬ Cleared K →
          Covers m r loaded q)
      ∧ ∀ H x H₁ y H₂ className result,
          prog.history m (start s) = H ++ x :: (H₁ ++ y :: H₂) → x.act.clears = true →
            (∀ z ∈ H₁, ∀ ref, z.act.answer? ≠ some (className, .ok ref)) →
              y.act.answer? = some (className, result) →
                y.act = .miss className result
                  ∧ y.after.lookups = y.before.lookups ++ sought m className y.before := by
  refine ⟨cleared_history m, ?_, ?_, ?_⟩
  · intro H x H' machineGiven initializer hH ha
    exact loadedSince_of_enter hH ha
  · intro r loaded K q h hK
    exact h.covers hK
  · intro H x H₁ y H₂ className result hH hclears hno ha
    have hp := path_history m prog (start s)
    rw [hH] at hp
    obtain ⟨_, hs, hrest⟩ := hp.split
    obtain ⟨hbetween, hask, _⟩ := hrest.split
    have hempty : x.after.cached? className = none := by
      rw [cached?, hs.cache_of_clears hclears]
      rfl
    exact hask.miss_of_uncached (hbetween.uncached_of_unanswered hempty hno) ha

/-- A class is loaded past the cache, and the class of `oneClass` is got. -/
def otherThenOne : Program Unit :=
  .call (.loadClass "m/Other" none) fun _ => .call (.getClass "m/One" none) fun _ => .done ()

/-- A library with one class is loaded before that. -/
def oneLoaded : Program Unit :=
  .load true (.done (.ready oneClass)) fun _ => otherThenOne

/-- Its class is still served in the end. -/
theorem oneLoaded_covered :
    ∃ loaded K,
      LoadedSince Machine.obliging oneLoaded (start 0) oneClass loaded K
          (oneLoaded.run Machine.obliging (start 0)).2
        ∧ ¬ Cleared K
        ∧ Covers Machine.obliging oneClass loaded (oneLoaded.run Machine.obliging (start 0)).2 := by
  let loaded := (load Machine.obliging (fun p => (.ready oneClass, p)) (start 0)).2
  let K := otherThenOne.history Machine.obliging loaded
  have hload : LoadedSince Machine.obliging oneLoaded (start 0) oneClass loaded K
      (oneLoaded.run Machine.obliging (start 0)).2 :=
    .intro (H := []) rfl rfl (comesTo_end Machine.obliging oneLoaded (start 0))
  have hK : ¬ Cleared K := by
    rw [cleared_history]
    simp [otherThenOne, Program.Clears]
  obtain ⟨-, -, hcovers, -⟩ := preload_covers Machine.obliging oneLoaded 0
  exact ⟨loaded, K, hload, hK, hcovers oneClass loaded K _ hload hK⟩

end Session
end ClassBridge
