/-
  ClassBridge.Proofs.Session.Attempts
  ───────────────────────────────────
  **A preload loads each class that is not cached, once and in order.**

  The mappings of a registry that was built have distinct class names.  So no
  class that a preload caches is one that it asks for later, and the classes to
  load are known from the start: those whose names are not cached then.

      uncached p names        the names that are to be loaded
      Fetches m p fetched q   loads from `p` to `q`, which do not read the cache
      Preloads m es p         the two ends of a preload: all these classes are
                              loaded, or the loads stop at the first failure

  What the loads do to the cache, and which calls they come to, is the same at
  both ends (`Filled`), whatever the machine answers.
-/
import ClassBridge.Machine.Scripted
import ClassBridge.Proofs.Registry.Building
import ClassBridge.Proofs.Session.Calls
import ClassBridge.Proofs.Session.ReadThrough

namespace ClassBridge.Session

open Registry (classNames)

variable {σ : Type} {m : Machine σ} {p q s : Session σ}

/-! ## §1. Loading past the cache. -/

/-- The names that are not cached, in order. -/
def uncached (p : Session σ) (names : List String) : List String :=
  names.filter fun n => (p.cached? n).isNone

theorem uncached_cons_hit {className : String} {ref : GlobalRef}
    (hc : p.cached? className = some ref) (rest : List String) :
    p.uncached (className :: rest) = p.uncached rest := by
  simp [uncached, hc]

theorem uncached_cons_miss {className : String} (hc : p.cached? className = none)
    (rest : List String) : p.uncached (className :: rest) = className :: p.uncached rest := by
  simp [uncached, hc]

/-- A class that is loaded and cached is none of the others. -/
theorem uncached_remember {className : String} {ref : GlobalRef} {names : List String}
    (hl : loadClass m className p = (.ok ref, q)) (hn : className ∉ names) :
    (q.remember className ref).uncached names = p.uncached names := by
  have hsame := sameTables_of_loadClass hl
  apply List.filter_congr
  intro n hmem
  have hne : n ≠ className := by
    rintro rfl
    exact hn hmem
  rw [cached?_remember, if_neg hne, Option.or_none, hsame.cached?]

/-- The classes are loaded one after another, from `p` to `q`, and each is
cached behind the others.  The cache is not read. -/
inductive Fetches (m : Machine σ) : Session σ → List (String × GlobalRef) → Session σ → Prop where
  | nil (p : Session σ) : Fetches m p [] p
  | cons {className : String} {ref : GlobalRef} {rest : List (String × GlobalRef)}
      {p loaded q : Session σ} (hl : loadClass m className p = (.ok ref, loaded))
      (hr : Fetches m (loaded.remember className ref) rest q) :
      Fetches m p ((className, ref) :: rest) q

section

variable {fetched : List (String × GlobalRef)}

theorem Fetches.cache (h : Fetches m p fetched q) : q.cache = p.cache ++ fetched := by
  induction h with
  | nil p => exact (List.append_nil _).symm
  | @cons className ref rest p loaded q hl _ ih =>
    rw [ih]
    show (loaded.cache ++ [(className, ref)]) ++ rest = _
    rw [(sameTables_of_loadClass hl).cache, List.append_assoc]
    rfl

theorem Fetches.extends (h : Fetches m p fetched q) : Extends p q := by
  induction h with
  | nil p => exact .refl p
  | cons hl _ ih => exact ((extends_of_loadClass hl).trans (extends_remember _ _ _)).trans ih

theorem Fetches.called (h : Fetches m p fetched q) :
    Called (fetched.map fun x => (x.1, .ok x.2)) p q := by
  induction h with
  | nil p => exact .refl p
  | cons hl _ ih => exact (called_of_loadClass hl).trans ih

/-- The answer of the cache is another one for the classes that were fetched,
and for no others. -/
theorem Fetches.cached?_of_notMem (h : Fetches m p fetched q) {className : String}
    (hn : className ∉ fetched.map Prod.fst) : q.cached? className = p.cached? className := by
  unfold cached?
  rw [h.cache, List.lookup_append]
  have hnone : fetched.lookup className = none := by
    apply List.lookup_eq_none_iff.2
    intro x hx
    apply bne_iff_ne.2
    rintro rfl
    exact hn (List.mem_map_of_mem hx)
  rw [hnone, Option.or_none]

theorem mem_uncached {names : List String} {className : String} :
    className ∈ p.uncached names ↔ className ∈ names ∧ p.cached? className = none := by
  rw [uncached, List.mem_filter, Option.isNone_iff_eq_none]

/-! ## §2. Getting classes with distinct names. -/

/-- If the names are distinct, getting the classes is loading those that are
not cached at the start. -/
theorem getClasses_of_fetches {names : List String} (hd : names.Nodup)
    (hf : fetched.map Prod.fst = p.uncached names) (h : Fetches m p fetched q) :
    getClasses m names p = (.ok (), q) := by
  induction names generalizing p fetched with
  | nil =>
    obtain rfl := List.map_eq_nil_iff.1 hf
    cases h
    rfl
  | cons className rest ih =>
    obtain ⟨hn, hrest⟩ := List.nodup_cons.1 hd
    cases hc : p.cached? className with
    | some ref =>
      rw [uncached_cons_hit hc] at hf
      rw [getClasses_cons_ok (getClass_hit hc)]
      exact ih hrest hf h
    | none =>
      -- the class is the next to be fetched, so something was
      rw [uncached_cons_miss hc] at hf
      cases h with
      | nil => cases hf
      | cons hl hr =>
        obtain ⟨rfl, hnames⟩ := List.cons.inj hf
        rw [getClasses_cons_ok (getClass_miss hc hl)]
        exact ih hrest (hnames.trans (uncached_remember hl hn).symm) hr

theorem getClasses_append {before : List String} (h : getClasses m before p = (.ok (), s))
    (rest : List String) : getClasses m (before ++ rest) p = getClasses m rest s := by
  induction (getClasses_eq_ok_iff before).1 h with
  | nil p => rfl
  | hit hc hr ih =>
    rw [List.cons_append, getClasses_cons_ok (getClass_hit hc)]
    exact ih ((getClasses_eq_ok_iff _).2 hr)
  | miss hc hl hr ih =>
    rw [List.cons_append, getClasses_cons_ok (getClass_miss hc hl)]
    exact ih ((getClasses_eq_ok_iff _).2 hr)

end

/-! ## §3. The two ends of a preload. -/

/-- How the classes of the mappings are got from `p` on: those that are not
cached are loaded in order, all of them or up to the first that fails. -/
inductive Preloads (m : Machine σ) (es : List Mapping) (p : Session σ) :
    Except Error Unit → Session σ → Prop where
  | completed {fetched : List (String × GlobalRef)} {q : Session σ}
      (hf : fetched.map Prod.fst = p.uncached (classNames es)) (hl : Fetches m p fetched q) :
      Preloads m es p (.ok ()) q
  | stopped {before after : List Mapping} {e : Mapping} {fetched : List (String × GlobalRef)}
      {s q : Session σ} {err : Error} (hes : es = before ++ e :: after)
      (hf : fetched.map Prod.fst = p.uncached (classNames before)) (hl : Fetches m p fetched s)
      (hc : p.cached? e.className.text = none)
      (hs : loadClass m e.className.text s = (.error err, q)) :
      Preloads m es p (.error err) q

/-- A class that is cached is passed over. -/
theorem Preloads.hit {e : Mapping} {es : List Mapping} {ref : GlobalRef}
    {result : Except Error Unit} (hc : p.cached? e.className.text = some ref)
    (h : Preloads m es p result q) : Preloads m (e :: es) p result q := by
  have hpass : ∀ before : List Mapping,
      p.uncached (classNames (e :: before)) = p.uncached (classNames before) :=
    fun before => uncached_cons_hit hc (classNames before)
  cases h with
  | completed hf hl => exact .completed (hf.trans (hpass es).symm) hl
  | @stopped before after e' fetched s q err hes hf hl hc' hs =>
    subst hes
    have hes' : e :: (before ++ e' :: after) = (e :: before) ++ e' :: after := rfl
    exact .stopped hes' (hf.trans (hpass before).symm) hl hc' hs

/-- A class that is not cached is loaded first. -/
theorem Preloads.miss {e : Mapping} {es : List Mapping} {ref : GlobalRef} {loaded : Session σ}
    {result : Except Error Unit} (hn : e.className.text ∉ classNames es)
    (hc : p.cached? e.className.text = none)
    (hl : loadClass m e.className.text p = (.ok ref, loaded))
    (h : Preloads m es (loaded.remember e.className.text ref) result q) :
    Preloads m (e :: es) p result q := by
  -- the names that are left to load are those that were left from the start
  have hfirst : ∀ before : List Mapping, e.className.text ∉ classNames before →
      p.uncached (classNames (e :: before)) = e.className.text ::
        (loaded.remember e.className.text ref).uncached (classNames before) := by
    intro before hbefore
    rw [uncached_remember hl hbefore]
    exact uncached_cons_miss hc (classNames before)
  cases h with
  | completed hf hr =>
    refine .completed ?_ (.cons hl hr)
    rw [hfirst es hn, List.map_cons, hf]
  | @stopped before after e' fetched s q err hes hf hr hc' hs =>
    subst hes
    have hbefore : e.className.text ∉ classNames before := by
      intro hmem
      apply hn
      rw [classNames, List.map_append]
      exact List.mem_append_left _ hmem
    have hes' : e :: (before ++ e' :: after) = (e :: before) ++ e' :: after := rfl
    refine .stopped hes' ?_ (.cons hl hr) ?_ hs
    · rw [hfirst before hbefore, List.map_cons, hf]
    · -- what is not cached after the load was not cached before it
      have hgrown := (extends_of_loadClass hl).trans (extends_remember loaded e.className.text ref)
      cases hp : p.cached? e'.className.text with
      | none => rfl
      | some ref' => cases (hgrown.cached _ _ hp).symm.trans hc'

/-- Getting the classes ends in one of the two ways. -/
theorem preloads_getClasses (m : Machine σ) {es : List Mapping} (hd : (classNames es).Nodup)
    (p : Session σ) :
    Preloads m es p (getClasses m (classNames es) p).1 (getClasses m (classNames es) p).2 := by
  induction es generalizing p with
  | nil => exact .completed rfl (.nil p)
  | cons e es ih =>
    obtain ⟨hn, hrest⟩ := List.nodup_cons.1 hd
    show Preloads m (e :: es) p (getClasses m (e.className.text :: classNames es) p).1
      (getClasses m (e.className.text :: classNames es) p).2
    rcases getClass_cases m e.className.text p with
      ⟨ref, hc, hg⟩ | ⟨ref, loaded, hc, hl, hg⟩ | ⟨err, q, hc, hl, hg⟩
    · rw [getClasses_cons_ok hg]
      exact (ih hrest p).hit hc
    · rw [getClasses_cons_ok hg]
      exact (ih hrest _).miss hn hc hl
    · -- nothing of the rest is looked at
      rw [getClasses_cons_error hg]
      have hes : e :: es = [] ++ e :: es := rfl
      exact .stopped hes rfl (.nil p) hc hl

/-- What is cached for the mappings before one that is left does not answer
for it. -/
theorem cached?_of_before {before after : List Mapping} {e : Mapping}
    (hd : (classNames (before ++ e :: after)).Nodup) {fetched : List (String × GlobalRef)}
    (hf : fetched.map Prod.fst = p.uncached (classNames before)) (hl : Fetches m p fetched s) :
    s.cached? e.className.text = p.cached? e.className.text := by
  apply hl.cached?_of_notMem
  rw [hf, mem_uncached]
  rw [classNames, List.map_append, List.map_cons] at hd
  rintro ⟨hmem, -⟩
  exact (List.nodup_append.1 hd).2.2 _ hmem _ List.mem_cons_self rfl

/-- Each of the two ways is how the classes are got. -/
theorem Preloads.getClasses_eq {es : List Mapping} (hd : (classNames es).Nodup)
    {result : Except Error Unit} (h : Preloads m es p result q) :
    getClasses m (classNames es) p = (result, q) := by
  cases h with
  | completed hf hl => exact getClasses_of_fetches hd hf hl
  | @stopped before after e fetched s q err hes hf hl hc hs =>
    subst hes
    -- the classes before it are got, which leaves it uncached
    have hc' := (cached?_of_before hd hf hl).trans hc
    rw [classNames, List.map_append, List.map_cons] at hd ⊢
    rw [getClasses_append (getClasses_of_fetches (List.nodup_append.1 hd).1 hf hl),
      getClasses_cons_error (getClass_refused hc' hs)]

/-! ## §4. What the loads do. -/

/-- From `p` to `s` the classes `fetched` were loaded, which are those of the
mappings `before` that `p` has not cached. -/
structure Filled (p : Session σ) (before : List Mapping) (fetched : List (String × GlobalRef))
    (s : Session σ) : Prop where
  /-- The new references are cached behind the old ones. -/
  cache : s.cache = p.cache ++ fetched
  /-- Cached is what was cached, and the classes of these mappings. -/
  isSome_cached? : ∀ n, (s.cached? n).isSome = true
    ↔ (p.cached? n).isSome = true ∨ n ∈ classNames before
  /-- The registry stays, and so do the old references. -/
  grown : Extends p s
  /-- There was one load for each class, and no other call. -/
  called : Called (fetched.map fun x => (x.1, .ok x.2)) p s

theorem Fetches.filled {before : List Mapping} {fetched : List (String × GlobalRef)}
    (hf : fetched.map Prod.fst = p.uncached (classNames before)) (hl : Fetches m p fetched s) :
    Filled p before fetched s where
  cache := hl.cache
  isSome_cached? := by
    intro n
    have hnone : s.cached? n = none ↔ p.cached? n = none ∧ n ∉ p.uncached (classNames before) := by
      rw [cached?_eq_none_iff, cached?_eq_none_iff, ← hf, hl.cache, List.map_append,
        List.mem_append, not_or]
    rw [mem_uncached] at hnone
    rw [Option.isSome_iff_ne_none, Option.isSome_iff_ne_none, ne_eq, ne_eq, hnone]
    by_cases hp : p.cached? n = none
    · simp [hp]
    · simp [hp]
  grown := hl.extends
  called := hl.called

/-- **A preload of a registry that was built loads the classes of its mappings
that are not cached, each once and in order, and stops at the first load that
fails.**  There is no other call.  The cache ends up with the classes that were
loaded behind what it had, and what it gets on the way answers for none of the
classes that follow. -/
theorem preload_attempts (m : Machine σ) {es : List Mapping} {r : Registry}
    (hr : Registry.build es = .ok r) (p : Session σ) :
    (p.uncached (classNames es)).Nodup
      ∧ (∀ result q, preload m r p = (result, q) ↔ Preloads m es p result q)
      ∧ (∀ before fetched s, fetched.map Prod.fst = p.uncached (classNames before) →
          Fetches m p fetched s → Filled p before fetched s
            ∧ ∀ className err q, loadClass m className s = (.error err, q) → SameTables s q
              ∧ Called (fetched.map (fun x => (x.1, .ok x.2)) ++ [(className, .error err)]) p q)
      ∧ ∀ before e after s, es = before ++ e :: after →
          getClasses m (classNames before) p = (.ok (), s) →
            s.cached? e.className.text = p.cached? e.className.text := by
  obtain ⟨hindexed, rfl⟩ := Registry.indexed_of_build hr
  have hd : (classNames r.mappings).Nodup := hindexed.distinct.classNames
  refine ⟨hd.filter _, ?_, ?_, ?_⟩
  · intro result q
    constructor
    · intro h
      have hends := preloads_getClasses m hd p
      rwa [show getClasses m (classNames r.mappings) p = (result, q) from h] at hends
    · intro h
      exact h.getClasses_eq hd
  · intro before fetched s hf hl
    refine ⟨hl.filled hf, ?_⟩
    intro className err q hs
    exact ⟨sameTables_of_loadClass hs, hl.called.trans (called_of_loadClass hs)⟩
  · intro before e after s hes hg
    rw [hes] at hd
    have hbefore : (classNames before).Nodup := by
      rw [classNames, List.map_append] at hd
      exact (List.nodup_append.1 hd).1
    -- the classes before it were got, so all that had to be were fetched
    have hends := preloads_getClasses m hbefore p
    rw [hg] at hends
    cases hends with
    | completed hf hl => exact cached?_of_before hd hf hl

/-- Three types with a class each. -/
def signalMappings : List Mapping :=
  [⟨⟨⟨"r"⟩, "lamp::Red"⟩, ⟨.data, "m.Red", ZString.constant "m/Red", ZString.constant "Lm/Red;"⟩⟩,
    ⟨⟨⟨"a"⟩, "lamp::Amber"⟩,
      ⟨.data, "m.Amber", ZString.constant "m/Amber", ZString.constant "Lm/Amber;"⟩⟩,
    ⟨⟨⟨"g"⟩, "lamp::Green"⟩,
      ⟨.data, "m.Green", ZString.constant "m/Green", ZString.constant "Lm/Green;"⟩⟩]

/-- The class of the first is cached, and the lookup of that of the third will
throw. -/
def redCached : Session Script :=
  (getClass Script.machine "m/Red"
    (start { classes := [(Utf8.encodeModified "m/Green", .thrown)] })).2

/-- The second class is loaded, and then the preload stops. -/
theorem redCached_stops :
    ∃ r, Registry.build signalMappings = .ok r
      ∧ redCached.uncached (classNames signalMappings) = ["m/Amber", "m/Green"]
      ∧ Preloads Script.machine signalMappings redCached (.error (.call .exceptionThrown))
          (preload Script.machine r redCached).2
      ∧ (preload Script.machine r redCached).2.cache.map Prod.fst = ["m/Red", "m/Amber"] := by
  have hbuild : ∃ r, Registry.build signalMappings = .ok r ∧ r.mappings = signalMappings :=
    ⟨_, rfl, rfl⟩
  obtain ⟨r, hr, hmappings⟩ := hbuild
  obtain ⟨-, hends, -⟩ := preload_attempts Script.machine hr redCached
  -- the preload asks for nothing but the mappings
  have hpreload : preload Script.machine r redCached
      = getClasses Script.machine (classNames signalMappings) redCached := by
    rw [← hmappings]
    rfl
  rw [hpreload] at hends
  refine ⟨r, hr, rfl, ?_, ?_⟩
  · rw [hpreload]
    exact (hends _ _).1 rfl
  · rw [hpreload]
    rfl

end ClassBridge.Session
