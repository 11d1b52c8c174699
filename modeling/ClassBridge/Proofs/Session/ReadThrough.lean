/-
  ClassBridge.Proofs.Session.ReadThrough
  ──────────────────────────────────────
  **The class cache is read through.**

  `cache_reads_through` — in every session that a run comes through, the cache
  is what was loaded for it since it was last cleared, one reference for each
  class; and for every session:

      a cached class        is got without a call, as the cached reference
      another class         is looked up once, and cached if that succeeds
      loading past it       neither reads the cache nor writes to it

  Hence between two clearings each class is loaded for the cache once at most,
  and got as one reference.  Whatever about a load depends on the name of the
  class alone is the same for what is got from the cache.
-/
import ClassBridge.Proofs.Session.Surroundings
import ClassBridge.Proofs.Session.Tables
import ClassBridge.Proofs.Session.Trace
import Mathlib.Data.List.Nodup

namespace ClassBridge.Session

variable {σ : Type} {m : Machine σ} {p q : Session σ} {H : List (Moment σ)}

/-! ## §1. What was loaded for the cache. -/

/-- The moments since the cache was last cleared. -/
def sinceClearing (H : List (Moment σ)) : List (Moment σ) :=
  (H.reverse.takeWhile fun x => !x.act.clears).reverse

/-- The classes that were loaded for the cache, with their references. -/
def fetched (H : List (Moment σ)) : List (String × GlobalRef) :=
  H.filterMap fun x => x.act.fetched?

theorem sinceClearing_concat (H : List (Moment σ)) (x : Moment σ) :
    sinceClearing (H ++ [x]) = if x.act.clears then [] else sinceClearing H ++ [x] := by
  unfold sinceClearing
  rw [List.reverse_append, List.reverse_singleton, List.singleton_append, List.takeWhile_cons]
  cases x.act.clears <;> simp

theorem fetched_append (H H' : List (Moment σ)) :
    fetched (H ++ H') = fetched H ++ fetched H' :=
  List.filterMap_append

theorem fetched_singleton (x : Moment σ) : fetched [x] = x.act.fetched?.toList := by
  show [x].filterMap (fun x => x.act.fetched?) = _
  cases h : x.act.fetched? <;> simp [h]

/-! ## §2. The cache over one step. -/

theorem cached?_eq_none_iff {className : String} :
    p.cached? className = none ↔ className ∉ p.cache.map Prod.fst := by
  unfold cached?
  rw [List.lookup_eq_none_iff, List.mem_map]
  constructor
  · rintro h ⟨e, he, rfl⟩
    exact absurd (h e he) (by simp)
  · intro h e he
    exact bne_iff_ne.2 fun hn => h ⟨e, he, hn.symm⟩

/-- A step that does not clear the cache puts behind it what it has loaded for
it, and that was not cached before. -/
theorem Step.cache_of_keeps {act : Act} (hs : Step m p act q) (ha : act.clears = false) :
    q.cache = p.cache ++ act.fetched?.toList
      ∧ ∀ e ∈ act.fetched?, e.1 ∉ p.cache.map Prod.fst := by
  rcases hs.globals with
    hl | ⟨r, rfl, _, rfl⟩ | ⟨className, ref, loaded, rfl, hc, hl, rfl⟩ | ⟨rfl, _⟩
  · rw [hl.fetched?]
    exact ⟨hl.globals.cache.trans (List.append_nil _).symm, nofun⟩
  · exact ⟨(List.append_nil _).symm, nofun⟩
  · have hload := sameTables_loadClass m className p
    rw [hl] at hload
    refine ⟨congrArg (· ++ [(className, ref)]) hload.cache, ?_⟩
    intro e he
    obtain rfl := Option.some.inj he
    exact cached?_eq_none_iff.1 hc
  · cases ha

theorem Step.cache_of_clears {act : Act} (hs : Step m p act q) (ha : act.clears = true) :
    q.cache = [] := by
  rcases hs.globals with hl | ⟨r, rfl, _, _⟩ | ⟨_, _, _, rfl, _⟩ | ⟨_, rfl⟩
  · rw [hl.clears] at ha
    cases ha
  · cases ha
  · cases ha
  · exact (sameTables_clearCache m p).cache

/-- What is asked of the cache and got is cached then. -/
theorem Step.cached_of_answer {act : Act} {className : String} {ref : GlobalRef}
    (hs : Step m p act q) (ha : act.answer? = some (className, .ok ref)) :
    q.cached? className = some ref := by
  cases hs with
  | hit hc =>
    obtain ⟨rfl, hok⟩ := Prod.mk.inj (Option.some.inj ha)
    obtain rfl := Except.ok.inj hok
    exact hc
  | fetch hc hl =>
    obtain ⟨rfl, hok⟩ := Prod.mk.inj (Option.some.inj ha)
    obtain rfl := Except.ok.inj hok
    exact cached?_of_getClass (getClass_miss hc hl)
  | fail hc hl => cases (Prod.mk.inj (Option.some.inj ha)).2
  | _ => cases ha

/-! ## §3. The cache over a path. -/

/-- The cache of `q` is what was loaded for it since it was last cleared, one
reference for each class. -/
structure Remembers (H : List (Moment σ)) (q : Session σ) : Prop where
  cache : q.cache = fetched (sinceClearing H)
  classNames : (q.cache.map Prod.fst).Nodup

/-- A name that is new stays the only one of its kind. -/
theorem nodup_append_fetched {c : List (String × GlobalRef)} {act : Act}
    (hc : (c.map Prod.fst).Nodup) (hnew : ∀ e ∈ act.fetched?, e.1 ∉ c.map Prod.fst) :
    ((c ++ act.fetched?.toList).map Prod.fst).Nodup := by
  cases he : act.fetched? with
  | none => simpa using hc
  | some e =>
    rw [Option.toList_some, List.map_append, List.map_singleton, ← List.concat_eq_append]
    exact List.Nodup.concat (hnew e he) hc

theorem Path.remembers {s : σ} (hp : Path m (start s) H q) : Remembers H q := by
  refine hp.induct ⟨rfl, List.nodup_nil⟩ ?_
  intro H p act q _ ih hs
  cases ha : act.clears with
  | true =>
    have hq := hs.cache_of_clears ha
    refine ⟨?_, ?_⟩
    · rw [hq, sinceClearing_concat, if_pos ha]
      rfl
    · rw [hq]
      exact List.nodup_nil
  | false =>
    obtain ⟨hq, hnew⟩ := hs.cache_of_keeps ha
    refine ⟨?_, ?_⟩
    · rw [hq, sinceClearing_concat, if_neg (by simp [ha]), fetched_append, fetched_singleton,
        ih.cache]
    · rw [hq]
      exact nodup_append_fetched ih.classNames hnew

/-- Where the cache is not cleared, it only grows by what is loaded for it. -/
theorem Path.cache_of_keeps (hp : Path m p H q) (hH : ∀ x ∈ H, x.act.clears = false) :
    q.cache = p.cache ++ fetched H := by
  induction hp with
  | nil => exact (List.append_nil _).symm
  | @cons p q s act H hs _ ih =>
    obtain ⟨ha, hH⟩ := List.forall_mem_cons.1 hH
    have hcons : fetched (⟨p, act, q⟩ :: H) = act.fetched?.toList ++ fetched H := by
      rw [← fetched_singleton ⟨p, act, q⟩, ← fetched_append, List.singleton_append]
    rw [ih hH, (hs.cache_of_keeps ha).1, hcons, List.append_assoc]

/-- What is cached stays cached as long as the cache is not cleared. -/
theorem Path.cached_of_keeps (hp : Path m p H q) (hH : ∀ x ∈ H, x.act.clears = false)
    {className : String} {ref : GlobalRef} (hc : p.cached? className = some ref) :
    q.cached? className = some ref := by
  show q.cache.lookup className = some ref
  rw [hp.cache_of_keeps hH, List.lookup_append]
  exact congrArg (Option.or · _) hc

/-- Between two clearings, what was got of a class is cached in the end. -/
theorem Path.cached_of_answer (hp : Path m p H q) (hH : ∀ x ∈ H, x.act.clears = false)
    {x : Moment σ} (hx : x ∈ H) {className : String} {ref : GlobalRef}
    (ha : x.act.answer? = some (className, .ok ref)) : q.cached? className = some ref := by
  obtain ⟨H₁, H₂, rfl⟩ := List.append_of_mem hx
  obtain ⟨_, hs, hrest⟩ := hp.split
  have hH₂ : ∀ y ∈ H₂, y.act.clears = false := fun y hy =>
    hH y (List.mem_append_right _ (List.mem_cons_of_mem _ hy))
  exact hrest.cached_of_keeps hH₂ (hs.cached_of_answer ha)

/-! ## §4. Getting a class, and loading it past the cache. -/

/-- The class is got through the cache. -/
structure ReadsThrough (m : Machine σ) (className : String) (p : Session σ) : Prop where
  /-- A class that is cached is got as it is, and nothing is done. -/
  hit : ∀ ref, p.cached? className = some ref → getClass m className p = (.ok ref, p)
  /-- A class that is not cached is loaded, and cached alone. -/
  fetched : ∀ ref q, p.cached? className = none → loadClass m className p = (.ok ref, q) →
    getClass m className p = (.ok ref, q.remember className ref)
      ∧ (q.remember className ref).cache = p.cache ++ [(className, ref)]
  /-- Where it cannot be loaded, that is the answer, and is not remembered. -/
  failed : ∀ e q, p.cached? className = none → loadClass m className p = (.error e, q) →
    getClass m className p = (.error e, q) ∧ q.cache = p.cache
  /-- A class that is not cached is looked up once. -/
  lookups : p.cached? className = none →
    (getClass m className p).2.lookups = p.lookups ++ sought m className p

/-- The class is loaded past the cache. -/
structure ReadsPast (m : Machine σ) (className : String) (p : Session σ) : Prop where
  /-- Whatever is cached, the same is done, and it stays cached. -/
  blind : ∀ c, loadClass m className { p with cache := c }
    = ((loadClass m className p).1, { (loadClass m className p).2 with cache := c })
  cache : (loadClass m className p).2.cache = p.cache
  /-- The class is looked up once. -/
  lookups : (loadClass m className p).2.lookups = p.lookups ++ sought m className p

theorem readsThrough (m : Machine σ) (className : String) (p : Session σ) :
    ReadsThrough m className p where
  hit := fun _ hc => getClass_hit hc
  fetched := by
    intro ref q hc hl
    have hload := sameTables_loadClass m className p
    rw [hl] at hload
    exact ⟨getClass_miss hc hl, congrArg (· ++ [(className, ref)]) hload.cache⟩
  failed := by
    intro e q hc hl
    have hload := sameTables_loadClass m className p
    rw [hl] at hload
    exact ⟨getClass_refused hc hl, hload.cache⟩
  lookups := by
    intro hc
    have hload := (loadEvents_loadClass m className p).lookups
    rcases getClass_cases m className p with ⟨ref, hc', _⟩ | ⟨ref, q, _, hl, hg⟩ | ⟨e, q, _, hl, hg⟩
    · cases hc.symm.trans hc'
    · rw [hl] at hload
      rw [hg]
      exact hload
    · rw [hl] at hload
      rw [hg]
      exact hload

theorem readsPast (m : Machine σ) (className : String) (p : Session σ) :
    ReadsPast m className p where
  blind := loadClass_cache m className p
  cache := (sameTables_loadClass m className p).cache
  lookups := (loadEvents_loadClass m className p).lookups

/-! ## §5. What depends on the name alone. -/

/-- All that is cached looks as a load does that depends on the name alone. -/
theorem Path.cached_view {β : Type} {view : Except Error GlobalRef → β} {answer : String → β}
    (hview : ∀ className (p : Session σ), view (loadClass m className p).1 = answer className)
    {s : σ} (hp : Path m (start s) H q) :
    ∀ className ref, q.cached? className = some ref → view (.ok ref) = answer className := by
  refine hp.induct (motive := fun _ q =>
    ∀ className ref, q.cached? className = some ref → view (.ok ref) = answer className) ?_ ?_
  · intro className ref hc
    cases hc
  · intro H p act q _ ih hs className ref hc
    cases ha : act.clears with
    | true =>
      rw [cached?, hs.cache_of_clears ha] at hc
      cases hc
    | false =>
      rcases hs.globals with hl | ⟨r, rfl, _, rfl⟩ | ⟨n, ref', loaded, rfl, hn, hl, rfl⟩ | ⟨rfl, _⟩
      · rw [cached?, hl.globals.cache] at hc
        exact ih className ref hc
      · exact ih className ref hc
      · have hload := hview n p
        have hsame := sameTables_loadClass m n p
        rw [hl] at hload hsame
        rw [cached?_remember, hsame.cached?] at hc
        -- what was cached before hides the new one
        cases hbefore : p.cached? className with
        | some old =>
          rw [hbefore] at hc
          obtain rfl : old = ref := Option.some.inj hc
          exact ih className old hbefore
        | none =>
          rw [hbefore, Option.none_or] at hc
          split at hc
          · next hname =>
            obtain rfl : ref' = ref := Option.some.inj hc
            rw [hname]
            exact hload
          · cases hc
      · cases ha

/-- So it is all the same whether a class is got or loaded. -/
theorem view_getClass {β : Type} {view : Except Error GlobalRef → β} {answer : String → β}
    (hview : ∀ className (p : Session σ), view (loadClass m className p).1 = answer className)
    {s : σ} (hp : Path m (start s) H q) (className : String) :
    view (getClass m className q).1 = view (loadClass m className q).1 := by
  rcases getClass_cases m className q with
    ⟨ref, hc, hg⟩ | ⟨ref, q', _, hl, hg⟩ | ⟨e, q', _, hl, hg⟩
  · rw [hg, hview]
    exact hp.cached_view hview className ref hc
  · rw [hg, hl]
  · rw [hg, hl]

/-! ## §6. The cache in every run. -/

/-- **In every session that a run comes through the cache is what was loaded
for it since it was last cleared, one reference for each class; between two
clearings no class is loaded for it twice, and each is got as one reference.**
Getting a class reads through the cache and loading one goes past it in every
session; and a view of loads that depends on the name of the class alone cannot
tell a class that is got from one that is loaded. -/
theorem cache_reads_through (m : Machine σ) {α : Type} (prog : Program α) (s : σ) :
    (∀ H q, ComesTo m prog (start s) H q → Remembers H q)
      ∧ (∀ H₁ H H₂, prog.history m (start s) = H₁ ++ (H ++ H₂) →
          (∀ x ∈ H, x.act.clears = false) →
            ((fetched H).map Prod.fst).Nodup
              ∧ ∀ x ∈ H, ∀ y ∈ H, ∀ className ref ref',
                  x.act.answer? = some (className, .ok ref) →
                    y.act.answer? = some (className, .ok ref') → ref = ref')
      ∧ (∀ className (p : Session σ), ReadsThrough m className p ∧ ReadsPast m className p)
      ∧ ∀ {β : Type} (view : Except Error GlobalRef → β) (answer : String → β),
          (∀ className (p : Session σ), view (loadClass m className p).1 = answer className) →
            ∀ H q, ComesTo m prog (start s) H q →
              ∀ className, view (getClass m className q).1 = view (loadClass m className q).1 := by
  refine ⟨?_, ?_, ?_, ?_⟩
  · intro H q hq
    exact hq.path.remembers
  · intro H₁ H H₂ hH hkeeps
    have hp := path_history m prog (start s)
    rw [hH] at hp
    obtain ⟨p, h₁, h⟩ := hp.of_append
    obtain ⟨q, hmid, _⟩ := h.of_append
    refine ⟨?_, ?_⟩
    · -- what is loaded in between stands behind what was cached, without a name twice
      have hnodup := (h₁.append hmid).remembers.classNames
      rw [hmid.cache_of_keeps hkeeps, List.map_append] at hnodup
      exact hnodup.of_append_right
    · intro x hx y hy className ref ref' hax hay
      have hcx := hmid.cached_of_answer hkeeps hx hax
      have hcy := hmid.cached_of_answer hkeeps hy hay
      exact Option.some.inj (hcx.symm.trans hcy)
  · intro className p
    exact ⟨readsThrough m className p, readsPast m className p⟩
  · intro β view answer hview H q hq className
    exact view_getClass hview hq.path className

/-- A class that is always found is found in the cache as well as past it. -/
theorem obliging_reads_through :
    (∀ className (p : Session Nat), (loadClass Machine.obliging className p).1.isOk = true)
      ∧ (getClass Machine.obliging "m/One"
          ((Program.call (.getClass "m/One" none) fun _ => .done ()).run Machine.obliging
            (start 0)).2).1.isOk
        = (loadClass Machine.obliging "m/One"
          ((Program.call (.getClass "m/One" none) fun _ => .done ()).run Machine.obliging
            (start 0)).2).1.isOk := by
  have hview : ∀ className (p : Session Nat),
      (loadClass Machine.obliging className p).1.isOk = true := fun _ _ => rfl
  refine ⟨hview, ?_⟩
  have hreads := cache_reads_through Machine.obliging
    (Program.call (.getClass "m/One" none) fun _ => .done ()) 0
  exact hreads.2.2.2 Except.isOk (fun _ => true) hview _ _ (comesTo_end _ _ _) "m/One"

end ClassBridge.Session
