/-
  ClassBridge.Proofs.Session.Conservation
  ───────────────────────────────────────
  **No reference is lost, and none is deleted twice.**

  A reference lives while somebody has it: the cache, a caller, or an operation
  that has just made it or is about to let go of it.  `Accounted` says so for
  the references made so far, those in hand, and those in a session:

      letGo, clearCache        give up what they have in hand
      hold, dropHeld           take in hand what a caller no longer holds
      loadClass                makes a reference, and has it in hand
      remember, keep           pass on what they have in hand

  Between two steps nothing is in hand (`Step.accounted`), and so what was made
  and is not deleted is what the cache or a caller holds
  (`references_conserved`).
-/
import ClassBridge.Proofs.Session.Tables
import ClassBridge.Proofs.Session.Trace
import Mathlib.Data.List.Nodup

namespace ClassBridge

namespace Session

variable {σ : Type} {m : Machine σ} {p q : Session σ} {made hands : List GlobalRef}

/-! ## §1. Who has a reference. -/

/-- The cache or a caller holds the reference. -/
def Owns (p : Session σ) (ref : GlobalRef) : Prop :=
  ref ∈ p.cache.map Prod.snd ∨ ref ∈ p.held.map Prod.snd

/-- Of the references `made` so far, those that are not deleted are the ones
in `hands` and those that the session owns. -/
structure Accounted (m : Machine σ) (made hands : List GlobalRef) (p : Session σ) : Prop where
  /-- References are numbered in the order in which they were made. -/
  numbered : made.map GlobalRef.serial = List.range p.nextSerial
  /-- A caller holds one reference under a name. -/
  slots : (p.held.map Prod.fst).Nodup
  /-- No reference is cached twice. -/
  cachedOnce : (p.cache.map Prod.snd).Nodup
  inHand : hands.Nodup
  /-- What somebody has is made, and not deleted. -/
  alive : ∀ ref, p.Owns ref ∨ ref ∈ hands → ref ∈ made ∧ ref ∉ p.deletions
  deletedMade : ∀ ref ∈ p.deletions, ref ∈ made
  deletedOnce : p.deletions.Nodup
  /-- What is not deleted somebody has. -/
  kept : m.Attached → ∀ ref ∈ made, ref ∉ p.deletions → p.Owns ref ∨ ref ∈ hands

theorem Accounted.nodup (h : Accounted m made hands p) : made.Nodup := by
  have hrange := List.nodup_range (n := p.nextSerial)
  rw [← h.numbered] at hrange
  exact hrange.of_map _

/-- References that were made are told apart by their numbers. -/
theorem Accounted.ext_serial (h : Accounted m made hands p) {ref ref' : GlobalRef}
    (hr : ref ∈ made) (hr' : ref' ∈ made) (heq : ref.serial = ref'.serial) : ref = ref' := by
  have hrange := List.nodup_range (n := p.nextSerial)
  rw [← h.numbered] at hrange
  exact List.inj_on_of_nodup_map hrange hr hr' heq

theorem Accounted.serial_lt (h : Accounted m made hands p) {ref : GlobalRef} (hr : ref ∈ made) :
    ref.serial < p.nextSerial := by
  have hmem := List.mem_map_of_mem (f := GlobalRef.serial) hr
  rw [h.numbered] at hmem
  exact List.mem_range.1 hmem

theorem holds_of_owns {ref : GlobalRef} (ho : p.Owns ref) : p.holds ref = true := by
  unfold holds
  rw [Bool.or_eq_true, List.any_eq_true, List.any_eq_true]
  rcases ho with hc | hh
  · obtain ⟨e, he, rfl⟩ := List.mem_map.1 hc
    exact .inl ⟨e, he, beq_self_eq_true _⟩
  · obtain ⟨e, he, rfl⟩ := List.mem_map.1 hh
    exact .inr ⟨e, he, beq_self_eq_true _⟩

theorem Accounted.owns_of_holds (h : Accounted m made hands p) {ref : GlobalRef}
    (hr : ref ∈ made) (hh : p.holds ref = true) : p.Owns ref := by
  unfold holds at hh
  rw [Bool.or_eq_true, List.any_eq_true, List.any_eq_true] at hh
  rcases hh with ⟨e, he, hs⟩ | ⟨e, he, hs⟩
  · have ho : p.Owns e.2 := .inl (List.mem_map_of_mem he)
    rw [← h.ext_serial (h.alive e.2 (.inl ho)).1 hr (beq_iff_eq.1 hs)]
    exact ho
  · have ho : p.Owns e.2 := .inr (List.mem_map_of_mem he)
    rw [← h.ext_serial (h.alive e.2 (.inl ho)).1 hr (beq_iff_eq.1 hs)]
    exact ho

theorem SameTables.owns {ref : GlobalRef} (h : SameTables p q) : q.Owns ref ↔ p.Owns ref := by
  unfold Owns
  rw [h.cache, h.held]

theorem mem_cache_of_cached? {className : String} {ref : GlobalRef}
    (hc : p.cached? className = some ref) : ref ∈ p.cache.map Prod.snd := by
  obtain ⟨l₁, l₂, hl, _⟩ := List.lookup_eq_some_iff.1 hc
  rw [hl, List.map_append, List.map_cons]
  exact List.mem_append_right _ List.mem_cons_self

/-! ## §2. Having references in hand. -/

/-- The tables are another way, and the hands with them: what counts is that
together they have the same references. -/
theorem Accounted.regroup {hands' : List GlobalRef} (h : Accounted m made hands p)
    (hd : q.deletions = p.deletions) (hn : q.nextSerial = p.nextSerial)
    (hslots : (q.held.map Prod.fst).Nodup) (hcached : (q.cache.map Prod.snd).Nodup)
    (hhands : hands'.Nodup)
    (hsame : ∀ ref, (q.Owns ref ∨ ref ∈ hands') ↔ (p.Owns ref ∨ ref ∈ hands)) :
    Accounted m made hands' q where
  numbered := by rw [hn]; exact h.numbered
  slots := hslots
  cachedOnce := hcached
  inHand := hhands
  alive := by
    intro ref hr
    rw [hd]
    exact h.alive ref ((hsame ref).1 hr)
  deletedMade := by rw [hd]; exact h.deletedMade
  deletedOnce := by rw [hd]; exact h.deletedOnce
  kept := by
    intro hm ref hr hdel
    rw [hd] at hdel
    exact (hsame ref).2 (h.kept hm ref hr hdel)

/-- Where nothing is deleted or made, and the same is cached and held, nothing
changes. -/
theorem Accounted.of_same (h : Accounted m made hands p) (hd : q.deletions = p.deletions)
    (hn : q.nextSerial = p.nextSerial) (hcache : q.cache = p.cache) (hheld : q.held = p.held) :
    Accounted m made hands q := by
  refine h.regroup hd hn ?_ ?_ h.inHand ?_
  · rw [hheld]
    exact h.slots
  · rw [hcache]
    exact h.cachedOnce
  · intro ref
    unfold Owns
    rw [hcache, hheld]

theorem Accounted.of_quiet (h : Accounted m made hands p) (hq : Quiet p q)
    (hcache : q.cache = p.cache) (hheld : q.held = p.held) : Accounted m made hands q :=
  h.of_same hq.deletions hq.nextSerial hcache hheld

/-- A reference that somebody has may be taken in hand. -/
theorem Accounted.take {ref : GlobalRef} (h : Accounted m made [] p) (ho : p.Owns ref) :
    Accounted m made [ref] p := by
  refine h.regroup rfl rfl h.slots h.cachedOnce (List.nodup_singleton ref) ?_
  intro ref'
  simp only [List.mem_singleton, List.not_mem_nil, or_false]
  constructor
  · rintro (ho' | rfl)
    · exact ho'
    · exact ho
  · exact .inl

/-- A reference in hand that nobody else has is given back. -/
theorem Accounted.release {ref : GlobalRef} (h : Accounted m made (ref :: hands) p)
    (hnot : ref ∉ hands) (hhands : hands.Nodup) (hfree : ¬ p.Owns ref) :
    Accounted m made hands (release m ref p) := by
  have ht := sameTables_release m ref p
  have hr := returned_release m ref p
  obtain ⟨hmade, halive⟩ := h.alive ref (.inr List.mem_cons_self)
  have hdeleted : ∀ x ∈ (Session.release m ref p).deletions, x ∈ p.deletions ∨ x = ref := by
    intro x hx
    rcases hr.deletions with hd | hd <;> rw [hd] at hx
    · exact .inl hx
    · rwa [List.mem_append, List.mem_singleton] at hx
  constructor
  case numbered =>
    rw [hr.nextSerial]
    exact h.numbered
  case slots =>
    rw [ht.held]
    exact h.slots
  case cachedOnce =>
    rw [ht.cache]
    exact h.cachedOnce
  case inHand => exact hhands
  case alive =>
    intro x hx
    rw [ht.owns] at hx
    obtain ⟨hxm, hxd⟩ := h.alive x (hx.imp_right (List.mem_cons_of_mem _))
    refine ⟨hxm, ?_⟩
    intro hxd'
    -- what is deleted now was in one hand only
    rcases hdeleted x hxd' with hd | rfl
    · exact hxd hd
    · exact hx.elim hfree hnot
  case deletedMade =>
    intro x hx
    rcases hdeleted x hx with hd | rfl
    · exact h.deletedMade x hd
    · exact hmade
  case deletedOnce =>
    rcases hr.deletions with hd | hd <;> rw [hd]
    · exact h.deletedOnce
    · rw [← List.concat_eq_append]
      exact List.Nodup.concat halive h.deletedOnce
  case kept =>
    intro hm x hx hxd
    rw [hr.attached hm, List.mem_append, List.mem_singleton, not_or] at hxd
    rw [ht.owns]
    rcases h.kept hm x hx hxd.1 with ho | hh
    · exact .inl ho
    · exact .inr ((List.mem_cons.1 hh).resolve_left hxd.2)

/-- **One reference in hand is let go of**, and deleted if nobody else has it. -/
theorem Accounted.letGo {ref : GlobalRef} (h : Accounted m made (ref :: hands) p) :
    Accounted m made hands (letGo m ref p) := by
  have hmade : ref ∈ made := (h.alive ref (.inr List.mem_cons_self)).1
  obtain ⟨hnot, hhands⟩ := List.nodup_cons.1 h.inHand
  unfold Session.letGo
  split
  · next hholds =>
    have ho := h.owns_of_holds hmade hholds
    refine h.regroup rfl rfl h.slots h.cachedOnce hhands ?_
    intro ref'
    rw [List.mem_cons]
    constructor
    · exact Or.imp_right .inr
    · rintro (ho' | rfl | hr)
      · exact .inl ho'
      · exact .inl ho
      · exact .inr hr
  · next hholds =>
    have hfree : ¬ p.Owns ref := fun ho => hholds (holds_of_owns ho)
    exact h.release hnot hhands hfree

theorem Accounted.foldl_letGo (h : Accounted m made hands p) :
    Accounted m made [] (hands.foldl (fun p ref => Session.letGo m ref p) p) := by
  induction hands generalizing p with
  | nil => exact h
  | cons ref hands ih => exact ih h.letGo

/-! ## §3. What operations do with references. -/

/-- What the cache had is taken in hand, and let go of. -/
theorem Accounted.clearCache (h : Accounted m made [] p) :
    Accounted m made [] (clearCache m p) := by
  unfold Session.clearCache
  dsimp only
  -- in whichever order they are let go of, they are the same references
  have hperm := List.mergeSort_perm (p.cache.map fun e => e.2) fun a b => a.handle ≤ b.handle
  refine Accounted.foldl_letGo ?_
  refine h.regroup (quiet_log p _).deletions rfl h.slots List.nodup_nil
    (hperm.nodup_iff.2 h.cachedOnce) ?_
  intro ref
  rw [hperm.mem_iff]
  simp [Owns, log, or_comm]

/-- A caller holds under a name what the table has for it. -/
theorem held?_eq_some_iff (hslots : (p.held.map Prod.fst).Nodup) {slot : String}
    {ref : GlobalRef} : p.held? slot = some ref ↔ (slot, ref) ∈ p.held := by
  unfold held?
  rw [List.lookup_eq_some_iff]
  constructor
  · rintro ⟨l₁, l₂, hl, _⟩
    rw [hl]
    exact List.mem_append_right _ List.mem_cons_self
  · intro hmem
    obtain ⟨l₁, l₂, hl⟩ := List.append_of_mem hmem
    refine ⟨l₁, l₂, hl, ?_⟩
    intro e he
    rw [hl, List.map_append, List.map_cons] at hslots
    -- the name stands in one place only
    exact bne_iff_ne.2 fun heq =>
      (List.nodup_append.1 hslots).2.2 e.1 (List.mem_map_of_mem he) slot List.mem_cons_self heq.symm

/-- What callers hold under other names, and under this name if at all. -/
theorem mem_held_iff (hslots : (p.held.map Prod.fst).Nodup) (slot : String) (ref : GlobalRef) :
    ref ∈ p.held.map Prod.snd
      ↔ ref ∈ (p.held.filter fun e => e.1 ≠ slot).map Prod.snd
        ∨ ref ∈ (p.held? slot).toList := by
  rw [Option.mem_toList, held?_eq_some_iff hslots, List.mem_map, List.mem_map]
  constructor
  · rintro ⟨e, he, rfl⟩
    by_cases hslot : e.1 = slot
    · rw [← hslot]
      exact .inr he
    · exact .inl ⟨e, List.mem_filter.2 ⟨he, decide_eq_true hslot⟩, rfl⟩
  · rintro (⟨e, he, rfl⟩ | hmem)
    · exact ⟨e, (List.mem_filter.1 he).1, rfl⟩
    · exact ⟨(slot, ref), hmem, rfl⟩

theorem nodup_slots_filter (hslots : (p.held.map Prod.fst).Nodup) (slot : String) :
    ((p.held.filter fun e => e.1 ≠ slot).map Prod.fst).Nodup :=
  hslots.sublist (List.filter_sublist.map Prod.fst)

theorem nodup_held? (p : Session σ) (slot : String) : (p.held? slot).toList.Nodup := by
  cases p.held? slot with
  | none => exact List.nodup_nil
  | some ref => exact List.nodup_singleton ref

/-- A caller who stops holding a reference has it in hand, and lets go of it. -/
theorem Accounted.dropHeld (h : Accounted m made [] p) (slot : String) :
    Accounted m made [] (dropHeld m slot p).2 := by
  have htaken : Accounted m made (p.held? slot).toList
      { p with held := p.held.filter fun e => e.1 ≠ slot } := by
    refine h.regroup rfl rfl (nodup_slots_filter h.slots slot) h.cachedOnce (nodup_held? p slot) ?_
    intro ref
    simp only [Owns, List.not_mem_nil, or_false]
    rw [mem_held_iff h.slots slot ref, or_assoc]
  unfold Session.dropHeld
  cases hh : p.held? slot with
  | none => exact h
  | some ref =>
    rw [hh] at htaken
    exact htaken.letGo

/-- A reference in hand is held, and what was held in its place is in hand
instead, and let go of. -/
theorem Accounted.hold {ref : GlobalRef} (h : Accounted m made [ref] p) (slot : String) :
    Accounted m made [] (hold m slot ref p) := by
  have hslots : (((slot, ref) :: p.held.filter fun e => e.1 ≠ slot).map Prod.fst).Nodup := by
    rw [List.map_cons, List.nodup_cons]
    refine ⟨?_, nodup_slots_filter h.slots slot⟩
    simp
  have hswapped : Accounted m made (p.held? slot).toList
      { p with held := (slot, ref) :: p.held.filter fun e => e.1 ≠ slot } := by
    refine h.regroup rfl rfl hslots h.cachedOnce (nodup_held? p slot) ?_
    intro ref'
    simp only [Owns, List.map_cons, List.mem_cons, List.not_mem_nil, or_false]
    rw [mem_held_iff h.slots slot ref']
    tauto
  unfold Session.hold
  cases hh : p.held? slot with
  | none =>
    rw [hh] at hswapped
    exact hswapped
  | some old =>
    rw [hh] at hswapped
    exact hswapped.letGo

theorem Accounted.keep {ref : GlobalRef} (h : Accounted m made [ref] p) (slot : Option String) :
    Accounted m made [] (keep m slot ref p) := by
  cases slot with
  | none => exact h.letGo
  | some slot => exact h.hold slot

/-- A reference that is about to be made is not among those made so far. -/
theorem Accounted.fresh (h : Accounted m made hands p) {ref : GlobalRef}
    (href : ref.serial = p.nextSerial) : ref ∉ made := by
  intro hr
  exact absurd href (Nat.ne_of_lt (h.serial_lt hr))

/-- A class that is loaded is made, and in hand. -/
theorem Accounted.loaded {className : String} {ref : GlobalRef} (h : Accounted m made [] p)
    (hl : loadClass m className p = (.ok ref, q)) : Accounted m (made ++ [ref]) [ref] q := by
  have ht := sameTables_loadClass m className p
  have hev := loadEvents_loadClass m className p
  rw [hl] at ht hev
  obtain ⟨hserial, hnext⟩ := hev.ok ref rfl
  -- it takes the next number, and so is none of those made before
  have hfresh : ref ∉ made := h.fresh hserial
  constructor
  case numbered =>
    rw [List.map_append, h.numbered, List.map_singleton, hserial, hnext, List.range_succ]
  case slots =>
    rw [ht.held]
    exact h.slots
  case cachedOnce =>
    rw [ht.cache]
    exact h.cachedOnce
  case inHand => exact List.nodup_singleton ref
  case alive =>
    intro x hx
    rw [ht.owns, List.mem_singleton] at hx
    rw [hev.deletions]
    rcases hx with ho | rfl
    · obtain ⟨hm, hd⟩ := h.alive x (.inl ho)
      exact ⟨List.mem_append_left _ hm, hd⟩
    · exact ⟨List.mem_append_right _ (List.mem_singleton_self x),
        fun hd => hfresh (h.deletedMade x hd)⟩
  case deletedMade =>
    intro x hx
    rw [hev.deletions] at hx
    exact List.mem_append_left _ (h.deletedMade x hx)
  case deletedOnce =>
    rw [hev.deletions]
    exact h.deletedOnce
  case kept =>
    intro hm x hx hd
    rw [hev.deletions] at hd
    rw [ht.owns]
    rcases List.mem_append.1 hx with hx | hx
    · exact .inl ((h.kept hm x hx hd).resolve_right List.not_mem_nil)
    · exact .inr hx

/-- Where a class cannot be loaded, no reference is made. -/
theorem Accounted.notLoaded {className : String} {e : Error} (h : Accounted m made [] p)
    (hl : loadClass m className p = (.error e, q)) : Accounted m made [] q := by
  have ht := sameTables_loadClass m className p
  have hev := loadEvents_loadClass m className p
  rw [hl] at ht hev
  exact h.of_same hev.deletions (hev.error e rfl) ht.cache ht.held

/-- A reference in hand that is not cached is cached. -/
theorem Accounted.remember {ref : GlobalRef} (h : Accounted m made [ref] p)
    (hnew : ref ∉ p.cache.map Prod.snd) (className : String) :
    Accounted m made [] (p.remember className ref) := by
  have hcache : (p.remember className ref).cache.map Prod.snd = p.cache.map Prod.snd ++ [ref] :=
    List.map_append
  refine h.regroup rfl rfl h.slots ?_ List.nodup_nil ?_
  · rw [hcache, ← List.concat_eq_append]
    exact List.Nodup.concat hnew h.cachedOnce
  · intro ref'
    unfold Owns
    rw [hcache, List.mem_append]
    show (_ ∨ ref' ∈ p.held.map Prod.snd) ∨ _ ↔ _
    simp only [List.not_mem_nil]
    tauto

/-- A class that is loaded for the cache goes from the hand into it. -/
theorem Accounted.fetched {className : String} {ref : GlobalRef} (h : Accounted m made [] p)
    (hl : loadClass m className p = (.ok ref, q)) :
    Accounted m (made ++ [ref]) [] (q.remember className ref) := by
  have ht := sameTables_loadClass m className p
  have hev := loadEvents_loadClass m className p
  rw [hl] at ht hev
  refine (h.loaded hl).remember ?_ className
  rw [ht.cache]
  intro hc
  exact h.fresh (hev.ok ref rfl).1 (h.alive ref (.inl (.inl hc))).1

/-- What a step makes is accounted for. -/
theorem Accounted.loadClassFor (h : Accounted m made [] p) (slot : Option String)
    (className : String) :
    Accounted m
      (made ++ (Act.past className slot (loadClassFor m slot className p).1).made?.toList) []
      (loadClassFor m slot className p).2 := by
  rcases hl : loadClass m className p with ⟨result, q⟩
  unfold Session.loadClassFor
  rw [hl]
  cases result with
  | error e =>
    show Accounted m (made ++ []) [] q
    rw [List.append_nil]
    exact h.notLoaded hl
  | ok ref => exact (h.loaded hl).keep slot

/-! ## §4. What is quiet. -/

theorem quiet_buildRegistry (p : Session σ) (ms : List Mapping) :
    Quiet p (p.buildRegistry ms).2 :=
  buildRegistry_induct (.refl p) (fun q r h => h.trans (quiet_log q r)) ms

theorem quiet_install (p : Session σ) (r : Registry) : Quiet p (p.install r).2 := by
  unfold install
  split
  · exact .refl p
  · have hlog := quiet_log { p with installed := some r } (.installed r.size)
    exact ⟨hlog.lookups, hlog.deletions, hlog.nextSerial⟩

theorem tables_install (p : Session σ) (r : Registry) :
    (p.install r).2.cache = p.cache ∧ (p.install r).2.held = p.held := by
  unfold install
  split
  · exact ⟨rfl, rfl⟩
  · exact ⟨rfl, rfl⟩

theorem quiet_askJavaVm (m : Machine σ) (p : Session σ) : Quiet p (askJavaVm m p).2 := by
  rw [askJavaVm_snd]
  exact quiet_javaVm m p

/-- Binding methods of a class that is cached makes and deletes nothing. -/
theorem quiet_bindMethods {c : ClassConstants} {ref : GlobalRef}
    (hc : p.cached? c.className.text = some ref) (methods : List MethodBinding) :
    Quiet p (bindMethods m c methods p).2 := by
  rcases bindMethods_snd m hc methods with hq | ⟨code, s, r, hq⟩
  · rw [hq]
    exact .refl p
  · rw [hq]
    exact (quiet_advance rfl rfl p s).trans (quiet_log _ r)

/-! ## §5. All references of a run. -/

/-- A step in which no reference is made, and what is accounted for stays so. -/
theorem Accounted.of_made?_none {act : Act} (h : Accounted m made [] q) (ha : act.made? = none) :
    Accounted m (made ++ act.made?.toList) [] q := by
  rw [ha, Option.toList_none, List.append_nil]
  exact h

/-- **After every step the references are accounted for**, with the one that it
made if it made one. -/
theorem Step.accounted {act : Act} (hs : Step m p act q) (h : Accounted m made [] p) :
    Accounted m (made ++ act.made?.toList) [] q := by
  cases hs with
  | build ms =>
    have ht := sameTables_buildRegistry p ms
    exact (h.of_quiet (quiet_buildRegistry p ms) ht.cache ht.held).of_made?_none rfl
  | install r =>
    obtain ⟨hcache, hheld⟩ := tables_install p r
    exact (h.of_quiet (quiet_install p r) hcache hheld).of_made?_none rfl
  | registry => exact h.of_made?_none rfl
  | hit hc => exact h.of_made?_none rfl
  | fetch hc hl => exact h.fetched hl
  | fail hc hl => exact (h.notLoaded hl).of_made?_none rfl
  | past className slot => exact h.loadClassFor slot className
  | @keep className ref slot hc =>
    -- the class was got, so that its reference is cached and can be taken in hand
    have ho : p.Owns ref := .inl (mem_cache_of_cached? hc)
    exact ((h.take ho).keep slot).of_made?_none rfl
  | dropHeld slot => exact (h.dropHeld slot).of_made?_none rfl
  | bind methods hc =>
    have ht := sameTables_bindMethods m hc methods
    exact (h.of_quiet (quiet_bindMethods hc methods) ht.cache ht.held).of_made?_none rfl
  | javaVm =>
    have ht := sameTables_askJavaVm m p
    exact (h.of_quiet (quiet_askJavaVm m p) ht.cache ht.held).of_made?_none rfl
  | clear => exact h.clearCache.of_made?_none rfl
  | enter machineGiven initializer => exact h.of_made?_none rfl
  | environment =>
    have ht := sameTables_vmEnv m p
    exact (h.of_quiet (quiet_vmEnv m p) ht.cache ht.held).of_made?_none rfl
  | refuse e => exact (h.of_quiet (quiet_log p (.notLoaded e)) rfl rfl).of_made?_none rfl

/-- The references that were made, in order. -/
def madeIn (H : List (Moment σ)) : List GlobalRef :=
  H.filterMap fun x => x.act.made?

theorem madeIn_concat (H : List (Moment σ)) (x : Moment σ) :
    madeIn (H ++ [x]) = madeIn H ++ x.act.made?.toList := by
  unfold madeIn
  rw [List.filterMap_append]
  cases hx : x.act.made? <;> simp [hx]

/-- Before anything is done there is nothing to account for. -/
theorem accounted_start (m : Machine σ) (s : σ) : Accounted m [] [] (start s) where
  numbered := rfl
  slots := List.nodup_nil
  cachedOnce := List.nodup_nil
  inHand := List.nodup_nil
  alive := by
    rintro ref ((hc | hh) | hn)
    · cases hc
    · cases hh
    · cases hn
  deletedMade := List.forall_mem_nil _
  deletedOnce := List.nodup_nil
  kept := fun _ ref hr => absurd hr List.not_mem_nil

theorem Path.accounted {s : σ} {H : List (Moment σ)} (hp : Path m (start s) H q) :
    Accounted m (madeIn H) [] q := by
  refine hp.induct (motive := fun H q => Accounted m (madeIn H) [] q) (accounted_start m s) ?_
  intro H p act q _ ih hs
  rw [madeIn_concat]
  exact hs.accounted ih

/-! ## §6. Letting go of everything. -/

/-- What is held under some names is let go of, one name after the other. -/
def dropAll (m : Machine σ) (slots : List String) (p : Session σ) : Session σ :=
  slots.foldl (fun p slot => (dropHeld m slot p).2) p

theorem held_dropHeld (slot : String) (p : Session σ) :
    (dropHeld m slot p).2.held = p.held.filter fun e => e.1 ≠ slot := by
  unfold dropHeld
  split
  · next hnone =>
    -- nothing is held under the name, so nothing goes
    refine (List.filter_eq_self.2 ?_).symm
    intro e he
    have hne := List.lookup_eq_none_iff.1 hnone e he
    exact decide_eq_true fun heq => bne_iff_ne.1 hne heq.symm
  · exact (sameTables_letGo m _ _).held

theorem mem_held_dropAll {e : String × GlobalRef} (slots : List String) (p : Session σ) :
    e ∈ (dropAll m slots p).held ↔ e ∈ p.held ∧ e.1 ∉ slots := by
  induction slots generalizing p with
  | nil => simp [dropAll]
  | cons slot slots ih =>
    show e ∈ (dropAll m slots (dropHeld m slot p).2).held ↔ _
    rw [ih, held_dropHeld, List.mem_filter, List.mem_cons, not_or, decide_eq_true_iff, and_assoc]

theorem cache_dropAll (slots : List String) (p : Session σ) :
    (dropAll m slots p).cache = p.cache := by
  induction slots generalizing p with
  | nil => rfl
  | cons slot slots ih => exact (ih _).trans (sameGlobals_dropHeld m slot p).cache

theorem Accounted.dropAll (h : Accounted m made [] p) (slots : List String) :
    Accounted m made [] (dropAll m slots p) := by
  induction slots generalizing p with
  | nil => exact h
  | cons slot slots ih => exact ih (h.dropHeld slot)

/-- With nothing cached and nothing held, every reference was deleted once. -/
theorem Accounted.allDeleted (h : Accounted m made [] p) (hm : m.Attached) (hc : p.cache = [])
    (hh : p.held = []) : p.deletions.Perm made := by
  refine (List.perm_ext_iff_of_nodup h.deletedOnce h.nodup).2 ?_
  intro ref
  refine ⟨h.deletedMade ref, ?_⟩
  intro hr
  by_contra hd
  rcases h.kept hm ref hr hd with ho | hn
  · unfold Owns at ho
    rw [hc, hh] at ho
    rcases ho with ho | ho <;> cases ho
  · cases hn

/-! ## §7. Conservation. -/

/-- The references `made` so far, those that were deleted, and those that the
session owns. -/
structure Conserved (m : Machine σ) (made : List GlobalRef) (q : Session σ) : Prop where
  /-- Each reference counts once, and all that were counted are there. -/
  numbered : made.map GlobalRef.serial = List.range q.nextSerial
  deletedMade : ∀ ref ∈ q.deletions, ref ∈ made
  deletedOnce : q.deletions.Nodup
  /-- Nothing is deleted that is cached or held. -/
  alive : ∀ ref, q.Owns ref → ref ∈ made ∧ ref ∉ q.deletions
  /-- What is made and not deleted is what is cached or held. -/
  conserved : m.Attached → ∀ ref, (ref ∈ made ∧ ref ∉ q.deletions) ↔ q.Owns ref
  /-- With nothing cached and nothing held, all that was made is deleted. -/
  allDeleted : m.Attached → q.cache = [] → q.held = [] → q.deletions.Perm made

theorem Accounted.conserved (h : Accounted m made [] q) : Conserved m made q where
  numbered := h.numbered
  deletedMade := h.deletedMade
  deletedOnce := h.deletedOnce
  alive := fun ref ho => h.alive ref (.inl ho)
  conserved := by
    intro hm ref
    refine ⟨?_, fun ho => h.alive ref (.inl ho)⟩
    rintro ⟨hr, hd⟩
    exact (h.kept hm ref hr hd).resolve_right List.not_mem_nil
  allDeleted := h.allDeleted

/-- A reference that is cached or held is not given back. -/
theorem letGo_of_owns {ref : GlobalRef} (ho : p.Owns ref) : letGo m ref p = p := by
  rw [letGo, if_pos (holds_of_owns ho)]

/-- **In every session that a run comes through, the references that were made
and are not deleted are those that are cached or held by a caller**, if the
thread is attached; whether it is or not, none is deleted twice, and none while
it is cached or held.  When the cache is cleared and callers let go of all that
they hold, in either order, every reference has been deleted once. -/
theorem references_conserved (m : Machine σ) {α : Type} (prog : Program α) (s : σ) :
    (∀ H q, ComesTo m prog (start s) H q → Conserved m (madeIn H) q)
      ∧ (∀ ref (p : Session σ), p.Owns ref → letGo m ref p = p)
      ∧ (m.Attached → ∀ H q, ComesTo m prog (start s) H q →
          ∀ slots, (∀ e ∈ q.held, e.1 ∈ slots) →
            (dropAll m slots (clearCache m q)).deletions.Perm (madeIn H)
              ∧ (clearCache m (dropAll m slots q)).deletions.Perm (madeIn H)) := by
  refine ⟨?_, fun _ _ => letGo_of_owns, ?_⟩
  · intro H q hq
    exact hq.path.accounted.conserved
  · intro hm H q hq slots hslots
    have h := hq.path.accounted
    have hclear := sameTables_clearCache m q
    have hclear' := sameTables_clearCache m (dropAll m slots q)
    refine ⟨(h.clearCache.dropAll slots).allDeleted hm ?_ ?_,
      (h.dropAll slots).clearCache.allDeleted hm hclear'.cache ?_⟩
    · rw [cache_dropAll]
      exact hclear.cache
    · refine List.eq_nil_iff_forall_not_mem.2 fun e he => ?_
      rw [mem_held_dropAll, hclear.held] at he
      exact he.2 (hslots e he.1)
    · rw [hclear'.held]
      refine List.eq_nil_iff_forall_not_mem.2 fun e he => ?_
      have hmem := (mem_held_dropAll slots q).1 he
      exact hmem.2 (hslots e hmem.1)

end Session

/-- A class is got and kept, another one is loaded and let go of, and the cache
is cleared. -/
def keptAndLoaded : Program Unit :=
  .call (.getClass "m/One" (some "one")) fun _ =>
    .call (.loadClass "m/Two" none) fun _ => .call .clearCache fun _ => .done ()

namespace Session

/-- Of two references one is held and the other deleted, and in the end both
are deleted. -/
theorem keptAndLoaded_conserved :
    Machine.obliging.Attached
      ∧ madeIn (keptAndLoaded.history Machine.obliging (start 0)) = [⟨0, 1⟩, ⟨1, 2⟩]
      ∧ (keptAndLoaded.run Machine.obliging (start 0)).2.Owns ⟨0, 1⟩
      ∧ [⟨0, 1⟩, ⟨1, 2⟩].Perm
        (dropAll Machine.obliging ["one"]
          (clearCache Machine.obliging
            (keptAndLoaded.run Machine.obliging (start 0)).2)).deletions := by
  have hm := Machine.obliging_attached
  have hend := comesTo_end Machine.obliging keptAndLoaded (start 0)
  have hmade : madeIn (keptAndLoaded.history Machine.obliging (start 0)) = [⟨0, 1⟩, ⟨1, 2⟩] := by
    decide +kernel
  obtain ⟨hconserved, -, hclosing⟩ := references_conserved Machine.obliging keptAndLoaded 0
  refine ⟨hm, hmade, ?_, ?_⟩
  · refine ((hconserved _ _ hend).conserved hm ⟨0, 1⟩).1 ⟨?_, ?_⟩
    · rw [hmade]
      exact List.mem_cons_self
    · decide +kernel
  · have hall := (hclosing hm _ _ hend ["one"] (by decide +kernel)).1
    rw [hmade] at hall
    exact hall.symm

end Session
end ClassBridge
