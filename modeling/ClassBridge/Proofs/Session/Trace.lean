/-
  ClassBridge.Proofs.Session.Trace
  ────────────────────────────────
  **What the trace says about lookups and deletions.**

  Of all that a session does, two kinds of events matter to the class cache:
  the lookups of a class, and the deletions of a reference.

      lookups_loadClass       loading a class looks it up once
      newReference_cases      a reference that is made takes the next number
      Returned ref p q        a reference is given back, in a deletion at most

  All other calls are `Quiet`: they neither look up, nor delete, nor make a
  reference.
-/
import ClassBridge.Proofs.Session.Frame

namespace ClassBridge

/-- The encoded name of the class that is looked up. -/
def Event.lookup? : Event → Option (List UInt8)
  | .findClass name _ => some name
  | _ => none

/-- The reference that is deleted. -/
def Event.deletion? : Event → Option GlobalRef
  | .deleteGlobalRef ref => some ref
  | _ => none

namespace Session

variable {σ : Type}

/-! ## §1. Lookups and deletions so far. -/

/-- The encoded names of the classes that were looked up, in order. -/
def lookups (p : Session σ) : List (List UInt8) :=
  p.trace.filterMap Event.lookup?

/-- The references that were deleted, in order. -/
def deletions (p : Session σ) : List GlobalRef :=
  p.trace.filterMap Event.deletion?

theorem lookups_advance (p : Session σ) (s : σ) (e : Event) :
    (p.advance s e).lookups = p.lookups ++ e.lookup?.toList := by
  show (p.trace ++ [e]).filterMap Event.lookup? = _
  rw [List.filterMap_append]
  cases h : e.lookup? <;> simp [lookups, h]

theorem deletions_advance (p : Session σ) (s : σ) (e : Event) :
    (p.advance s e).deletions = p.deletions ++ e.deletion?.toList := by
  show (p.trace ++ [e]).filterMap Event.deletion? = _
  rw [List.filterMap_append]
  cases h : e.deletion? <;> simp [deletions, h]

/-- From `p` to `q` no class was looked up, and no reference deleted or made. -/
structure Quiet (p q : Session σ) : Prop where
  lookups : q.lookups = p.lookups
  deletions : q.deletions = p.deletions
  nextSerial : q.nextSerial = p.nextSerial

theorem Quiet.refl (p : Session σ) : Quiet p p := ⟨rfl, rfl, rfl⟩

theorem Quiet.trans {p q s : Session σ} (h : Quiet p q) (h' : Quiet q s) : Quiet p s :=
  ⟨h'.lookups.trans h.lookups, h'.deletions.trans h.deletions,
    h'.nextSerial.trans h.nextSerial⟩

theorem quiet_advance {e : Event} (hl : e.lookup? = none) (hd : e.deletion? = none)
    (p : Session σ) (s : σ) : Quiet p (p.advance s e) := by
  refine ⟨?_, ?_, rfl⟩
  · rw [lookups_advance, hl, Option.toList_none, List.append_nil]
  · rw [deletions_advance, hd, Option.toList_none, List.append_nil]

theorem quiet_log (p : Session σ) (r : LogRecord) : Quiet p (p.log r) :=
  quiet_advance rfl rfl p p.machine

variable (m : Machine σ)

theorem quiet_javaVm (p : Session σ) : Quiet p (javaVm m p).2 := by
  unfold javaVm
  split
  · exact .refl p
  · exact quiet_advance rfl rfl p _

theorem quiet_vmEnv (p : Session σ) : Quiet p (vmEnv m p).2 := by
  unfold vmEnv
  split
  · exact .refl p
  · exact quiet_advance rfl rfl p _

/-! ## §2. Loading a class. -/

/-- A reference that is made takes the next number; where none is made, none
is counted. -/
theorem newReference_cases (source : Handle) (p : Session σ) :
    (∃ e q, newReference m source p = (.error e, q) ∧ Quiet p q)
    ∨ ∃ h q, newReference m source p
          = (.ok ⟨p.nextSerial, h⟩, { q with nextSerial := p.nextSerial + 1 }) ∧ Quiet p q := by
  unfold newReference
  rcases m.newGlobalRef source p.machine with _ | ⟨h, s⟩
  · exact .inl ⟨_, p, rfl, .refl p⟩
  · dsimp only
    have hvm : Quiet p (javaVm m (p.advance s (.newGlobalRef source h))).2 :=
      (quiet_advance rfl rfl p s).trans (quiet_javaVm m _)
    rcases hj : javaVm m (p.advance s (.newGlobalRef source h)) with ⟨result, q⟩
    rw [hj] at hvm
    cases result with
    | error e => exact .inl ⟨e, q, rfl, hvm⟩
    | ok => exact .inr ⟨h, q, by rw [← hvm.nextSerial], hvm⟩

/-- The names that are looked up for a class: its own, if the table has the
entry for it. -/
def sought (className : String) (p : Session σ) : List (List UInt8) :=
  if (m.findClass (Utf8.encodeModified className) p.machine).isSome then
    [Utf8.encodeModified className]
  else []

/-- Finding a class looks it up, and does nothing else of note. -/
theorem findClass_events (className : String) (p : Session σ) :
    (findClass m className p).2.lookups = p.lookups ++ sought m className p
      ∧ (findClass m className p).2.deletions = p.deletions
      ∧ (findClass m className p).2.nextSerial = p.nextSerial := by
  unfold findClass sought
  rcases m.findClass (Utf8.encodeModified className) p.machine with _ | ⟨h, s⟩
  · exact ⟨(List.append_nil _).symm, rfl, rfl⟩
  · dsimp only
    have hfound := lookups_advance p s (.findClass (Utf8.encodeModified className) h)
    have hdeleted : (p.advance s (.findClass (Utf8.encodeModified className) h)).deletions
        = p.deletions := by
      rw [deletions_advance]
      exact List.append_nil _
    rcases m.exceptionCheck
        (p.advance s (.findClass (Utf8.encodeModified className) h)).machine with _ | ⟨pending, s'⟩
    · exact ⟨hfound, hdeleted, rfl⟩
    · have hchecked := quiet_advance (e := .exceptionCheck pending) rfl rfl
        (p.advance s (.findClass (Utf8.encodeModified className) h)) s'
      have hall := And.intro (hchecked.lookups.trans hfound)
        (And.intro (hchecked.deletions.trans hdeleted) hchecked.nextSerial)
      dsimp only
      split
      · exact hall
      · split
        · exact hall
        · exact hall

/-- All that loading a class does of note. -/
structure LoadEvents (className : String) (p q : Session σ)
    (result : Except Error GlobalRef) : Prop where
  lookups : q.lookups = p.lookups ++ sought m className p
  deletions : q.deletions = p.deletions
  ok : ∀ ref, result = .ok ref → ref.serial = p.nextSerial ∧ q.nextSerial = p.nextSerial + 1
  error : ∀ e, result = .error e → q.nextSerial = p.nextSerial

/-- **Loading a class looks it up once, deletes nothing, and makes a reference
exactly if it succeeds.** -/
theorem loadEvents_loadClass (className : String) (p : Session σ) :
    LoadEvents m className p (loadClass m className p).2 (loadClass m className p).1 := by
  obtain ⟨hl, hd, hn⟩ := findClass_events m className p
  unfold loadClass
  rcases hf : findClass m className p with ⟨result, q⟩
  rw [hf] at hl hd hn
  cases result with
  | error e =>
    have hlog := quiet_log q (.notFound className)
    exact ⟨hlog.lookups.trans hl, hlog.deletions.trans hd, nofun,
      fun _ _ => hlog.nextSerial.trans hn⟩
  | ok h =>
    have hlog := quiet_log q (.loaded className)
    dsimp only
    rcases newReference_cases m h (q.log (.loaded className)) with
      ⟨e, q', hnew, hq⟩ | ⟨h', q', hnew, hq⟩
    · rw [hnew]
      have hall := hlog.trans hq
      exact ⟨hall.lookups.trans hl, hall.deletions.trans hd, nofun,
        fun _ _ => hall.nextSerial.trans hn⟩
    · rw [hnew]
      have hall := hlog.trans hq
      have hnext : (q.log (.loaded className)).nextSerial = p.nextSerial := hn
      refine ⟨hall.lookups.trans hl, hall.deletions.trans hd, ?_, nofun⟩
      intro ref href
      obtain rfl := Except.ok.inj href
      exact ⟨hnext, congrArg (· + 1) hnext⟩

/-! ## §3. Giving a reference back. -/

end Session

/-- The thread is attached whenever its environment is asked for, and the table
has the entry for deletions. -/
structure Machine.Attached {σ : Type} (m : Machine σ) : Prop where
  environment : ∀ s, ∃ a s', m.getEnvironment environmentVersion s = some (a, s')
    ∧ a.check = .ok ()
  deletes : ∀ handle s, (m.deleteGlobalRef handle s).isSome = true

/-- A machine that does whatever it is asked for, and numbers the references
that it makes. -/
def Machine.obliging : Machine Nat where
  findClass := fun _ n => some (1, n)
  exceptionCheck := fun n => some (false, n)
  newGlobalRef := fun _ n => some (n + 1, n + 1)
  deleteGlobalRef := fun _ n => some n
  registerNatives := fun _ _ _ n => some (0, n)
  getJavaVm := fun n => some (⟨0, false⟩, n)
  getEnvironment := fun _ n => some (⟨0, false⟩, n)
  attachCurrentThread := fun n => some (0, n)
  detachCurrentThread := some

theorem Machine.obliging_attached : Machine.obliging.Attached where
  environment := fun n => ⟨⟨0, false⟩, n, rfl, rfl⟩
  deletes := fun _ _ => rfl

namespace Session

variable {σ : Type} (m : Machine σ)

theorem vmEnv_of_attached {m : Machine σ} (hm : m.Attached) (p : Session σ) :
    (vmEnv m p).1 = .ok () := by
  obtain ⟨a, s', henv, ha⟩ := hm.environment p.machine
  rw [vmEnv, henv]
  exact ha

/-- From `p` to `q` a reference is given back: it is deleted once at most, and
if the thread is attached it is deleted. -/
structure Returned (ref : GlobalRef) (p q : Session σ) : Prop where
  nextSerial : q.nextSerial = p.nextSerial
  deletions : q.deletions = p.deletions ∨ q.deletions = p.deletions ++ [ref]
  attached : m.Attached → q.deletions = p.deletions ++ [ref]

theorem Quiet.returned {m : Machine σ} {ref : GlobalRef} {p q s t : Session σ} (h : Quiet p q)
    (hr : Returned m ref q s) (h' : Quiet s t) : Returned m ref p t where
  nextSerial := (h'.nextSerial.trans hr.nextSerial).trans h.nextSerial
  deletions := by
    rw [h'.deletions, ← h.deletions]
    exact hr.deletions
  attached := by
    rw [h'.deletions, ← h.deletions]
    exact hr.attached

theorem returned_delete (ref : GlobalRef) (p : Session σ) : Returned m ref p (delete m ref p) := by
  unfold delete
  split
  · next hd =>
    refine ⟨rfl, .inl rfl, ?_⟩
    intro hm
    -- a table with the entry does delete
    have hsome := hm.deletes ref.handle p.machine
    rw [hd] at hsome
    cases hsome
  · next s _ =>
    have hdel := deletions_advance p s (.deleteGlobalRef ref)
    exact ⟨rfl, .inr hdel, fun _ => hdel⟩

/-- Whether the thread can be attached or not, at most one deletion comes of it. -/
theorem returned_deleteAttached (hm : ¬ m.Attached) (ref : GlobalRef) (p : Session σ) :
    Returned m ref p (deleteAttached m ref p) := by
  unfold deleteAttached
  split
  · exact ⟨rfl, .inl rfl, fun h => absurd h hm⟩
  · next code s _ =>
    have hattach := quiet_advance (e := .attachCurrentThread code) rfl rfl p s
    dsimp only
    split
    · exact hattach.returned (returned_delete m ref _) (.refl _)
    · exact ⟨hattach.nextSerial, .inl hattach.deletions, fun h => absurd h hm⟩

theorem quiet_detach (p : Session σ) : Quiet p (detach m p) := by
  unfold detach
  split
  · exact .refl p
  · exact quiet_advance rfl rfl p _

/-- **A reference that is given back is deleted once at most, and once if the
thread is attached.** -/
theorem returned_release (ref : GlobalRef) (p : Session σ) :
    Returned m ref p (release m ref p) := by
  have henv := quiet_vmEnv m p
  have hattached : m.Attached → (vmEnv m p).1 = .ok () := fun hm => vmEnv_of_attached hm p
  unfold release
  rcases he : vmEnv m p with ⟨result, q⟩
  rw [he] at henv hattached
  cases result with
  | ok => exact henv.returned (returned_delete m ref q) (.refl _)
  | error e =>
    have hm : ¬ m.Attached := by
      intro hm
      cases hattached hm
    have henv' := henv.trans (quiet_vmEnv m q)
    dsimp only
    rcases he' : vmEnv m q with ⟨result, q'⟩
    rw [he'] at henv'
    cases result with
    | ok => exact henv'.returned (returned_delete m ref q') (.refl _)
    | error e =>
      exact henv'.returned (returned_deleteAttached m hm ref q') (quiet_detach m _)

end Session
end ClassBridge
