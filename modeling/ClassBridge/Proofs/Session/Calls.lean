/-
  ClassBridge.Proofs.Session.Calls
  ────────────────────────────────
  **The calls that loading a class comes to.**

  Loading a class makes at most four calls, always in this order, and ends
  where a call cannot be made or does not answer as it takes:

      FindClass        the name of the class
      ExceptionCheck   no exception is pending, and the class is not null
      NewGlobalRef     the class that was found
      GetJavaVM        the code is 0, and the pointer is not null

  `LoadCalls` lists the calls of one load for each of its ends, and
  `Called attempts p q` says that from `p` to `q` there were the calls of the
  given loads, one load after another, and no others.
-/
import ClassBridge.Proofs.Session.Trace
import Mathlib.Data.List.Forall2

namespace ClassBridge

/-! ## §1. Calls and records. -/

/-- Whether an event is a call; all others are records of the log. -/
def Event.isCall : Event → Bool
  | .log _ => false
  | _ => true

namespace Session

variable {σ : Type}

/-- The calls that were made, in order. -/
def calls (p : Session σ) : List Event := p.trace.filter Event.isCall

theorem calls_advance {e : Event} (he : e.isCall = true) (p : Session σ) (s : σ) :
    (p.advance s e).calls = p.calls ++ [e] := by
  show (p.trace ++ [e]).filter Event.isCall = _
  rw [List.filter_append]
  simp [calls, he]

@[simp] theorem calls_log (p : Session σ) (r : LogRecord) : (p.log r).calls = p.calls := by
  show (p.trace ++ [Event.log r]).filter Event.isCall = _
  rw [List.filter_append]
  simp [calls, Event.isCall]

/-! ## §2. One load. -/

/-- The calls by which a class is found. -/
def finding (className : String) (h : Handle) : List Event :=
  [.findClass (Utf8.encodeModified className) h, .exceptionCheck false]

/-- The calls of a load, and what it results in: one case for each place where
a load can end. -/
inductive LoadCalls (className : String) : List Event → Except Error GlobalRef → Prop where
  /-- The table has no `FindClass`. -/
  | noFindClass :
      LoadCalls className [] (.error (.call (.missingEnvEntry TableEntry.findClass.name)))
  /-- The table has no `ExceptionCheck`. -/
  | noExceptionCheck {h : Handle} :
      LoadCalls className [.findClass (Utf8.encodeModified className) h]
        (.error (.call (.missingEnvEntry TableEntry.exceptionCheck.name)))
  /-- An exception is pending, whatever was found. -/
  | thrown {h : Handle} :
      LoadCalls className [.findClass (Utf8.encodeModified className) h, .exceptionCheck true]
        (.error (.call .exceptionThrown))
  /-- The class is null. -/
  | notFound :
      LoadCalls className (finding className 0) (.error (.call (.nullPointer "FindClass result")))
  /-- The table has no `NewGlobalRef`. -/
  | noNewGlobalRef {h : Handle} (hh : h ≠ 0) :
      LoadCalls className (finding className h)
        (.error (.call (.missingEnvEntry TableEntry.newGlobalRef.name)))
  /-- The table has no `GetJavaVM`. -/
  | noJavaVm {h made : Handle} (hh : h ≠ 0) :
      LoadCalls className (finding className h ++ [.newGlobalRef h made])
        (.error (.call (.missingEnvEntry TableEntry.getJavaVm.name)))
  /-- The machine cannot be had. -/
  | unreachable {h made : Handle} {a : PointerAnswer} {e : CallError} (hh : h ≠ 0)
      (ha : a.check = .error e) :
      LoadCalls className (finding className h ++ [.newGlobalRef h made, .getJavaVm a.code])
        (.error (.call e))
  /-- A reference was made of the class that was found. -/
  | made {h made : Handle} {a : PointerAnswer} {serial : Nat} (hh : h ≠ 0)
      (ha : a.check = .ok ()) :
      LoadCalls className (finding className h ++ [.newGlobalRef h made, .getJavaVm a.code])
        (.ok ⟨serial, made⟩)

variable (m : Machine σ)

/-- Finding a class ends the load, or leaves a reference to be made. -/
theorem findClass_calls (className : String) (p : Session σ) :
    (∃ e q calls, findClass m className p = (.error e, q) ∧ q.calls = p.calls ++ calls
        ∧ LoadCalls className calls (.error (.call e)))
    ∨ ∃ h q, findClass m className p = (.ok h, q) ∧ h ≠ 0
        ∧ q.calls = p.calls ++ finding className h := by
  unfold findClass
  rcases m.findClass (Utf8.encodeModified className) p.machine with _ | ⟨h, s⟩
  · exact .inl ⟨_, p, [], rfl, (List.append_nil _).symm, .noFindClass⟩
  · dsimp only
    have hfound := calls_advance (e := .findClass (Utf8.encodeModified className) h) rfl p s
    -- all that is needed of the session from here on is what it has called
    generalize p.advance s (.findClass (Utf8.encodeModified className) h) = q at hfound
    rcases m.exceptionCheck q.machine with _ | ⟨pending, s'⟩
    · exact .inl ⟨_, q, _, rfl, hfound, .noExceptionCheck⟩
    · have hchecked : (q.advance s' (.exceptionCheck pending)).calls
          = p.calls ++ [.findClass (Utf8.encodeModified className) h, .exceptionCheck pending] := by
        rw [calls_advance rfl, hfound, List.append_assoc]
        rfl
      dsimp only
      split
      · next hpending =>
        subst hpending
        exact .inl ⟨_, _, _, rfl, hchecked, .thrown⟩
      · next hpending =>
        obtain rfl : pending = false := Bool.eq_false_iff.2 hpending
        split
        · next hnull =>
          subst hnull
          exact .inl ⟨_, _, _, rfl, hchecked, .notFound⟩
        · next hh => exact .inr ⟨h, _, rfl, hh, hchecked⟩

/-- With the class found, the rest of a load is to make a reference of it. -/
theorem newReference_calls (className : String) {h : Handle} (hh : h ≠ 0) (p : Session σ) :
    ∃ calls, (newReference m h p).2.calls = p.calls ++ calls
      ∧ LoadCalls className (finding className h ++ calls)
          ((newReference m h p).1.mapError .call) := by
  unfold newReference
  rcases m.newGlobalRef h p.machine with _ | ⟨made, s⟩
  · refine ⟨[], (List.append_nil _).symm, ?_⟩
    rw [List.append_nil]
    exact .noNewGlobalRef hh
  · dsimp only
    have hmade := calls_advance (e := .newGlobalRef h made) rfl p s
    generalize p.advance s (.newGlobalRef h made) = q at hmade
    unfold javaVm
    rcases m.getJavaVm q.machine with _ | ⟨a, s'⟩
    · exact ⟨_, hmade, .noJavaVm hh⟩
    · have hasked : (q.advance s' (.getJavaVm a.code)).calls
          = p.calls ++ [.newGlobalRef h made, .getJavaVm a.code] := by
        rw [calls_advance rfl, hmade, List.append_assoc]
        rfl
      dsimp only
      cases ha : a.check with
      | error e => exact ⟨_, hasked, .unreachable hh ha⟩
      | ok => exact ⟨_, hasked, .made hh ha⟩

/-- **The calls of a load are those of one of its ends.** -/
theorem loadClass_calls (className : String) (p : Session σ) :
    ∃ calls, (loadClass m className p).2.calls = p.calls ++ calls
      ∧ LoadCalls className calls (loadClass m className p).1 := by
  unfold loadClass
  rcases findClass_calls m className p with ⟨e, q, calls, hf, hq, hend⟩ | ⟨h, q, hf, hh, hq⟩
  · rw [hf]
    refine ⟨calls, ?_, hend⟩
    rw [calls_log, hq]
  · rw [hf]
    dsimp only
    obtain ⟨calls, hnew, hend⟩ := newReference_calls m className hh (q.log (.loaded className))
    -- the record in between is no call
    rw [calls_log, hq, List.append_assoc] at hnew
    rcases hr : newReference m h (q.log (.loaded className)) with ⟨result, s⟩
    rw [hr] at hnew hend
    cases result with
    | error e => exact ⟨_, hnew, hend⟩
    | ok ref => exact ⟨_, hnew, hend⟩

/-! ## §3. Loads, one after another. -/

/-- From `p` to `q` there were the calls of loads of these classes with these
results, in order, and no others. -/
def Called (attempts : List (String × Except Error GlobalRef)) (p q : Session σ) : Prop :=
  ∃ runs, List.Forall₂ (fun a calls => LoadCalls a.1 calls a.2) attempts runs
    ∧ q.calls = p.calls ++ runs.flatten

theorem Called.refl (p : Session σ) : Called [] p p :=
  ⟨[], .nil, (List.append_nil _).symm⟩

theorem Called.trans {p q s : Session σ}
    {attempts attempts' : List (String × Except Error GlobalRef)}
    (h : Called attempts p q) (h' : Called attempts' q s) : Called (attempts ++ attempts') p s := by
  obtain ⟨runs, hruns, hq⟩ := h
  obtain ⟨runs', hruns', hs⟩ := h'
  refine ⟨runs ++ runs', List.rel_append hruns hruns', ?_⟩
  rw [hs, hq, List.flatten_append, List.append_assoc]

variable {m}

theorem called_of_loadClass {className : String} {p q : Session σ}
    {result : Except Error GlobalRef} (hl : loadClass m className p = (result, q)) :
    Called [(className, result)] p q := by
  obtain ⟨calls, hq, hend⟩ := loadClass_calls m className p
  rw [hl] at hq hend
  refine ⟨[calls], .cons hend .nil, ?_⟩
  rw [hq, List.flatten_singleton]

end Session
end ClassBridge
