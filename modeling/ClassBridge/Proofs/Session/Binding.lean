/-
  ClassBridge.Proofs.Session.Binding
  ──────────────────────────────────
  **Binding native functions to the methods of a class.**

  The class is got first; then the machine is asked once to bind a row for each
  method.  There are three ways to fail, and what is left behind is another one
  in each:

      the class is not got              no row is handed over, the cache stays
      the table has no such function    no row is handed over, the class is cached
      a code other than 0               the rows were handed over, the class is cached

  The rows say what the methods say (`Presents`): a reader of C strings finds
  the whole name and the whole descriptor.  The installed registry is neither
  asked nor changed.
-/
import ClassBridge.Machine.Scripted
import ClassBridge.Proofs.Session.Calls
import ClassBridge.Proofs.Session.History
import ClassBridge.Proofs.Session.Surroundings
import ClassBridge.Proofs.Text.Acceptance
import Mathlib.Algebra.Group.Nat.Defs

namespace ClassBridge

/-! ## §1. Rows of the table. -/

/-- Whoever reads the row finds the method in it, whatever lies in memory
behind the two texts. -/
structure Presents (row : MethodRow) (b : MethodBinding) : Prop where
  name : ∀ behind, ZString.readCString (row.name ++ behind) = b.name.bytes
  signature : ∀ behind, ZString.readCString (row.signature ++ behind) = b.signature.bytes
  function : row.function = b.function

theorem presents_toRow (b : MethodBinding) : Presents b.toRow b :=
  ⟨b.name.readCString_buffer, b.signature.readCString_buffer, rfl⟩

/-- There is one row for each method, in order. -/
theorem presents_rows (methods : List MethodBinding) :
    List.Forall₂ Presents (methods.map MethodBinding.toRow) methods := by
  induction methods with
  | nil => exact .nil
  | cons b rest ih => exact .cons (presents_toRow b) ih

/-- The rows and the count that are handed over for the methods. -/
structure Tabulates (rows : List MethodRow) (count : Int32) (methods : List MethodBinding) :
    Prop where
  rows : List.Forall₂ Presents rows methods
  count : count.toInt = methods.length

theorem tabulates {methods : List MethodBinding} (hlen : methods.length < 2 ^ 31) :
    Tabulates (methods.map MethodBinding.toRow) (Int32.ofNat methods.length) methods :=
  ⟨presents_rows methods, Int32.toInt_ofNat_of_lt hlen⟩

/-- A request to bind methods, and the code it was answered with. -/
structure Registration where
  target : Handle
  rows : List MethodRow
  count : Int32
  code : Code

/-- The request that an event is. -/
def Event.registration? : Event → Option Registration
  | .registerNatives target rows count code => some ⟨target, rows, count, code⟩
  | _ => none

namespace Session

variable {σ : Type} {m : Machine σ} {p q s : Session σ}

/-- The requests to bind methods, in order. -/
def registrations (p : Session σ) : List Registration := p.calls.filterMap Event.registration?

theorem registrations_log (p : Session σ) (r : LogRecord) :
    (p.log r).registrations = p.registrations := by
  unfold registrations
  rw [calls_log]

/-! ## §2. Getting the class. -/

/-- No load asks for methods to be bound. -/
theorem LoadCalls.registrations_eq_nil {className : String} {calls : List Event}
    {result : Except Error GlobalRef} (h : LoadCalls className calls result) :
    calls.filterMap Event.registration? = [] := by
  cases h <;> rfl

theorem registrations_loadClass (m : Machine σ) (className : String) (p : Session σ) :
    (loadClass m className p).2.registrations = p.registrations := by
  obtain ⟨calls, hcalls, hend⟩ := loadClass_calls m className p
  unfold registrations
  rw [hcalls, List.filterMap_append, hend.registrations_eq_nil, List.append_nil]

theorem registrations_getClass (m : Machine σ) (className : String) (p : Session σ) :
    (getClass m className p).2.registrations = p.registrations := by
  have hload := registrations_loadClass m className p
  rcases getClass_cases m className p with ⟨ref, _, hg⟩ | ⟨ref, q, _, hl, hg⟩ | ⟨e, q, _, hl, hg⟩
  · rw [hg]
  · rw [hl] at hload
    rw [hg]
    exact hload
  · rw [hl] at hload
    rw [hg]
    exact hload

/-- From `p` to `q` the tables of the session stay, but that the class may have
been put behind the others in the cache; `result` is what getting it came to. -/
structure KeepsClass (className : String) (result : Except Error GlobalRef) (p q : Session σ) :
    Prop where
  installed : q.installed = p.installed
  held : q.held = p.held
  cache : q.cache = p.cache
    ∨ p.cached? className = none
      ∧ ∃ ref, result = .ok ref ∧ q.cache = p.cache ++ [(className, ref)]
  /-- A class that was got is cached. -/
  cached : ∀ ref, result = .ok ref → q.cached? className = some ref

theorem KeepsClass.trans {className : String} {result : Except Error GlobalRef}
    (h : KeepsClass className result p q) (h' : SameTables q s) :
    KeepsClass className result p s where
  installed := h'.installed.trans h.installed
  held := h'.held.trans h.held
  cache := by
    rw [h'.cache]
    exact h.cache
  cached := by
    intro ref href
    rw [h'.cached?]
    exact h.cached ref href

theorem keepsClass_getClass (m : Machine σ) (className : String) (p : Session σ) :
    KeepsClass className (getClass m className p).1 p (getClass m className p).2 := by
  rcases getClass_cases m className p with ⟨ref, hc, hg⟩ | ⟨ref, q, hc, hl, hg⟩ | ⟨e, q, hc, hl, hg⟩
  · -- a class that is cached is answered for as the session stands
    rw [hg]
    refine ⟨rfl, rfl, .inl rfl, ?_⟩
    intro ref' href
    obtain rfl := Except.ok.inj href
    exact hc
  · have hsame := sameTables_of_loadClass hl
    have hcache : q.cache ++ [(className, ref)] = p.cache ++ [(className, ref)] := by
      rw [hsame.cache]
    rw [hg]
    refine ⟨hsame.installed, hsame.held, .inr ⟨hc, ref, rfl, hcache⟩, ?_⟩
    intro ref' href
    obtain rfl := Except.ok.inj href
    exact cached?_of_getClass hg
  · have hsame := sameTables_of_loadClass hl
    rw [hg]
    exact ⟨hsame.installed, hsame.held, .inl hsame.cache, nofun⟩

/-- Getting a class does not look at the installed registry. -/
theorem getClass_installed (m : Machine σ) (className : String) (p : Session σ)
    (installed : Option Registry) :
    getClass m className { p with installed }
      = ((getClass m className p).1, { (getClass m className p).2 with installed }) := by
  have hcached : ({ p with installed } : Session σ).cached? className = p.cached? className := rfl
  unfold getClass
  rw [hcached]
  cases p.cached? className with
  | some ref => rfl
  | none =>
    dsimp only
    rw [loadClass_installed]
    rcases loadClass m className p with ⟨result, q⟩
    cases result with
    | error e => rfl
    | ok ref => rfl

/-! ## §3. Asking for the methods. -/

/-- How binding methods ends, from `p` on: one case for each place where it
can fail, and one for the answer of the machine. -/
inductive Binds (m : Machine σ) (c : ClassConstants) (methods : List MethodBinding)
    (p : Session σ) : Except Error Unit → Session σ → Prop where
  /-- The class is not got: that is the error, and nothing more is done. -/
  | unresolved {e : Error} {q : Session σ} (hg : getClass m c.className.text p = (.error e, q))
      (hnone : q.registrations = p.registrations) (hcache : q.cache = p.cache) :
      Binds m c methods p (.error e) q
  /-- The table has no `RegisterNatives`: nothing is done with the class. -/
  | noEntry {ref : GlobalRef} {q : Session σ} {rows : List MethodRow} {count : Int32}
      (hg : getClass m c.className.text p = (.ok ref, q)) (ht : Tabulates rows count methods)
      (hm : m.registerNatives ref.handle rows count q.machine = none)
      (hnone : q.registrations = p.registrations) :
      Binds m c methods p (.error (.missingFunction TableEntry.registerNatives.name)) q
  /-- The machine answers the one request that is made for the class. -/
  | answered {ref : GlobalRef} {q final : Session σ} {rows : List MethodRow} {count : Int32}
      {code : Code} {s : σ} {result : Except Error Unit}
      (hg : getClass m c.className.text p = (.ok ref, q)) (ht : Tabulates rows count methods)
      (hm : m.registerNatives ref.handle rows count q.machine = some (code, s))
      (hcalls : final.calls = q.calls ++ [.registerNatives ref.handle rows count code])
      (honce : final.registrations = p.registrations ++ [⟨ref.handle, rows, count, code⟩])
      (hok : result = .ok () ↔ code = 0)
      (herror : code ≠ 0 → result = .error (.registrationRefused c.qualifiedName code)) :
      Binds m c methods p result final

theorem registrations_request (q : Session σ) (s : σ) (target : Handle) (rows : List MethodRow)
    (count : Int32) (code : Code) :
    (q.advance s (.registerNatives target rows count code)).registrations
      = q.registrations ++ [⟨target, rows, count, code⟩] := by
  unfold registrations
  rw [calls_advance rfl, List.filterMap_append]
  rfl

/-- Without the entry in the table nothing is done with the class that was got. -/
theorem bindMethods_of_noEntry {c : ClassConstants} {methods : List MethodBinding} {ref : GlobalRef}
    (hg : getClass m c.className.text p = (.ok ref, q))
    (hm : m.registerNatives ref.handle (methods.map MethodBinding.toRow)
      (Int32.ofNat methods.length) q.machine = none) :
    bindMethods m c methods p
      = (.error (.missingFunction TableEntry.registerNatives.name), q) := by
  unfold bindMethods
  rw [hg]
  dsimp only
  rw [hm]

/-- An answer is reported by its code alone, and recorded. -/
theorem bindMethods_answered {c : ClassConstants} {methods : List MethodBinding} {ref : GlobalRef}
    {code : Code} {s : σ} (hg : getClass m c.className.text p = (.ok ref, q))
    (hm : m.registerNatives ref.handle (methods.map MethodBinding.toRow)
      (Int32.ofNat methods.length) q.machine = some (code, s)) :
    ∃ result r,
      bindMethods m c methods p
          = (result, (q.advance s (.registerNatives ref.handle (methods.map MethodBinding.toRow)
              (Int32.ofNat methods.length) code)).log r)
        ∧ (result = .ok () ↔ code = 0)
        ∧ (code ≠ 0 → result = .error (.registrationRefused c.qualifiedName code)) := by
  unfold bindMethods
  rw [hg]
  dsimp only
  rw [hm]
  dsimp only
  by_cases hcode : code = 0
  · rw [if_pos hcode]
    exact ⟨_, _, rfl, by simp [hcode], fun hne => absurd hcode hne⟩
  · rw [if_neg hcode]
    exact ⟨_, _, rfl, by simp [hcode], fun _ => rfl⟩

/-- Binding methods ends in one of the three ways, and leaves nothing but the
class in the tables of the session. -/
theorem bindMethods_cases (m : Machine σ) (c : ClassConstants) {methods : List MethodBinding}
    (hlen : methods.length < 2 ^ 31) (p : Session σ) :
    Binds m c methods p (bindMethods m c methods p).1 (bindMethods m c methods p).2
      ∧ KeepsClass c.className.text (getClass m c.className.text p).1 p
          (bindMethods m c methods p).2 := by
  have hnone := registrations_getClass m c.className.text p
  have hkeeps := keepsClass_getClass m c.className.text p
  rcases hg : getClass m c.className.text p with ⟨result, q⟩
  rw [hg] at hnone hkeeps
  cases result with
  | error e =>
    rw [bindMethods_of_refused hg]
    refine ⟨.unresolved hg hnone ?_, hkeeps⟩
    -- only a class that was got is cached
    rcases hkeeps.cache with hcache | ⟨_, ref, href, _⟩
    · exact hcache
    · cases href
  | ok ref =>
    -- the rows are handed over or not, and are the same either way
    have ht := tabulates hlen
    cases hm : m.registerNatives ref.handle (methods.map MethodBinding.toRow)
        (Int32.ofNat methods.length) q.machine with
    | none =>
      rw [bindMethods_of_noEntry hg hm]
      exact ⟨.noEntry hg ht hm hnone, hkeeps⟩
    | some answer =>
      obtain ⟨code, s⟩ := answer
      obtain ⟨result, r, hbind, hok, herror⟩ := bindMethods_answered hg hm
      rw [hbind]
      refine ⟨.answered hg ht hm ?_ ?_ hok herror, ?_⟩
      · rw [calls_log, calls_advance rfl]
      · rw [registrations_log, registrations_request, hnone]
      · exact hkeeps.trans ((sameTables_advance q s _).trans (sameTables_log _ r))

/-- Whether any registry is installed makes no difference to binding methods. -/
theorem bindMethods_installed (m : Machine σ) (c : ClassConstants) (methods : List MethodBinding)
    (p : Session σ) (installed : Option Registry) :
    bindMethods m c methods { p with installed }
      = ((bindMethods m c methods p).1, { (bindMethods m c methods p).2 with installed }) := by
  unfold bindMethods
  rw [getClass_installed]
  rcases getClass m c.className.text p with ⟨result, q⟩
  cases result with
  | error e => rfl
  | ok ref =>
    dsimp only
    rcases m.registerNatives ref.handle (methods.map MethodBinding.toRow)
        (Int32.ofNat methods.length) q.machine with _ | ⟨code, s⟩
    · rfl
    · dsimp only
      split
      · rfl
      · rfl

/-- **The methods of a class are bound in one request, which says what they
say, after the class was got, and the answer is success exactly if its code is
0.**  Whatever happens, the installed registry stays and is not looked at, and
the cache differs by the class at most, which stays cached once it was got. -/
theorem bindMethods_outcome (m : Machine σ) (c : ClassConstants) {methods : List MethodBinding}
    (hlen : methods.length < 2 ^ 31) (p : Session σ) :
    Binds m c methods p (bindMethods m c methods p).1 (bindMethods m c methods p).2
      ∧ KeepsClass c.className.text (getClass m c.className.text p).1 p
          (bindMethods m c methods p).2
      ∧ ∀ installed : Option Registry,
          bindMethods m c methods { p with installed }
            = ((bindMethods m c methods p).1,
              { (bindMethods m c methods p).2 with installed }) := by
  obtain ⟨hbinds, hkeeps⟩ := bindMethods_cases m c hlen p
  exact ⟨hbinds, hkeeps, bindMethods_installed m c methods p⟩

/-- The names of a class with native methods. -/
def namesOfClock : ClassConstants :=
  ⟨.native, "m.Clock", ZString.constant "m/Clock", ZString.constant "Lm/Clock;"⟩

/-- Two methods, one of which has a name beyond ASCII. -/
def clockMethods : List MethodBinding :=
  [⟨ZString.constant "now", ZString.constant "()J", 0x1000⟩,
    ⟨ZString.constant "größe", ZString.constant "(I)V", 0x2000⟩]

/-- Where the machine refuses them with a positive code, that is the error, and
the class stays cached. -/
theorem clockMethods_refused :
    clockMethods.length < 2 ^ 31
      ∧ Binds Script.machine namesOfClock clockMethods
          (start { codes := [(.registerNatives, 3)] }) (.error (.registrationRefused "m.Clock" 3))
          (bindMethods Script.machine namesOfClock clockMethods
            (start { codes := [(.registerNatives, 3)] })).2
      ∧ (bindMethods Script.machine namesOfClock clockMethods
          (start { codes := [(.registerNatives, 3)] })).2.cache.map Prod.fst = ["m/Clock"] := by
  have hlen : clockMethods.length < 2 ^ 31 := by decide
  obtain ⟨hbinds, -, -⟩ := bindMethods_outcome Script.machine namesOfClock hlen
    (start { codes := [(.registerNatives, 3)] })
  exact ⟨hlen, hbinds, rfl⟩

end Session
end ClassBridge
