/-
  ClassBridge.Proofs.Session.Spelling
  ───────────────────────────────────
  **How a text is spelled for the machine.**

  A text reaches the machine in two ways, and each has its own spelling:

      a class is looked up    by its name in the encoding of names
      a method is bound       by the buffers of its name and its descriptor,
                              read as C strings: in the encoding of texts

  `looksUp_iff` and `handsOver_iff` say when a text goes either way, and by
  which bytes.  The two spellings of a text are the same exactly if no character
  of it is above U+FFFF (`paths_agree_iff`).
-/
import ClassBridge.Proofs.Session.Binding
import ClassBridge.Proofs.Text.Modified

namespace ClassBridge

/-- The rows of a binding are read as the text's own bytes. -/
theorem readCString_toRow (b : MethodBinding) (behind : List UInt8) :
    ZString.readCString (b.toRow.name ++ behind) = b.name.bytes
      ∧ ZString.readCString (b.toRow.signature ++ behind) = b.signature.bytes :=
  ⟨(presents_toRow b).name behind, (presents_toRow b).signature behind⟩

namespace Session

variable {σ : Type} {m : Machine σ} {p : Session σ}

/-! ## §1. Looking up. -/

/-- Loading a class asks the machine for it by these bytes. -/
def LooksUp (m : Machine σ) (p : Session σ) (className : String) (name : List UInt8) : Prop :=
  (loadClass m className p).2.lookups = p.lookups ++ [name]

/-- It does so whenever the table has the entry, and by the encoding of names. -/
theorem looksUp_iff {className : String} {name : List UInt8} :
    LooksUp m p className name
      ↔ (m.findClass (Utf8.encodeModified className) p.machine).isSome = true
        ∧ Utf8.WrittenAsName className name := by
  unfold LooksUp
  rw [(loadEvents_loadClass m className p).lookups, List.append_right_inj,
    Utf8.writtenAsName_iff, sought]
  split
  · next h => simp [h, eq_comm]
  · next h => simp [h]

/-! ## §2. Handing over. -/

/-- The request that binding methods comes to: the class is got, and the machine
answers for the rows of the methods. -/
inductive Requests (m : Machine σ) (c : ClassConstants) (methods : List MethodBinding)
    (p : Session σ) : Registration → Prop where
  | of {ref : GlobalRef} {q : Session σ} {code : Code} {s : σ}
      (hg : getClass m c.className.text p = (.ok ref, q))
      (hm : m.registerNatives ref.handle (methods.map MethodBinding.toRow)
        (Int32.ofNat methods.length) q.machine = some (code, s)) :
      Requests m c methods p ⟨ref.handle, methods.map MethodBinding.toRow,
        Int32.ofNat methods.length, code⟩

/-- Binding methods makes this request, or none. -/
theorem registrations_bindMethods_iff {c : ClassConstants} {methods : List MethodBinding}
    {reg : Registration} :
    (bindMethods m c methods p).2.registrations = p.registrations ++ [reg]
      ↔ Requests m c methods p reg := by
  have hsame := registrations_getClass m c.className.text p
  have hone : ∀ requests : List Registration, ¬ requests = requests ++ [reg] := by simp
  rcases hg : getClass m c.className.text p with ⟨result, q⟩
  rw [hg] at hsame
  cases result with
  | error e =>
    -- the class is not got
    rw [bindMethods_of_refused hg, hsame]
    refine iff_of_false (hone _) ?_
    rintro ⟨hg', _⟩
    cases hg.symm.trans hg'
  | ok ref =>
    cases hm : m.registerNatives ref.handle (methods.map MethodBinding.toRow)
        (Int32.ofNat methods.length) q.machine with
    | none =>
      -- the table has no such entry
      rw [bindMethods_of_noEntry hg hm, hsame]
      refine iff_of_false (hone _) ?_
      rintro ⟨hg', hm'⟩
      cases hg.symm.trans hg'
      cases hm.symm.trans hm'
    | some answer =>
      obtain ⟨code, s⟩ := answer
      obtain ⟨result, r, hbind, -⟩ := bindMethods_answered hg hm
      rw [hbind, registrations_log, registrations_request, hsame, List.append_right_inj,
        List.singleton_inj]
      constructor
      · rintro rfl
        exact .of hg hm
      · rintro ⟨hg', hm'⟩
        cases hg.symm.trans hg'
        cases hm.symm.trans hm'
        rfl

/-- In a row that is handed over for a method, a reader of C strings finds
these bytes for a text: where the method has the text as its name, or where it
has it as its descriptor. -/
inductive HandsOver (m : Machine σ) (p : Session σ) (c : ClassConstants)
    (methods : List MethodBinding) (z : ZString) (bytes : List UInt8) : Prop where
  | name {reg : Registration} {i : Nat} {b : MethodBinding} {row : MethodRow}
      (hreg : (bindMethods m c methods p).2.registrations = p.registrations ++ [reg])
      (hb : methods[i]? = some b) (hrow : reg.rows[i]? = some row) (hz : b.name = z)
      (hread : ∀ behind, ZString.readCString (row.name ++ behind) = bytes)
  | signature {reg : Registration} {i : Nat} {b : MethodBinding} {row : MethodRow}
      (hreg : (bindMethods m c methods p).2.registrations = p.registrations ++ [reg])
      (hb : methods[i]? = some b) (hrow : reg.rows[i]? = some row) (hz : b.signature = z)
      (hread : ∀ behind, ZString.readCString (row.signature ++ behind) = bytes)

/-- The row of a method is its own. -/
theorem row_of_requested {c : ClassConstants} {methods : List MethodBinding} {reg : Registration}
    {i : Nat} {b : MethodBinding} {row : MethodRow}
    (hreg : (bindMethods m c methods p).2.registrations = p.registrations ++ [reg])
    (hb : methods[i]? = some b) (hrow : reg.rows[i]? = some row) : row = b.toRow := by
  obtain ⟨hg, hm⟩ := registrations_bindMethods_iff.1 hreg
  rw [List.getElem?_map, hb] at hrow
  exact (Option.some.inj hrow).symm

/-- A text is handed over whenever a request is made for a method that has it,
and by its own bytes. -/
theorem handsOver_iff {c : ClassConstants} {methods : List MethodBinding} {z : ZString}
    {bytes : List UInt8} :
    HandsOver m p c methods z bytes
      ↔ (∃ reg, Requests m c methods p reg)
        ∧ (∃ b ∈ methods, b.name = z ∨ b.signature = z) ∧ bytes = z.bytes := by
  constructor
  · intro h
    cases h with
    | @name reg i b row hreg hb hrow hz hread =>
      obtain rfl := row_of_requested hreg hb hrow
      refine ⟨⟨reg, registrations_bindMethods_iff.1 hreg⟩,
        ⟨b, List.mem_of_getElem? hb, .inl hz⟩, ?_⟩
      rw [← hread [], (readCString_toRow b []).1, hz]
    | @signature reg i b row hreg hb hrow hz hread =>
      obtain rfl := row_of_requested hreg hb hrow
      refine ⟨⟨reg, registrations_bindMethods_iff.1 hreg⟩,
        ⟨b, List.mem_of_getElem? hb, .inr hz⟩, ?_⟩
      rw [← hread [], (readCString_toRow b []).2, hz]
  · rintro ⟨⟨reg, hreg⟩, ⟨b, hmem, hz⟩, rfl⟩
    obtain ⟨i, hb⟩ := List.getElem?_of_mem hmem
    have hrow : reg.rows[i]? = some b.toRow := by
      obtain ⟨hg, hm⟩ := hreg
      rw [List.getElem?_map, hb]
      rfl
    rcases hz with rfl | rfl
    · exact .name (registrations_bindMethods_iff.2 hreg) hb hrow rfl
        fun behind => (readCString_toRow b behind).1
    · exact .signature (registrations_bindMethods_iff.2 hreg) hb hrow rfl
        fun behind => (readCString_toRow b behind).2

/-! ## §3. Both ways. -/

/-- **A text is spelled alike for the lookup of a class and for the binding of a
method exactly if no character of it is above U+FFFF.**  A method's row is read
as the text's own bytes, whatever lies in memory behind it, be the text the
method's name or its descriptor; a class is looked up by the text written as a
name.  Both are so for every machine, whenever it is asked at all. -/
theorem paths_agree_iff (z : ZString) :
    (∀ (other : ZString) (function : Nat) (behind : List UInt8),
        (Utf8.WrittenAsName z.text
            (ZString.readCString ((MethodBinding.mk z other function).toRow.name ++ behind))
          ↔ Utf8.InBasicPlane z.text)
        ∧ (Utf8.WrittenAsName z.text
            (ZString.readCString ((MethodBinding.mk other z function).toRow.signature ++ behind))
          ↔ Utf8.InBasicPlane z.text))
      ∧ ∀ {σ τ : Type} (m : Machine σ) (m' : Machine τ) (p : Session σ) (q : Session τ)
          (c : ClassConstants) (methods : List MethodBinding) (name bytes : List UInt8),
          (LooksUp m p z.text name
            ↔ (m.findClass (Utf8.encodeModified z.text) p.machine).isSome = true
              ∧ Utf8.WrittenAsName z.text name)
          ∧ (HandsOver m' q c methods z bytes
            ↔ (∃ reg, Requests m' c methods q reg)
              ∧ (∃ b ∈ methods, b.name = z ∨ b.signature = z) ∧ bytes = z.bytes)
          ∧ (LooksUp m p z.text name → HandsOver m' q c methods z bytes →
              (bytes = name ↔ Utf8.InBasicPlane z.text)) := by
  have hown : Utf8.WrittenAsName z.text z.bytes ↔ Utf8.InBasicPlane z.text :=
    Utf8.writtenAsName_iff.trans z.bytes_eq_encodeModified_iff
  refine ⟨?_, ?_⟩
  · intro other function behind
    rw [(readCString_toRow ⟨z, other, function⟩ behind).1,
      (readCString_toRow ⟨other, z, function⟩ behind).2]
    exact ⟨hown, hown⟩
  · intro σ τ m m' p q c methods name bytes
    refine ⟨looksUp_iff, handsOver_iff, ?_⟩
    intro hlooks hhands
    obtain ⟨-, hname⟩ := looksUp_iff.1 hlooks
    obtain ⟨-, -, rfl⟩ := handsOver_iff.1 hhands
    rw [Utf8.writtenAsName_iff.1 hname]
    exact z.bytes_eq_encodeModified_iff

/-- The names of a class with native methods. -/
def namesOfFace : ClassConstants :=
  ⟨.native, "m.Face", ZString.constant "m/Face", ZString.constant "Lm/Face;"⟩

/-- A method whose name is above U+FFFF, and one whose name is not. -/
def faceMethods : List MethodBinding :=
  [⟨ZString.constant "😀", ZString.constant "()V", 0x1000⟩,
    ⟨ZString.constant "grüße", ZString.constant "()I", 0x2000⟩]

/-- The first name is looked up by two surrogates and handed over by four bytes;
the second goes both ways by the same bytes. -/
theorem faceMethods_spelled :
    LooksUp Script.machine (start {}) "😀" [0xED, 0xA0, 0xBD, 0xED, 0xB8, 0x80]
      ∧ HandsOver Script.machine (start {}) namesOfFace faceMethods (ZString.constant "😀")
        [0xF0, 0x9F, 0x98, 0x80]
      ∧ ¬ Utf8.InBasicPlane "😀"
      ∧ LooksUp Script.machine (start {}) "grüße" (Utf8.encode "grüße")
      ∧ HandsOver Script.machine (start {}) namesOfFace faceMethods (ZString.constant "grüße")
        (Utf8.encode "grüße")
      ∧ Utf8.InBasicPlane "grüße" := by
  have hrequest : ∃ reg, Requests Script.machine namesOfFace faceMethods (start {}) reg :=
    ⟨_, .of rfl rfl⟩
  obtain ⟨-, hface⟩ := paths_agree_iff (ZString.constant "😀")
  obtain ⟨-, hhands, hagree⟩ := hface Script.machine Script.machine (start {}) (start {})
    namesOfFace faceMethods [0xED, 0xA0, 0xBD, 0xED, 0xB8, 0x80] [0xF0, 0x9F, 0x98, 0x80]
  have hlooks : LooksUp Script.machine (start {}) "😀"
      [0xED, 0xA0, 0xBD, 0xED, 0xB8, 0x80] := rfl
  have hgiven := hhands.2 ⟨hrequest, ⟨_, List.mem_cons_self, .inl rfl⟩, rfl⟩
  obtain ⟨-, hplain⟩ := paths_agree_iff (ZString.constant "grüße")
  obtain ⟨-, hhands', hagree'⟩ := hplain Script.machine Script.machine (start {}) (start {})
    namesOfFace faceMethods (Utf8.encode "grüße") (Utf8.encode "grüße")
  have hlooks' : LooksUp Script.machine (start {}) "grüße" (Utf8.encode "grüße") := rfl
  have hgiven' := hhands'.2
    ⟨hrequest, ⟨_, List.mem_cons_of_mem _ List.mem_cons_self, .inl rfl⟩, rfl⟩
  exact ⟨hlooks, hgiven, fun h => absurd ((hagree hlooks hgiven).2 h) (by decide),
    hlooks', hgiven', (hagree' hlooks' hgiven').1 rfl⟩

end Session
end ClassBridge
