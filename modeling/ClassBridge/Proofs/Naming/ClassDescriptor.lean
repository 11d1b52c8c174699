/-
  ClassBridge.Proofs.Naming.ClassDescriptor
  ─────────────────────────────────────────
  **The descriptor of a declared class.**

  The segments of a qualified name, with slashes between them, are the internal
  name, and the internal name between `L` and a semicolon is the descriptor.  The
  check of the name looks for dots and slashes only.  Two other characters have a
  meaning where descriptors are read, and pass:

      semicolon   ends the name of a class
      bracket     starts the descriptor of an array

  `declared_descriptor` says what this comes to.  A descriptor is read to its end,
  as the class with the internal name, exactly if the qualified name holds no
  semicolon; then the class counts as one parameter of a method, whatever stands
  around it.  Otherwise reading stops at the first semicolon of the name.
-/
import ClassBridge.Proofs.Naming.Declaring
import ClassBridge.Proofs.Naming.MethodDescriptor
import ClassBridge.Proofs.Naming.Segments

namespace ClassBridge

/-! ## §1. Segments with another separator between them. -/

theorem map_intercalate (f : Char → Char) (sep : List Char) (segments : List (List Char)) :
    (sep.intercalate segments).map f = (sep.map f).intercalate (segments.map (List.map f)) := by
  induction segments with
  | nil => simp
  | cons s segments ih =>
    cases segments with
    | nil => simp
    | cons t segments =>
      rw [List.intercalate_cons_cons, List.map_append, List.map_append, ih]
      simp

/-- Where there is nothing to be replaced, nothing changes. -/
theorem map_substitute {old new : Char} {s : List Char} (h : old ∉ s) :
    s.map (Utf8.substitute old new) = s := by
  have hid : ∀ c ∈ s, Utf8.substitute old new c = c := by
    intro c hc
    have hne : c ≠ old := fun e => h (e ▸ hc)
    exact if_neg hne
  rw [List.map_congr_left hid, List.map_id']

/-- The slashed form of a dotted name has the same segments. -/
theorem slashed_intercalate {q : String} {segments : List (List Char)}
    (hq : q.toList = ['.'].intercalate segments) (hdots : ∀ s ∈ segments, '.' ∉ s) :
    (slashed q).toList = ['/'].intercalate segments := by
  have hid : ∀ s ∈ segments, s.map (Utf8.substitute '.' '/') = s := fun s hs =>
    map_substitute (hdots s hs)
  rw [slashed, toList_replaced, hq, map_intercalate, List.map_congr_left hid, List.map_id']
  rfl

/-! ## §2. Reading the descriptor of a class. -/

namespace ClassConstants

/-- The descriptor is read to its end, as the class with the internal name. -/
def ReadWhole (c : ClassConstants) : Prop :=
  Descriptor.read c.signature.text.toList = some (.object c.className.text.toList, [])

/-- The internal name consists of segments with slashes between them, and none of
the segments is empty or holds a character that has a meaning in descriptors. -/
def WellNamed (c : ClassConstants) : Prop :=
  ∃ segments : List (List Char), segments ≠ []
    ∧ (∀ s ∈ segments, s ≠ [] ∧ '.' ∉ s ∧ ';' ∉ s ∧ '[' ∉ s ∧ '/' ∉ s)
    ∧ c.className.text.toList = ['/'].intercalate segments

/-- Among the parameters of a method the class is read as one parameter, at its
place, whatever stands in front of it and behind it. -/
def CountsOnce (c : ClassConstants) : Prop :=
  ∀ (before after : List ZString) (result : Option ZString),
    (∀ p ∈ before ++ after, TypeSignature p) → (∀ r ∈ result, TypeSignature r) →
      ∃ z ds ds' d, methodSignature (before ++ c.signature :: after) result = .ok z
        ∧ Descriptor.readMethod z.text.toList
            = some (ds ++ .object c.className.text.toList :: ds', d)
        ∧ ds.map Descriptor.toChars = before.map (·.text.toList)
        ∧ ds'.map Descriptor.toChars = after.map (·.text.toList)

end ClassConstants

namespace Declaration

section

variable {q : String} {c : ClassConstants} (h : Names q c)
include h

theorem Names.toList_signature :
    c.signature.text.toList = 'L' :: (slashed q).toList ++ [';'] := by
  rw [h.signature, h.className]
  simp

theorem Names.mem_className {x : Char} (hdot : x ≠ '.') (hslash : x ≠ '/') :
    x ∈ c.className.text.toList ↔ x ∈ q.toList := by
  rw [h.className]
  exact mem_replaced hdot hslash q

theorem Names.readWhole_iff : c.ReadWhole ↔ ';' ∉ q.toList := by
  rw [← h.mem_className (x := ';') (by decide) (by decide), ClassConstants.ReadWhole,
    Descriptor.read_eq_some_iff]
  constructor
  · intro hread
    exact hread.2
  · intro hfree
    refine ⟨?_, hfree⟩
    rw [h.toList_signature, h.className, List.append_nil]
    rfl

/-- Reading the descriptor stops at the first semicolon of the name. -/
theorem Names.read_of_semicolon {front behind : List Char}
    (hq : q.toList = front ++ ';' :: behind) (hfront : ';' ∉ front) :
    ∃ rest, Descriptor.read c.signature.text.toList
        = some (.object (front.map (Utf8.substitute '.' '/')), rest) ∧ rest ≠ [] := by
  refine ⟨behind.map (Utf8.substitute '.' '/') ++ [';'], ?_, by simp⟩
  rw [Descriptor.read_eq_some_iff]
  constructor
  · rw [h.toList_signature, slashed, toList_replaced, hq, List.map_append]
    simp [Descriptor.toChars, Utf8.substitute]
  · show ';' ∉ front.map (Utf8.substitute '.' '/')
    intro hmem
    obtain ⟨x, hx, heq⟩ := List.mem_map.1 hmem
    unfold Utf8.substitute at heq
    split at heq
    · cases heq
    · exact hfront (heq ▸ hx)

/-- The internal name has the segments of the qualified name. -/
theorem Names.exists_segments (hcheck : QualifiedName.check q = .ok ()) :
    ∃ segments : List (List Char), segments ≠ []
      ∧ (∀ s ∈ segments, QualifiedName.IsSegment s)
      ∧ q.toList = ['.'].intercalate segments
      ∧ c.className.text.toList = ['/'].intercalate segments := by
  obtain ⟨segments, hne, hsegments, hq⟩ := QualifiedName.segmented_of_checkWith hcheck
  refine ⟨segments, hne, hsegments, hq, ?_⟩
  rw [h.className]
  exact slashed_intercalate hq fun s hs => (hsegments s hs).dot_free

theorem Names.wellNamed_iff (hcheck : QualifiedName.check q = .ok ()) :
    c.WellNamed ↔ ';' ∉ q.toList ∧ '[' ∉ q.toList := by
  constructor
  · intro hwell
    obtain ⟨segments, _, hsegments, hclass⟩ := hwell
    -- neither character is the separator, so it would be in a segment
    have hfree : ∀ x, x ≠ '.' → x ≠ '/' → (∀ s ∈ segments, x ∉ s) → x ∉ q.toList := by
      intro x hdot hslash hnone hx
      rw [← h.mem_className hdot hslash, hclass] at hx
      rcases QualifiedName.mem_or_of_mem_intercalate hx with hsep | ⟨s, hs, hmem⟩
      · exact hslash (List.mem_singleton.1 hsep)
      · exact hnone s hs hmem
    exact ⟨hfree ';' (by decide) (by decide) fun s hs => (hsegments s hs).2.2.1,
      hfree '[' (by decide) (by decide) fun s hs => (hsegments s hs).2.2.2.1⟩
  · intro hfree
    obtain ⟨segments, hne, hsegments, hq, hclass⟩ := h.exists_segments hcheck
    refine ⟨segments, hne, ?_, hclass⟩
    intro s hs
    have hin : ∀ x ∈ s, x ∈ q.toList := by
      intro x hx
      rw [hq]
      exact QualifiedName.mem_intercalate_of_mem hs hx
    exact ⟨(hsegments s hs).nonempty, (hsegments s hs).dot_free, fun hx => hfree.1 (hin _ hx),
      fun hx => hfree.2 (hin _ hx), (hsegments s hs).slash_free⟩

/-- A descriptor that is read to its end is the signature of a type. -/
theorem Names.typeSignature (hread : c.ReadWhole) : TypeSignature c.signature := by
  refine .object c.className.text.toList ?_ ?_
  · rw [h.mem_className (by decide) (by decide)]
    exact h.readWhole_iff.1 hread
  · rw [h.toList_signature, h.className]

theorem Names.countsOnce (hread : c.ReadWhole) : c.CountsOnce := by
  intro before after result hp hr
  have hall : ∀ p ∈ before ++ c.signature :: after, TypeSignature p := by
    intro p hmem
    rw [List.mem_append, List.mem_cons] at hmem
    rcases hmem with hmem | rfl | hmem
    · exact hp p (List.mem_append_left _ hmem)
    · exact h.typeSignature hread
    · exact hp p (List.mem_append_right _ hmem)
  obtain ⟨z, ds, d, hz, hchars, hmap, _, hfree, hd⟩ := methodSignature_eq_methodChars hall hr
  rw [List.map_append, List.map_cons] at hmap
  obtain ⟨front, tail, rfl, hfront, htail⟩ := List.map_eq_append_iff.1 hmap
  obtain ⟨e, behind, rfl, he, hbehind⟩ := List.map_eq_cons_iff.1 htail
  -- what is written at the place of the class is read as the class only
  have heq : e = .object c.className.text.toList := by
    have hone := Descriptor.read_toChars (hfree e (by simp)) []
    rw [List.append_nil, he, hread] at hone
    exact (Prod.mk.inj (Option.some.inj hone)).1.symm
  subst heq
  refine ⟨z, front, behind, d, hz, ?_, hfront, hbehind⟩
  rw [hchars]
  exact Descriptor.readMethod_methodChars hfree hd

end

/-! ## §3. Which names make one descriptor. -/

/-- **A name without semicolons makes one descriptor.**  Under an accepted name
without NUL a class is declared whose internal name has the segments of the
qualified name.  Its descriptor is read to its end, as that of this class,
exactly if the name holds no semicolon, and then the class counts as one
parameter; otherwise reading stops at the first semicolon.  The segments are free
of all characters with a meaning in descriptors exactly if the name holds no
bracket either. -/
theorem declared_descriptor (kind : Kind) {q : String} (hcheck : QualifiedName.check q = .ok ())
    (hnul : Char.ofNat 0 ∉ q.toList) :
    ∃ c, declare kind q = .ok c
      ∧ (∃ segments : List (List Char), segments ≠ []
          ∧ (∀ s ∈ segments, QualifiedName.IsSegment s)
          ∧ q.toList = ['.'].intercalate segments
          ∧ c.className.text.toList = ['/'].intercalate segments)
      ∧ (c.ReadWhole ↔ ';' ∉ q.toList)
      ∧ (c.WellNamed ↔ ';' ∉ q.toList ∧ '[' ∉ q.toList)
      ∧ (';' ∉ q.toList → c.CountsOnce)
      ∧ ∀ front behind, q.toList = front ++ ';' :: behind → ';' ∉ front →
          ∃ rest, Descriptor.read c.signature.text.toList
              = some (.object (front.map (Utf8.substitute '.' '/')), rest) ∧ rest ≠ [] := by
  obtain ⟨c, hc, _⟩ := exists_declare kind hcheck hnul
  have hnames : Names q c := names_of_declare hc
  refine ⟨c, hc, hnames.exists_segments hcheck, hnames.readWhole_iff,
    hnames.wellNamed_iff hcheck, ?_, fun _ _ => hnames.read_of_semicolon⟩
  intro hfree
  exact hnames.countsOnce (hnames.readWhole_iff.2 hfree)

/-- The class of a name with a dollar sign is read as it is declared, and of a
name with a semicolon the part in front of it. -/
theorem innerClass_described :
    (∃ c, declare .native "net.example.Outer$Inner" = .ok c
      ∧ c.ReadWhole ∧ c.WellNamed ∧ c.CountsOnce)
      ∧ ∃ c, declare .data "m.a;b" = .ok c ∧ ∃ rest,
          Descriptor.read c.signature.text.toList = some (.object "m/a".toList, rest)
            ∧ rest ≠ [] := by
  obtain ⟨c, hc, _, hread, hwell, hcounts, _⟩ :=
    declared_descriptor .native (q := "net.example.Outer$Inner") rfl (by decide)
  obtain ⟨c', hc', _, _, _, _, hstops⟩ := declared_descriptor .data (q := "m.a;b") rfl (by decide)
  refine ⟨⟨c, hc, hread.2 (by decide), hwell.2 (by decide), hcounts (by decide)⟩, c', hc', ?_⟩
  exact hstops "m.a".toList "b".toList (by decide) (by decide)

/-- A name with a semicolon is accepted, and a class of this name counts as two
parameters of a method; a name with a bracket is accepted, and the bracket is in
a segment of the internal name. -/
theorem semicolonName_counts_twice :
    (QualifiedName.check "a;Lb" = .ok () ∧ Char.ofNat 0 ∉ "a;Lb".toList
      ∧ ∃ c, declare .data "a;Lb" = .ok c ∧ ¬ c.ReadWhole ∧ ¬ c.WellNamed ∧ ¬ c.CountsOnce
        ∧ ∃ z, methodSignature [c.signature] none = .ok z
          ∧ Descriptor.readMethod z.text.toList
              = some ([.object ['a'], .object ['b']], .void))
      ∧ QualifiedName.check "a[b" = .ok () ∧ Char.ofNat 0 ∉ "a[b".toList
      ∧ ∃ c, declare .data "a[b" = .ok c ∧ ¬ c.WellNamed := by
  constructor
  · have hcheck : QualifiedName.check "a;Lb" = .ok () := rfl
    have hnul : Char.ofNat 0 ∉ "a;Lb".toList := by decide
    obtain ⟨c, hc, _⟩ := exists_declare .data hcheck hnul
    have hnames : Names "a;Lb" c := names_of_declare hc
    obtain ⟨z, hz, hchars⟩ := methodSignature_eq_ok [c.signature] none
    have hread : Descriptor.readMethod z.text.toList
        = some ([.object ['a'], .object ['b']], .void) := by
      rw [Descriptor.readMethod_eq_some_iff, hchars, List.map_singleton, hnames.toList_signature]
      exact ⟨by decide, by simp [Descriptor.SemicolonFree], trivial⟩
    refine ⟨hcheck, hnul, c, hc, ?_, ?_, ?_, z, hz, hread⟩
    · rw [hnames.readWhole_iff]
      decide
    · rw [hnames.wellNamed_iff hcheck]
      decide
    · intro hcounts
      -- alone, it would be the only parameter
      obtain ⟨z', ds, ds', d, hz', hread', hds, hds'⟩ := hcounts [] [] none (by simp) (by simp)
      obtain rfl : z = z' := Except.ok.inj (hz.symm.trans hz')
      obtain rfl := List.map_eq_nil_iff.1 hds
      obtain rfl := List.map_eq_nil_iff.1 hds'
      rw [hread] at hread'
      simp at hread'
  · have hcheck : QualifiedName.check "a[b" = .ok () := rfl
    have hnul : Char.ofNat 0 ∉ "a[b".toList := by decide
    obtain ⟨c, hc, _⟩ := exists_declare .data hcheck hnul
    refine ⟨hcheck, hnul, c, hc, ?_⟩
    rw [(names_of_declare hc).wellNamed_iff hcheck]
    decide

end Declaration
end ClassBridge
