/-
  ClassBridge.Proofs.Naming.Declaring
  ───────────────────────────────────
  **The names of a declared class.**

  A class is declared exactly if its qualified name is accepted and holds no
  NUL, and then its names are known:

      slashed   the internal name: a slash for every dot
      dotted    the way back: a dot for every slash

  An accepted name holds no slash of its own, so nothing is lost on the way:
  the qualified name is the dotted internal name (`dotted_slashed`), and two
  classes with one internal name have one qualified name.

  `declare_outcome` — a declaration is refused for its name, or else for a NUL
  in it, or else gives these names.
-/
import ClassBridge.Declaration
import ClassBridge.Proofs.Naming.Segments
import ClassBridge.Proofs.Text.Evaluation

namespace ClassBridge

/-! ## §1. One character put in place of another. -/

/-- A text with one character put in place of another. -/
def replaced (old new : Char) (s : String) : String :=
  String.ofList (s.toList.map (Utf8.substitute old new))

theorem toList_replaced (old new : Char) (s : String) :
    (replaced old new s).toList = s.toList.map (Utf8.substitute old new) := by
  rw [replaced, String.toList_ofList]

/-- The character that was replaced is gone. -/
theorem notMem_replaced {old new : Char} (h : old ≠ new) (s : String) :
    old ∉ (replaced old new s).toList := by
  rw [toList_replaced, List.mem_map]
  rintro ⟨c, _, hc⟩
  unfold Utf8.substitute at hc
  split at hc
  · exact h hc.symm
  · next hne => exact hne hc

/-- Of all other characters none is lost and none comes in. -/
theorem mem_replaced {old new x : Char} (ho : x ≠ old) (hn : x ≠ new) (s : String) :
    x ∈ (replaced old new s).toList ↔ x ∈ s.toList := by
  rw [toList_replaced, List.mem_map]
  constructor
  · rintro ⟨c, hc, heq⟩
    unfold Utf8.substitute at heq
    split at heq
    · exact absurd heq.symm hn
    · exact heq ▸ hc
  · intro h
    exact ⟨x, h, if_neg ho⟩

/-- Where the new character was not there before, it can be told from the
others, and the replacement undone. -/
theorem replaced_replaced {old new : Char} {s : String} (h : new ∉ s.toList) :
    replaced new old (replaced old new s) = s := by
  rw [← String.toList_inj, toList_replaced, toList_replaced, List.map_map]
  have hid : ∀ c ∈ s.toList, (Utf8.substitute new old ∘ Utf8.substitute old new) c = c := by
    intro c hc
    have hne : c ≠ new := fun e => h (e ▸ hc)
    show Utf8.substitute new old (Utf8.substitute old new c) = c
    unfold Utf8.substitute
    by_cases ho : c = old
    · rw [if_pos ho, if_pos rfl, ho]
    · rw [if_neg ho, if_neg hne]
  rw [List.map_congr_left hid, List.map_id']

/-- A dotted name with slashes for dots. -/
def slashed (s : String) : String := replaced '.' '/' s

/-- A slashed name with dots for slashes. -/
def dotted (s : String) : String := replaced '/' '.' s

theorem dot_notMem_slashed (s : String) : '.' ∉ (slashed s).toList :=
  notMem_replaced (by decide) s

theorem slash_notMem_dotted (s : String) : '/' ∉ (dotted s).toList :=
  notMem_replaced (by decide) s

theorem dotted_slashed {s : String} (h : '/' ∉ s.toList) : dotted (slashed s) = s :=
  replaced_replaced h

theorem slashed_dotted {s : String} (h : '.' ∉ s.toList) : slashed (dotted s) = s :=
  replaced_replaced h

/-- Names without slashes can be told apart by their slashed forms. -/
theorem slashed_inj {s t : String} (hs : '/' ∉ s.toList) (ht : '/' ∉ t.toList) :
    slashed s = slashed t ↔ s = t := by
  constructor
  · intro h
    rw [← dotted_slashed hs, h, dotted_slashed ht]
  · exact congrArg slashed

/-! ## §2. What a declaration gives. -/

namespace Declaration

/-- Putting a slash for every dot neither adds nor removes a NUL. -/
theorem nul_mem_slashed {q : String} :
    Char.ofNat 0 ∈ (slashed q).toList ↔ Char.ofNat 0 ∈ q.toList :=
  mem_replaced (by decide) (by decide) q

theorem denote_classNameExpr (q : String) :
    (classNameExpr q).denote = Expr.nulFree (slashed q).toList := by
  rw [slashed, toList_replaced]
  rfl

theorem denote_signatureExpr (q : String) :
    (signatureExpr q).denote = (Expr.nulFree (slashed q).toList).bind fun s =>
      Expr.nulFree ('L' :: (s ++ [';'])) := by
  rw [signatureExpr, Expr.denote, Expr.denoteParts, Expr.denoteParts, denote_classNameExpr]
  cases Expr.nulFree (slashed q).toList with
  | error f => rfl
  | ok s => rfl

theorem buildText_eq_ok_iff {e : Expr} {z : ZString} :
    buildText e = .ok z ↔ e.denote = .ok z.text.toList := by
  rw [← Expr.build_eq_ok_iff]
  unfold buildText
  cases e.build with
  | ok z' => simp
  | error f => simp

theorem checkName_eq_ok_iff {q : String} :
    checkName q = .ok () ↔ QualifiedName.check q = .ok () := by
  unfold checkName
  cases QualifiedName.check q with
  | ok => simp
  | error f => simp

/-- The internal name is built exactly from a name without NUL. -/
theorem buildText_className_eq_ok_iff {q : String} {z : ZString} :
    buildText (classNameExpr q) = .ok z
      ↔ Char.ofNat 0 ∉ q.toList ∧ z.text = slashed q := by
  rw [buildText_eq_ok_iff, denote_classNameExpr, Expr.nulFree_eq_ok_iff, nul_mem_slashed,
    String.toList_inj, eq_comm (a := slashed q)]

/-- And so is the descriptor. -/
theorem buildText_signature_eq_ok_iff {q : String} {z : ZString} :
    buildText (signatureExpr q) = .ok z
      ↔ Char.ofNat 0 ∉ q.toList ∧ z.text = "L" ++ slashed q ++ ";" := by
  have htext : ("L" ++ slashed q ++ ";").toList = 'L' :: ((slashed q).toList ++ [';']) := by
    simp
  rw [buildText_eq_ok_iff, denote_signatureExpr, ← String.toList_inj, htext, ← nul_mem_slashed]
  by_cases h : Char.ofNat 0 ∈ (slashed q).toList
  · rw [Expr.nulFree, if_pos h]
    simp [h, Except.bind]
  · have hclass : Expr.nulFree (slashed q).toList = .ok (slashed q).toList :=
      Expr.nulFree_eq_ok_iff.2 ⟨h, rfl⟩
    have hnul : Char.ofNat 0 ∉ 'L' :: ((slashed q).toList ++ [';']) := by
      simp only [List.mem_cons, List.mem_append, List.not_mem_nil, or_false, not_or]
      exact ⟨by decide, h, by decide⟩
    simp only [hclass, Except.bind]
    rw [Expr.nulFree_eq_ok_iff, eq_comm (a := z.text.toList)]
    exact ⟨fun hz => ⟨h, hz.2⟩, fun hz => ⟨hnul, hz.2⟩⟩

/-- **A class is declared exactly if its qualified name is accepted and holds no
NUL**, and all its names follow from that one. -/
theorem declare_eq_ok_iff {kind : Kind} {q : String} {c : ClassConstants} :
    declare kind q = .ok c
      ↔ QualifiedName.check q = .ok () ∧ Char.ofNat 0 ∉ q.toList
        ∧ c.kind = kind ∧ c.qualifiedName = q ∧ c.className.text = slashed q
        ∧ c.signature.text = "L" ++ slashed q ++ ";" := by
  constructor
  · intro h
    unfold declare at h
    cases hcheck : checkName q with
    | error f =>
      rw [hcheck] at h
      cases h
    | ok _ =>
      cases hclass : buildText (classNameExpr q) with
      | error f =>
        rw [hcheck, hclass] at h
        cases h
      | ok className =>
        cases hsignature : buildText (signatureExpr q) with
        | error f =>
          rw [hcheck, hclass, hsignature] at h
          cases h
        | ok signature =>
          rw [hcheck, hclass, hsignature] at h
          obtain rfl := Except.ok.inj h
          obtain ⟨hnul, htext⟩ := buildText_className_eq_ok_iff.1 hclass
          exact ⟨checkName_eq_ok_iff.1 hcheck, hnul, rfl, rfl, htext,
            (buildText_signature_eq_ok_iff.1 hsignature).2⟩
  · rintro ⟨hcheck, hnul, rfl, rfl, hclass, hsignature⟩
    unfold declare
    rw [checkName_eq_ok_iff.2 hcheck, buildText_className_eq_ok_iff.2 ⟨hnul, hclass⟩,
      buildText_signature_eq_ok_iff.2 ⟨hnul, hsignature⟩]
    rfl

/-! ## §3. The three outcomes of a declaration. -/

theorem declare_of_refused (kind : Kind) {q : String} {f : QualifiedName.Fault}
    (h : QualifiedName.check q = .error f) : declare kind q = .error (.name f) := by
  unfold declare checkName
  rw [h]
  rfl

/-- What an expression denotes no text for is not built, for the same fault. -/
theorem buildText_of_denote {e : Expr} {f : TextFault} (h : e.denote = .error f) :
    buildText e = .error (.text f) := by
  have hbuild := Expr.characters_build e
  rw [h] at hbuild
  unfold buildText
  cases hz : e.build with
  | ok z =>
    rw [hz] at hbuild
    cases hbuild
  | error g =>
    rw [hz] at hbuild
    obtain rfl : g = f := Except.error.inj hbuild
    rfl

/-- A NUL passes the check of the name, and is found where the internal name is
terminated. -/
theorem declare_of_nul (kind : Kind) {q : String} (h : QualifiedName.check q = .ok ())
    (hnul : Char.ofNat 0 ∈ q.toList) : declare kind q = .error (.text .notTerminated) := by
  have hdenote : (classNameExpr q).denote = .error .notTerminated := by
    rw [denote_classNameExpr, Expr.nulFree, if_pos (nul_mem_slashed.2 hnul)]
  unfold declare
  rw [checkName_eq_ok_iff.2 h, buildText_of_denote hdenote]
  rfl

/-- One byte is put in place of another, so the number of bytes stays. -/
theorem length_encode_slashed (s : String) :
    (Utf8.encode (slashed s)).length = (Utf8.encode s).length := by
  have hdot : '.'.toNat < 128 := by decide
  have hslash : '/'.toNat < 128 := by decide
  have hbytes := Utf8.map_replaceByte_encode hdot hslash s.toList
  rw [String.ofList_toList] at hbytes
  rw [slashed, replaced, ← hbytes, List.length_map]

/-- Putting a dot for every slash of an internal name builds the qualified
name. -/
theorem exists_build_dotted {z : ZString} {q : String} (hz : z.text = slashed q)
    (hslash : '/' ∉ q.toList) (hnul : Char.ofNat 0 ∉ q.toList) :
    ∃ y, (Expr.replace (.constant z) '/' '.').build = .ok y ∧ y.text = q := by
  have hdotted : z.text.toList.map (Utf8.substitute '/' '.') = q.toList := by
    rw [hz, ← toList_replaced]
    exact congrArg String.toList (dotted_slashed hslash)
  have hdenote : (Expr.replace (.constant z) '/' '.').denote = .ok q.toList := by
    show Expr.nulFree (z.text.toList.map (Utf8.substitute '/' '.')) = _
    rw [hdotted, Expr.nulFree, if_neg hnul]
  obtain ⟨y, hy, htext⟩ := Expr.exists_build hdenote hnul
  exact ⟨y, hy, String.toList_inj.1 htext⟩

/-- The names of the class with the qualified name `q`. -/
structure Names (q : String) (c : ClassConstants) : Prop where
  /-- The qualified name is kept as it is. -/
  qualifiedName : c.qualifiedName = q
  /-- The internal name has a slash for every dot. -/
  className : c.className.text = slashed q
  /-- It has as many bytes as the qualified name. -/
  length : c.className.length = (Utf8.encode q).length
  /-- No dot is left in it. -/
  dot_free : '.' ∉ c.className.text.toList
  /-- The descriptor is the internal name between `L` and a semicolon. -/
  signature : c.signature.text = "L" ++ c.className.text ++ ";"
  /-- With dots for its slashes, the internal name is the qualified name. -/
  undone : ∃ y, (Expr.replace (.constant c.className) '/' '.').build = .ok y ∧ y.text = q

theorem names_of_declare {kind : Kind} {q : String} {c : ClassConstants}
    (h : declare kind q = .ok c) : Names q c := by
  obtain ⟨hcheck, hnul, _, hq, hclass, hsignature⟩ := declare_eq_ok_iff.1 h
  exact {
    qualifiedName := hq
    className := hclass
    length := by
      show (Utf8.encode c.className.text).length = _
      rw [hclass, length_encode_slashed]
    dot_free := by
      rw [hclass]
      exact dot_notMem_slashed q
    signature := by rw [hsignature, hclass]
    undone := exists_build_dotted hclass (QualifiedName.slash_notMem_of_check hcheck) hnul }

/-- A text without NUL can be terminated. -/
theorem exists_text_eq {s : String} (h : Char.ofNat 0 ∉ s.toList) : ∃ z : ZString, z.text = s :=
  ⟨⟨s, _, rfl, mt Utf8.zero_mem_encode.1 h⟩, rfl⟩

theorem exists_declare (kind : Kind) {q : String} (hcheck : QualifiedName.check q = .ok ())
    (hnul : Char.ofNat 0 ∉ q.toList) : ∃ c, declare kind q = .ok c ∧ c.kind = kind := by
  have hslashed : Char.ofNat 0 ∉ (slashed q).toList := mt nul_mem_slashed.1 hnul
  have hsignature : Char.ofNat 0 ∉ ("L" ++ slashed q ++ ";").toList := by
    simp only [String.toList_append, List.mem_append, not_or]
    exact ⟨⟨by decide, hslashed⟩, by decide⟩
  obtain ⟨z, hz⟩ := exists_text_eq hslashed
  obtain ⟨y, hy⟩ := exists_text_eq hsignature
  exact ⟨⟨kind, q, z, y⟩, declare_eq_ok_iff.2 ⟨hcheck, hnul, rfl, rfl, hz, hy⟩, rfl⟩

/-- Equal descriptors hold equal internal names. -/
theorem Names.className_eq {q q' : String} {c c' : ClassConstants} (h : Names q c)
    (h' : Names q' c') (heq : c.signature = c'.signature) : c.className = c'.className := by
  have htext := congrArg (fun z => z.text.toList) heq
  simp only [h.signature, h'.signature, String.toList_append] at htext
  -- what stands in front and behind is the same for both
  have hchars := List.append_cancel_left (List.append_cancel_right htext)
  exact ZString.ext_text (String.toList_inj.1 hchars)

/-- **A declaration has three outcomes.**  It is refused for its qualified name;
else for a NUL, which the check of the name lets through; else it succeeds, with
names that all follow from the qualified name, and that tell it apart from
every other. -/
theorem declare_outcome (kind : Kind) (q : String) :
    (∀ f, QualifiedName.check q = .error f → declare kind q = .error (.name f))
      ∧ (QualifiedName.check q = .ok () → Char.ofNat 0 ∈ q.toList →
          declare kind q = .error (.text .notTerminated)
            ∧ Fault.message (.text .notTerminated) = "Buffer must end with its only NUL byte")
      ∧ (QualifiedName.check q = .ok () → Char.ofNat 0 ∉ q.toList →
          ∃ c, declare kind q = .ok c ∧ c.kind = kind ∧ Names q c)
      ∧ ∀ kind' q' c c', declare kind q = .ok c → declare kind' q' = .ok c' →
          c.className = c'.className ∨ c.signature = c'.signature → q = q' := by
  refine ⟨fun f => declare_of_refused kind, ?_, ?_, ?_⟩
  · intro hcheck hnul
    exact ⟨declare_of_nul kind hcheck hnul, rfl⟩
  · intro hcheck hnul
    obtain ⟨c, hc, hkind⟩ := exists_declare kind hcheck hnul
    exact ⟨c, hc, hkind, names_of_declare hc⟩
  · intro kind' q' c c' hc hc' heq
    have hnames := names_of_declare hc
    have hnames' := names_of_declare hc'
    have hclass : c.className = c'.className := by
      rcases heq with heq | heq
      · exact heq
      · exact hnames.className_eq hnames' heq
    have hslash := QualifiedName.slash_notMem_of_check (declare_eq_ok_iff.1 hc).1
    have hslash' := QualifiedName.slash_notMem_of_check (declare_eq_ok_iff.1 hc').1
    rw [← slashed_inj hslash hslash', ← hnames.className, ← hnames'.className, hclass]

/-- A name beyond ASCII is declared, a NUL in its second segment is refused, and
a slash in front of the NUL comes first. -/
theorem cyrillicName_declared :
    (∃ c, declare .native "пример.Тест" = .ok c ∧ c.kind = .native ∧ Names "пример.Тест" c)
      ∧ (declare .native "a.\x00" = .error (.text .notTerminated)
        ∧ Fault.message (.text .notTerminated) = "Buffer must end with its only NUL byte")
      ∧ declare .native "a/\x00" = .error (.name .wrongSeparator) := by
  obtain ⟨-, -, hdeclared, -⟩ := declare_outcome .native "пример.Тест"
  obtain ⟨-, hnul, -, -⟩ := declare_outcome .native "a.\x00"
  obtain ⟨hrefused, -, -, -⟩ := declare_outcome .native "a/\x00"
  exact ⟨hdeclared rfl (by decide), hnul rfl (by decide), hrefused _ rfl⟩

end Declaration
end ClassBridge
