/-
  ClassBridge.Proofs.Text.Equality
  ────────────────────────────────
  **Texts that are equal look the same, and others are told apart by their
  hashes' input.**

  Equality asks for the text alone.  The buffer belongs to the text, so whatever
  is read from equal texts is equal too (`SameViews`).

  A hasher is fed the bytes of a text and a mark, `ff`.  No byte of a text goes
  beyond `f4`, so the first mark is where the text ends, whatever is fed after
  it:

      untilMark (x.hashBytes ++ behind) = (x.bytes, behind)

  Texts that are fed one after another are therefore read back one by one
  (`fed_prefix_iff`), also where one of them begins like another.
-/
import ClassBridge.Proofs.Text.WellFormed

namespace ClassBridge

/-! ## §1. Bytes that no text has. -/

namespace Utf8

/-- First bytes end at `f4`, all others before. -/
theorem CharBytes.le {bytes : List UInt8} (h : CharBytes bytes) :
    ∀ b ∈ bytes, b.toNat ≤ 0xF4 := by
  cases h with
  | one ha =>
    simp only [List.mem_singleton, forall_eq]
    omega
  | two ha hb =>
    unfold IsTail at hb
    simp only [List.mem_cons, List.not_mem_nil, or_false, forall_eq_or_imp, forall_eq]
    omega
  | three ha hb hc =>
    unfold IsTail at hb hc
    simp only [List.mem_cons, List.not_mem_nil, or_false, forall_eq_or_imp, forall_eq]
    omega
  | four ha hb hc hd =>
    unfold IsTail at hb hc hd
    simp only [List.mem_cons, List.not_mem_nil, or_false, forall_eq_or_imp, forall_eq]
    omega

theorem WellFormed.le {bytes : List UInt8} (h : WellFormed bytes) :
    ∀ b ∈ bytes, b.toNat ≤ 0xF4 := by
  induction h with
  | nil => nofun
  | append hf _ ih =>
    intro b hb
    rcases List.mem_append.1 hb with hb | hb
    · exact hf.le b hb
    · exact ih b hb

/-- The mark is no byte of a text. -/
theorem ff_notMem_encode (s : String) : 0xff ∉ encode s := by
  intro h
  have hle := (wellFormed_iff.2 ⟨s, rfl⟩).le 0xff h
  exact absurd hle (by decide)

theorem encode_inj {s t : String} : encode s = encode t ↔ s = t := by
  constructor
  · intro h
    have hdecode := decode?_encode s
    rw [h, decode?_encode] at hdecode
    exact (Option.some.inj hdecode).symm
  · exact congrArg encode

end Utf8

namespace ZString

/-! ## §2. What is read from equal texts. -/

/-- Nothing that can be read from two texts tells them apart. -/
structure SameViews (x y : ZString) : Prop where
  text : x.text = y.text
  bytes : x.bytes = y.bytes
  bytesWithNul : x.bytesWithNul = y.bytesWithNul
  cString : x.cString = y.cString
  length : x.length = y.length
  isEmpty : x.isEmpty = y.isEmpty

theorem eq_of_beq {x y : ZString} (h : (x == y) = true) : x = y :=
  ext_text (beq_iff.1 h)

theorem beq_iff_eq {x y : ZString} : (x == y) = true ↔ x = y :=
  ⟨eq_of_beq, fun h => beq_iff.2 (congrArg text h)⟩

theorem sameViews_of_beq {x y : ZString} (h : (x == y) = true) : SameViews x y := by
  obtain rfl := eq_of_beq h
  exact ⟨rfl, rfl, rfl, rfl, rfl, rfl⟩

/-! ## §3. What a hasher is fed. -/

/-- The bytes up to the first mark, and those behind it. -/
def untilMark (fed : List UInt8) : List UInt8 × List UInt8 :=
  (fed.takeWhile (· ≠ 0xff), (fed.dropWhile (· ≠ 0xff)).tail)

/-- **The text that was fed first ends at the first mark.** -/
theorem untilMark_hashBytes (x : ZString) (behind : List UInt8) :
    untilMark (x.hashBytes ++ behind) = (x.bytes, behind) := by
  have hall : ∀ b ∈ Utf8.encode x.text, decide (b ≠ 0xff) = true := by
    intro b hb
    apply decide_eq_true
    rintro rfl
    exact Utf8.ff_notMem_encode x.text hb
  have hfed : x.hashBytes ++ behind = Utf8.encode x.text ++ 0xff :: behind :=
    List.append_assoc _ _ _
  rw [hfed, untilMark, List.takeWhile_append_of_pos hall, List.dropWhile_append_of_pos hall,
    List.takeWhile_cons_of_neg (by decide), List.dropWhile_cons_of_neg (by decide),
    List.append_nil, List.tail_cons]
  rfl

/-- The first text and what is fed after it are both known from all that is fed. -/
theorem hashBytes_append_inj {x y : ZString} {behind behind' : List UInt8} :
    x.hashBytes ++ behind = y.hashBytes ++ behind' ↔ x = y ∧ behind = behind' := by
  constructor
  · -- both sides are read up to their first marks
    intro h
    have hread := congrArg untilMark h
    rw [untilMark_hashBytes, untilMark_hashBytes, Prod.mk.injEq] at hread
    exact ⟨ext_text (Utf8.encode_inj.1 hread.1), hread.2⟩
  · rintro ⟨rfl, rfl⟩
    rfl

theorem hashBytes_prefix_iff {x y : ZString} : x.hashBytes <+: y.hashBytes ↔ x = y := by
  constructor
  · rintro ⟨behind, h⟩
    rw [← List.append_nil y.hashBytes, hashBytes_append_inj] at h
    exact h.1
  · rintro rfl
    exact List.prefix_refl _

/-! ## §4. Texts fed one after another. -/

/-- All bytes that are fed for some texts, in order. -/
def fed (xs : List ZString) : List UInt8 := xs.flatMap hashBytes

theorem fed_cons (x : ZString) (xs : List ZString) : fed (x :: xs) = x.hashBytes ++ fed xs :=
  List.flatMap_cons

theorem fed_cons_ne_nil (x : ZString) (xs : List ZString) : fed (x :: xs) ≠ [] := by
  simp [fed, hashBytes, hashBytesOfText]

/-- **What is fed for some texts begins like what is fed for others exactly if
the texts themselves do.** -/
theorem fed_prefix_iff {xs ys : List ZString} : fed xs <+: fed ys ↔ xs <+: ys := by
  induction xs generalizing ys with
  | nil => exact iff_of_true List.nil_prefix List.nil_prefix
  | cons x xs ih =>
    cases ys with
    | nil =>
      refine iff_of_false ?_ ?_
      · exact fun h => fed_cons_ne_nil x xs (List.prefix_nil.1 h)
      · exact fun h => List.cons_ne_nil x xs (List.prefix_nil.1 h)
    | cons y ys =>
      rw [List.cons_prefix_cons, ← ih, fed_cons, fed_cons]
      constructor
      · -- the first marks are the same, so the first texts are, and the rest follows
        rintro ⟨behind, h⟩
        rw [List.append_assoc, hashBytes_append_inj] at h
        exact ⟨h.1, behind, h.2⟩
      · rintro ⟨rfl, behind, h⟩
        exact ⟨behind, by rw [List.append_assoc, h]⟩

theorem fed_inj {xs ys : List ZString} : fed xs = fed ys ↔ xs = ys := by
  constructor
  · intro h
    have hxy := fed_prefix_iff.1 (h ▸ List.prefix_refl (fed xs) : fed xs <+: fed ys)
    have hyx := fed_prefix_iff.1 (h ▸ List.prefix_refl (fed ys) : fed ys <+: fed xs)
    exact hxy.eq_of_length_le hyx.length_le
  · exact congrArg fed

/-- **Equality is that of the texts, and so is the input of a hash.**  Whether
two terminated texts are compared, or one with a plain text on either side, it
is the texts that are asked for, and nothing read from equal texts tells them
apart.  A hasher is fed what the text alone would feed it: the same for equal
texts, and for others bytes neither of which begin like the other, so that texts
fed one after another are known one by one. -/
theorem equality_and_hashing (x y : ZString) :
    ((x == y) = true ↔ x.text = y.text)
      ∧ (∀ s, (x.isText s = true ↔ x.text = s) ∧ (isTextOf s x = true ↔ s = x.text))
      ∧ ((x == y) = true → SameViews x y)
      ∧ (x.hashBytes = hashBytesOfText x.text ∧ x.hashBytes = x.bytes ++ [0xff])
      ∧ ((x == y) = true → x.hashBytes = y.hashBytes)
      ∧ (¬ (x == y) = true → ¬ x.hashBytes <+: y.hashBytes ∧ ¬ y.hashBytes <+: x.hashBytes)
      ∧ ∀ xs ys : List ZString,
          (fed xs = fed ys ↔ xs = ys) ∧ (fed xs <+: fed ys ↔ xs <+: ys) := by
  refine ⟨beq_iff, fun s => ⟨isText_iff, isTextOf_iff⟩, sameViews_of_beq, ⟨rfl, rfl⟩, ?_, ?_, ?_⟩
  · exact fun h => congrArg hashBytes (eq_of_beq h)
  · intro h
    rw [hashBytes_prefix_iff, hashBytes_prefix_iff]
    exact ⟨fun heq => h (beq_iff_eq.2 heq), fun heq => h (beq_iff_eq.2 heq.symm)⟩
  · exact fun _ _ => ⟨fed_inj, fed_prefix_iff⟩

/-- A text that begins like another does not feed a hasher bytes that begin like
those of the other. -/
theorem map_and_maps_apart :
    ¬ (constant "map" == constant "maps") = true
      ∧ ¬ (constant "map").hashBytes <+: (constant "maps").hashBytes
      ∧ (constant "map" == constant "map") = true
      ∧ SameViews (constant "map") (constant "map") := by
  have hne : ¬ (constant "map" == constant "maps") = true := by decide
  obtain ⟨-, -, -, -, -, hapart, -⟩ := equality_and_hashing (constant "map") (constant "maps")
  obtain ⟨-, -, hviews, -⟩ := equality_and_hashing (constant "map") (constant "map")
  exact ⟨hne, (hapart hne).1, rfl, hviews rfl⟩

end ZString
end ClassBridge
