/-
  ClassBridge.Proofs.Derive.Respacing
  ───────────────────────────────────
  **What spacing parameters and conditions anew leaves as it is.**

  The phrases of a declaration may change when they are spaced anew: parts of
  them are moved, and some are left out.  Two things do not:

      the parameters        their names, their sorts and their order, so that
                            the type is named as before
      what is spelled out   where a parameter is introduced, and in the
                            conditions, no word and no literal is made up

  Main statement: `Generics.respaced_keeps`.
-/
import ClassBridge.Derive.Spacing
import Mathlib.Data.List.Forall2

namespace ClassBridge

/-! ## §1. Tokens made from others. -/

namespace Token

theorem leavesOf_separated (parts : List (List Token)) :
    leavesOf (separated parts) = parts.flatMap leavesOf := by
  unfold separated
  induction parts with
  | nil => rfl
  | cons part parts ih =>
    cases parts with
    | nil => simp
    | cons next parts =>
      have hcomma : leavesOf comma = [] := leavesOf_mark [',']
      rw [List.intersperse_cons_cons, List.flatten_cons, List.flatten_cons, leavesOf_append,
        leavesOf_append, hcomma, List.nil_append, ih]
      rfl

theorem Writable.mono {given given' : List Token} (h : leavesOf given ⊆ leavesOf given')
    {leaf : Token} (hleaf : Writable given leaf) : Writable given' leaf := by
  cases hleaf with
  | own hmem => exact .own (h hmem)
  | underscore => exact .underscore
  | decimal n => exact .decimal n

end Token

open Token (leavesOf Writable MadeFrom)

/-! ## §2. One phrase. -/

theorem Phrase.madeFrom_of_maybeRespaced {p : Phrase} {tokens written : List Token}
    (h : p.maybeRespaced tokens = .ok written) : MadeFrom tokens written := by
  unfold maybeRespaced at h
  split at h
  · obtain rfl : [] = written := Except.ok.inj h
    intro leaf hleaf
    cases hleaf
  · exact madeFrom_of_respaced h

/-- Without conditions there are none. -/
theorem Phrase.respaced_conditions_nil : Phrase.conditions.respaced [] = .ok [] := rfl

/-! ## §3. One parameter. -/

namespace GenericParam

/-- What a parameter has in common with what it becomes. -/
structure Keeps (p p' : GenericParam) : Prop where
  /-- Its name. -/
  bareName : p'.bareName = p.bareName
  /-- Whether it is a lifetime. -/
  isLifetime : p'.isLifetime = p.isLifetime
  /-- The words and literals that introduce it. -/
  introduction : MadeFrom p.introduction p'.introduction

theorem leavesOf_bounded (front bounds : List Token) :
    leavesOf (bounded front bounds) = leavesOf front ++ leavesOf bounds := by
  unfold bounded
  cases bounds with
  | nil => simp [leavesOf]
  | cons t bounds =>
    rw [if_neg (by simp), Token.leavesOf_append, Token.leavesOf_append]
    show leavesOf front ++ [] ++ _ = _
    rw [List.append_nil]

theorem madeFrom_bounded {front bounds bounds' : List Token} (h : MadeFrom bounds bounds') :
    MadeFrom (bounded front bounds) (bounded front bounds') := by
  intro leaf hleaf
  rw [leavesOf_bounded, List.mem_append] at hleaf
  rcases hleaf with hfront | hbounds
  · refine .own ?_
    rw [leavesOf_bounded]
    exact List.mem_append_left _ hfront
  · refine (h leaf hbounds).mono ?_
    rw [leavesOf_bounded]
    exact List.subset_append_right _ _

theorem exists_of_bind {α β : Type} {x : Except Misfit α} {f : α → Except Misfit β} {b : β}
    (h : x >>= f = .ok b) : ∃ a, x = .ok a ∧ f a = .ok b := by
  cases x with
  | error e => cases h
  | ok a => exact ⟨a, rfl, h⟩

/-- A parameter keeps its name and its sort; only the phrases behind its name are
written anew. -/
theorem keeps_of_respaced {p p' : GenericParam} (h : p.respaced = .ok p') : Keeps p p' := by
  cases p with
  | lifetime name bounds =>
    obtain ⟨bounds', hbounds, hp⟩ := exists_of_bind h
    obtain rfl := Except.ok.inj hp
    exact ⟨rfl, rfl, madeFrom_bounded (Phrase.madeFrom_of_maybeRespaced hbounds)⟩
  | type name bounds other =>
    obtain ⟨bounds', hbounds, hrest⟩ := exists_of_bind h
    obtain ⟨other', _, hp⟩ := exists_of_bind hrest
    obtain rfl := Except.ok.inj hp
    exact ⟨rfl, rfl, madeFrom_bounded (Phrase.madeFrom_of_respaced hbounds)⟩
  | constant name sort other =>
    obtain ⟨sort', hsort, hrest⟩ := exists_of_bind h
    obtain ⟨other', _, hp⟩ := exists_of_bind hrest
    obtain rfl := Except.ok.inj hp
    exact ⟨rfl, rfl, madeFrom_bounded (Phrase.madeFrom_of_respaced hsort)⟩

/-- Parameters are spaced anew one by one. -/
theorem forall₂_keeps {ps ps' : List GenericParam} (h : ps.mapM respaced = .ok ps') :
    List.Forall₂ Keeps ps ps' := by
  induction ps generalizing ps' with
  | nil =>
    obtain rfl : [] = ps' := Except.ok.inj h
    exact .nil
  | cons p ps ih =>
    rw [List.mapM_cons] at h
    obtain ⟨p', hp, hrest⟩ := exists_of_bind h
    obtain ⟨rest', hps, hret⟩ := exists_of_bind hrest
    obtain rfl := Except.ok.inj hret
    exact .cons (keeps_of_respaced hp) (ih hps)

theorem exists_keeps {ps ps' : List GenericParam} (h : List.Forall₂ Keeps ps ps')
    {p' : GenericParam} (hp' : p' ∈ ps') : ∃ p ∈ ps, Keeps p p' := by
  induction h with
  | nil => cases hp'
  | @cons p q ps ps' hpq _ ih =>
    rcases List.mem_cons.1 hp' with rfl | hmem
    · exact ⟨p, List.mem_cons_self, hpq⟩
    · obtain ⟨r, hr, hkeeps⟩ := ih hmem
      exact ⟨r, List.mem_cons_of_mem p hr, hkeeps⟩

end GenericParam

/-! ## §4. All parameters and conditions. -/

namespace Generics

/-- The sort of a parameter and its name, which is all that is written behind the
name of the type. -/
def nameOf (p : GenericParam) : Bool × Token := (p.isLifetime, p.bareName)

theorem map_nameOf_eq {ps ps' : List GenericParam} (h : List.Forall₂ GenericParam.Keeps ps ps') :
    ps'.map nameOf = ps.map nameOf := by
  induction h with
  | nil => rfl
  | cons hp _ ih => rw [List.map_cons, List.map_cons, ih, nameOf, hp.isLifetime, hp.bareName]; rfl

theorem mem_ordered {g : Generics} {p : GenericParam} : p ∈ g.ordered ↔ p ∈ g.params := by
  unfold ordered
  cases hp : p.isLifetime <;> simp [hp]

/-- What stands between the angle brackets. -/
theorem leavesOf_angled (g : Generics) (f : GenericParam → List Token) :
    leavesOf (g.angled f) = g.ordered.flatMap fun p => leavesOf (f p) := by
  have hcomma : leavesOf (if g.endsInLifetime then Token.comma else []) = [] := by
    split
    · exact Token.leavesOf_mark [',']
    · rfl
  unfold angled
  by_cases hg : g.params.isEmpty = true
  · rw [if_pos hg, ordered, List.isEmpty_iff.1 hg]
    rfl
  · rw [if_neg hg, Token.leavesOf_append, Token.leavesOf_append, Token.leavesOf_append, hcomma,
      Token.leavesOf_separated, List.flatMap_map, List.append_nil]
    exact List.append_nil _

theorem map_bareName_ordered (g : Generics) :
    g.ordered.map GenericParam.bareName
      = ((g.params.map nameOf).filter (·.1) ++ (g.params.map nameOf).filter (!·.1)).map (·.2) := by
  simp [ordered, List.filter_map, nameOf, Function.comp_def]

theorem endsInLifetime_eq (g : Generics) :
    g.endsInLifetime
      = ((g.params.map nameOf).any (!·.1) && (g.params.map nameOf).getLast?.any (·.1)) := by
  rw [endsInLifetime, List.any_map, List.getLast?_map]
  cases g.params.getLast? <;> rfl

/-- Parameters with the same names are written alike behind the name of the
type. -/
theorem arguments_eq {g g' : Generics} (h : g'.params.map nameOf = g.params.map nameOf) :
    g'.arguments = g.arguments := by
  have hnames : ∀ k : Generics, (k.ordered.map fun p => [p.bareName])
      = (k.ordered.map GenericParam.bareName).map fun t => [t] := by
    intro k
    rw [List.map_map]
    rfl
  have hempty : g'.params.isEmpty = g.params.isEmpty := by
    simpa using congrArg List.isEmpty h
  unfold arguments angled
  rw [hempty, hnames, hnames, map_bareName_ordered, map_bareName_ordered, endsInLifetime_eq,
    endsInLifetime_eq, h]

theorem madeFrom_introduction {g g' : Generics}
    (h : List.Forall₂ GenericParam.Keeps g.params g'.params) :
    MadeFrom g.introduction g'.introduction := by
  intro leaf hleaf
  unfold introduction at hleaf ⊢
  rw [leavesOf_angled, List.mem_flatMap] at hleaf
  obtain ⟨p', hp', hleaf⟩ := hleaf
  obtain ⟨p, hp, hkeeps⟩ := GenericParam.exists_keeps h (mem_ordered.1 hp')
  refine (hkeeps.introduction leaf hleaf).mono ?_
  intro own hown
  rw [leavesOf_angled, List.mem_flatMap]
  exact ⟨p, mem_ordered.2 hp, hown⟩

theorem madeFrom_whereClause {g g' : Generics}
    (h : Phrase.conditions.respaced g.conditions = .ok g'.conditions) :
    MadeFrom g.whereClause g'.whereClause := by
  have hmade := Phrase.madeFrom_of_respaced h
  intro leaf hleaf
  unfold whereClause at hleaf ⊢
  cases hg : g.conditions with
  | nil =>
    -- where there are no conditions, none are written
    rw [hg, Phrase.respaced_conditions_nil] at h
    rw [← Except.ok.inj h] at hleaf
    cases hleaf
  | cons t rest =>
    rw [hg] at hmade
    split at hleaf
    · cases hleaf
    · rcases List.mem_cons.1 hleaf with rfl | hleaf
      · exact .own List.mem_cons_self
      · have hsub : leavesOf (t :: rest) ⊆ leavesOf ([.word "where"] ++ (t :: rest)) :=
          List.subset_cons_self _ _
        exact (hmade leaf hleaf).mono hsub

/-- **Spacing declares nothing new.**  The type is named with the same parameters,
and neither their introduction nor the conditions hold a word or a literal that
was not there. -/
theorem respaced_keeps {g g' : Generics} (h : g.respaced = .ok g') :
    g'.arguments = g.arguments
      ∧ MadeFrom g.introduction g'.introduction
      ∧ MadeFrom g.whereClause g'.whereClause := by
  obtain ⟨params', hparams, hrest⟩ := GenericParam.exists_of_bind h
  obtain ⟨conditions', hconditions, hret⟩ := GenericParam.exists_of_bind hrest
  obtain rfl := Except.ok.inj hret
  have hkeeps := GenericParam.forall₂_keeps hparams
  exact ⟨arguments_eq (map_nameOf_eq hkeeps), madeFrom_introduction hkeeps,
    madeFrom_whereClause hconditions⟩

end Generics
end ClassBridge
