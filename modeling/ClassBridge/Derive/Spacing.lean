/-
  ClassBridge.Derive.Spacing
  ──────────────────────────
  **Parameters and conditions as they are written in a declaration.**

  Bounds, types and conditions are read as phrases, so how they are spaced in
  the declaration does not matter, unless they have no form of their own.
-/
import ClassBridge.Derive.Generics
import ClassBridge.Source.Phrase

namespace ClassBridge

/-- A phrase that may be missing, with the spaces that belong to it. -/
def Phrase.maybeRespaced (p : Phrase) (tokens : List Token) : Except Misfit (List Token) :=
  if tokens.isEmpty then .ok [] else p.respaced tokens

/-- The parameter with its phrases re-spaced, if they fit. -/
def GenericParam.respaced : GenericParam → Except Misfit GenericParam
  | .lifetime name bounds => do
    return .lifetime name (← (Phrase.bounds true).maybeRespaced bounds)
  | .type name bounds other => do
    return .type name (← Phrase.parameterBounds.respaced bounds)
      (← (Phrase.type true).maybeRespaced other)
  | .constant name sort other => do
    return .constant name (← (Phrase.type true).respaced sort)
      (← (Phrase.expression true).maybeRespaced other)

/-- Parameters and conditions with their phrases re-spaced, if they fit. -/
def Generics.respaced (g : Generics) : Except Misfit Generics := do
  return ⟨← g.params.mapM GenericParam.respaced, ← Phrase.conditions.respaced g.conditions⟩

end ClassBridge
