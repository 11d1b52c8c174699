/-
  ClassBridge.Derive.Generics
  ───────────────────────────
  **Parameters and conditions of a generic type.**

  What is generated for a generic type repeats its parameters twice: with
  their bounds where they are introduced, and as bare names where the type is
  named.  Lifetimes come first in both; defaults are dropped.  Each parameter
  keeps the comma that stands behind it in the declaration, so a lifetime that
  is declared last, behind other parameters, makes the list end in a comma.
  Bounds, types and conditions are tokens as whoever reads the declaration
  hands them over.
-/
import ClassBridge.Source.Token

namespace ClassBridge

/-- A parameter of a generic type. -/
inductive GenericParam where
  /-- A lifetime and the lifetimes that it outlives. -/
  | lifetime (name : String) (bounds : List Token)
  /-- A type, what it must satisfy, and its default. -/
  | type (name : String) (bounds default : List Token)
  /-- A constant of some type, and its default. -/
  | constant (name : String) (type default : List Token)

namespace GenericParam

/-- Whether the parameter is a lifetime. -/
def isLifetime : GenericParam → Bool
  | .lifetime _ _ => true
  | _ => false

/-- The bare name of a parameter. -/
def bareName : GenericParam → Token
  | .lifetime name _ => .lifetime name
  | .type name _ _ => .word name
  | .constant name _ _ => .word name

/-- A parameter with its bounds, if there are any. -/
def bounded (front bounds : List Token) : List Token :=
  if bounds.isEmpty then front else front ++ [.punct ':' false] ++ bounds

/-- A parameter where it is introduced, without its default. -/
def introduction : GenericParam → List Token
  | .lifetime name bounds => bounded [.lifetime name] bounds
  | .type name bounds _ => bounded [.word name] bounds
  | .constant name sort _ => bounded [.word "const", .word name] sort

end GenericParam

/-- The parameters of a type and the conditions on them. -/
structure Generics where
  params : List GenericParam := []
  conditions : List Token := []

namespace Generics

/-- The parameters in the order in which they are written. -/
def ordered (g : Generics) : List GenericParam :=
  g.params.filter GenericParam.isLifetime
    ++ g.params.filter fun p => !p.isLifetime

/-- Whether a lifetime is declared last, behind parameters of another sort. -/
def endsInLifetime (g : Generics) : Bool :=
  g.params.any (fun p => !p.isLifetime) && g.params.getLast?.any GenericParam.isLifetime

/-- The parameters between angle brackets, each written by `f`, or nothing. -/
def angled (g : Generics) (f : GenericParam → List Token) : List Token :=
  if g.params.isEmpty then []
  else
    [.punct '<' false] ++ Token.separated (g.ordered.map f)
      ++ (if g.endsInLifetime then Token.comma else []) ++ [.punct '>' false]

/-- The parameters where they are introduced. -/
def introduction (g : Generics) : List Token :=
  g.angled GenericParam.introduction

/-- The parameters behind the name of the type. -/
def arguments (g : Generics) : List Token :=
  g.angled fun p => [p.bareName]

/-- The conditions behind their word, or nothing. -/
def whereClause (g : Generics) : List Token :=
  if g.conditions.isEmpty then [] else [.word "where"] ++ g.conditions

end Generics
end ClassBridge
