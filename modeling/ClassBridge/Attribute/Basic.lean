/-
  ClassBridge.Attribute.Basic
  ───────────────────────────
  **Attributes of a declared class.**

  An item carries attributes; those named `jbind` hold parameters, which are
  flags and named texts.  `Attributes.read` goes through them in order and
  stops at the first that makes no sense:

      an attribute that holds no list of parameters, or an unknown literal in
      it, before any of its parameters is looked at; then, parameter by
      parameter, a flag or a name that is not one word, a value that is not a
      string, and anything else
-/
import ClassBridge.Source.Token

namespace ClassBridge

/-- Words separated by double colons. -/
structure Path where
  /-- Whether the path begins with a double colon. -/
  rooted : Bool
  /-- The words. -/
  segments : List String
  deriving Repr, DecidableEq

/-- The word that a path consists of. -/
def Path.word? (p : Path) : Option String :=
  match p.rooted, p.segments with
  | false, [w] => some w
  | _, _ => none

/-- A parameter of an attribute. -/
inductive Param where
  /-- A path alone. -/
  | flag (path : Path)
  /-- A path and a literal; `none` is a literal that is not a string. -/
  | value (name : Path) (text : Option TextLiteral)
  /-- A list behind a path, or a literal alone. -/
  | other
  deriving Repr, DecidableEq

namespace Attribute

/-- Why attributes cannot be read. -/
inductive Fault where
  /-- A literal is of an unknown kind. -/
  | unknownLiteral (source : String)
  /-- An attribute holds no list of parameters. -/
  | notList
  /-- A flag is not one word. -/
  | invalidFlag
  /-- A name is not one word. -/
  | invalidName
  /-- A value is not a string. -/
  | notText (name : String)
  /-- A parameter is neither a flag nor a named value. -/
  | invalidParameter
  deriving Repr, DecidableEq

/-- The text of a fault. -/
def Fault.message : Fault → String
  | .unknownLiteral source => "Unrecognized literal: `" ++ source ++ "`"
  | .notList => "Expected a list of parameters in jbind attribute"
  | .invalidFlag => "Invalid jbind flag"
  | .invalidName => "Invalid jbind parameter name"
  | .notText name => "jbind(" ++ name ++ " = ...) expects a string literal"
  | .invalidParameter => "Invalid parameter in jbind attribute"

end Attribute

/-- An attribute: its path, and its parameters or why there are none. -/
structure Attribute where
  path : Path
  params : Except Attribute.Fault (List Param)

namespace Attribute

/-- The name of the attributes that are read. -/
def keyword : String := "jbind"

/-- Whether the attribute is read at all. -/
def isRead (a : Attribute) : Bool := a.path.word? == some keyword

/-- An attribute that is read, with the given parameters. -/
def list (params : List Param) : Attribute := ⟨⟨false, [keyword]⟩, .ok params⟩

end Attribute

/-- What the attributes of an item say. -/
structure Attributes where
  /-- The flags. -/
  flags : List String := []
  /-- The named texts, the latest first. -/
  values : List (String × TextLiteral) := []
  deriving Repr, DecidableEq

namespace Attributes

open Attribute (Fault)

/-- Whether a flag is set. -/
def hasFlag (a : Attributes) (flag : String) : Bool := a.flags.contains flag

/-- The latest text of a name. -/
def value? (a : Attributes) (name : String) : Option TextLiteral := a.values.lookup name

/-- Reads one more parameter. -/
def addParam (a : Attributes) : Param → Except Fault Attributes
  | .flag path =>
    match path.word? with
    | some flag => .ok { a with flags := a.flags ++ [flag] }
    | none => .error .invalidFlag
  | .value path text =>
    match path.word?, text with
    | none, _ => .error .invalidName
    | some name, none => .error (.notText name)
    | some name, some t => .ok { a with values := (name, t) :: a.values }
  | .other => .error .invalidParameter

/-- Reads more parameters, up to the first fault. -/
def addParams (a : Attributes) : List Param → Except Fault Attributes
  | [] => .ok a
  | p :: rest =>
    match a.addParam p with
    | .ok a => a.addParams rest
    | .error f => .error f

/-- Reads one more attribute. -/
def addAttribute (a : Attributes) (attr : Attribute) : Except Fault Attributes :=
  if attr.isRead then
    match attr.params with
    | .ok params => a.addParams params
    | .error f => .error f
  else .ok a

/-- Reads more attributes, up to the first fault. -/
def addAttributes (a : Attributes) : List Attribute → Except Fault Attributes
  | [] => .ok a
  | attr :: rest =>
    match a.addAttribute attr with
    | .ok a => a.addAttributes rest
    | .error f => .error f

/-- What a list of attributes says, or the first fault. -/
def read (attributes : List Attribute) : Except Fault Attributes :=
  addAttributes {} attributes

end Attributes
end ClassBridge
