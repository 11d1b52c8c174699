/-
  ClassBridge.Source.Phrase.Declaration
  ─────────────────────────────────────
  **Declarations.**

  Constants, variables, functions, types, traits and their implementations,
  modules, imports, and invocations that declare something.  What changes:

      a visibility in front of a variant   disappears
      the conditions of a type in a trait or in an implementation
                                           come behind its value

  A declaration that is incomplete where it stands, or complete where it must
  not be, stays as it was written.
-/
import ClassBridge.Source.Phrase.Parameter

namespace ClassBridge.Phrase

open Reader

variable {given : List Token} (rec : Readers given)

/-! ## §1. Structures, unions and enumerations. -/

/-- A name, or an underscore in place of one. -/
def nameOrUnderscore : Rewriter given := do
  if ← sees (startsWith "_") then word "_" else name

/-- Fields with names. -/
def namedFields : Rewriter given :=
  group .brace (listOf (seq [attributes, visibility, nameOrUnderscore, punct ":",
    rec (.type true)]))

/-- Fields without names. -/
def unnamedFields : Rewriter given :=
  group .parenthesis (listOf (seq [attributes, visibility, rec (.type true)]))

/-- A structure. -/
def structDeclaration : Rewriter given :=
  seq [visibility, word "struct", name, genericParameters rec, do
    if ← sees (startsGroup .parenthesis) then
      seq [unnamedFields rec, whereConditions rec, punct ";"]
    else
      seq [whereConditions rec, do
        if ← sees (startsGroup .brace) then namedFields rec else punct ";"]]

/-- A union. -/
def unionDeclaration : Rewriter given :=
  seq [visibility, word "union", name, genericParameters rec, whereConditions rec,
    namedFields rec]

/-- A variant of an enumeration, without its visibility. -/
def variant : Rewriter given := do
  let front ← attributes
  let _ ← visibility
  return front ++ (← seq [name, do
    if ← sees (startsGroup .brace) then namedFields rec
    else ifSeen (startsGroup .parenthesis) (unnamedFields rec),
    ifSeen (starts "=") (seq [punct "=", rec (.expression true)])])

/-- An enumeration. -/
def enumDeclaration : Rewriter given :=
  seq [visibility, word "enum", name, genericParameters rec, whereConditions rec,
    group .brace (listOf (variant rec))]

/-! ## §2. Constants and types. -/

/-- A value behind an equals sign. -/
def equalsValue : Rewriter given := seq [punct "=", rec (.expression true)]

/-- A constant, or a variable that lives forever, in the given place: it stays
as it was written without a value, and a variable also without a type. -/
def constant (start : Tokens given) : Reader given (Reading given) := do
  let front ← seq [visibility, next (startsWithAny ["const", "static"]), maybeWord "mut",
    nameOrUnderscore]
  if ← sees (starts "=") then asIs start (seq [equalsValue rec, punct ";"])
  else
    let typed ← seq [punct ":", rec (.type true)]
    if ← sees (starts ";") then asIs start (punct ";")
    else return ⟨front ++ typed ++ (← seq [equalsValue rec, punct ";"]), false⟩

/-- The parts of the declaration of a type behind its name. -/
structure TypeParts (given : List Token) where
  /-- Its generic parameters. -/
  generics : Tokens given
  /-- The colon and the bounds behind it, if there are any. -/
  bounds : Tokens given
  /-- Its conditions. -/
  conditions : Tokens given
  /-- The equals sign and its value, if it has one. -/
  value : Tokens given
  /-- Whether it consists of its name only. -/
  isBare : Bool
  /-- Whether a colon stands in it. -/
  hasColon : Bool

/-- Whether the bounds of the declaration of a type end. -/
def endsTypeBounds (tokens : List Token) : Bool :=
  startsWith "where" tokens || starts "=" tokens || starts ";" tokens

/-- The declaration of a type behind its name, up to its semicolon. -/
def typeParts : Reader given (TypeParts given) := do
  let isBare ← sees (starts ";")
  let generics ← genericParameters rec
  let hasColon ← sees (starts ":")
  let colon ← maybePunct ":"
  let listed ← if hasColon then boundsUntil rec endsTypeBounds else pure ∅
  let before ← whereConditions rec
  let value ← ifSeen (starts "=") (seq [punct "=", rec (.type true)])
  let behind ← whereConditions rec
  let _ ← punct ";"
  return ⟨generics, if listed.isEmpty then ∅ else colon ++ listed, before ++ behind, value,
    isBare, hasColon⟩

/-- The semicolon behind a declaration. -/
def semicolon : Tokens given := .mark [';']

/-- Another name for a type; it stays as it was written with bounds or without
a value. -/
def typeName (start : Tokens given) : Reader given (Reading given) := do
  let front ← seq [visibility, word "type", name]
  let parts ← typeParts rec
  if parts.hasColon || parts.value.isEmpty then asIs start (return ∅)
  else return ⟨front ++ parts.generics ++ parts.conditions ++ parts.value ++ semicolon, false⟩

/-- A name for some type of which only the bounds are known. -/
def existentialType : Rewriter given := do
  let front ← seq [visibility, word "existential", word "type", name, genericParameters rec,
    whereConditions rec]
  let colon ← punct ":"
  let listed ← boundsUntil rec (starts ";")
  return front ++ (if listed.isEmpty then ∅ else colon ++ listed) ++ (← punct ";")

/-! ## §3. Invocations and imports. -/

/-- An invocation that declares something; behind braces it has no
semicolon. -/
def invocation : Rewriter given :=
  seq [plainPath, punct "!", ifSeen startsName name, do
    if ← sees (startsGroup .brace) then anyGroup else seq [anyGroup, punct ";"]]

mutual

/-- Tokens with each double colon in one piece and all other punctuation
apart, in groups as well. -/
def spread : List Token → List Token
  | [] => []
  | .punct ':' true :: .punct ':' _ :: rest => Token.mark "::".toList ++ spread rest
  | t :: rest => spreadToken t :: spread rest

/-- One such token. -/
def spreadToken : Token → Token
  | .punct c _ => .punct c false
  | .group d tokens => .group d (spread tokens)
  | t => t

end

mutual

theorem leavesOf_spread : (tokens : List Token) →
    Token.leavesOf (spread tokens) = Token.leavesOf tokens
  | [] => by rw [spread]
  | t :: rest => by
    unfold spread
    split
    · next h => cases h
    · next behind h =>
      obtain ⟨rfl, rfl⟩ := List.cons.inj h
      rw [Token.leavesOf_append, Token.leavesOf_mark, leavesOf_spread behind]
      rfl
    · next u behind _ h =>
      obtain ⟨rfl, rfl⟩ := List.cons.inj h
      rw [Token.leavesOf, Token.leavesOf, leaves_spreadToken t, leavesOf_spread rest]

theorem leaves_spreadToken : (token : Token) → Token.leaves (spreadToken token) = Token.leaves token
  | .punct _ _ => rfl
  | .group _ tokens => leavesOf_spread tokens
  | .word _ => rfl
  | .lifetime _ => rfl
  | .literal _ => rfl

end

/-- Whether a declaration goes on. -/
def goesOn (tokens : List Token) : Bool :=
  !(tokens.isEmpty || starts ";" tokens)

/-- An import of names. -/
def importOfNames : Rewriter given := do
  let front ← visibility
  let names ← many goesOn (next goesOn)
  let apart : Tokens given :=
    ⟨spread names, fun leaf h => names.madeFrom leaf (leavesOf_spread _ ▸ h)⟩
  return front ++ apart ++ (← punct ";")

/-- The rules of an invocation, as they stand. -/
def rules : Rewriter given :=
  seq [visibility, word "macro", name, ifSeen (startsGroup .parenthesis) anyGroup, anyGroup]

/-! ## §4. Members of traits, implementations and foreign modules. -/

/-- A body, or a semicolon in its place. -/
def bodyOrSemicolon : Rewriter given := do
  if ← sees (starts ";") then punct ";" else block rec

/-- Whether the word in front of a member that may be replaced comes next. -/
def startsDefault (tokens : List Token) : Bool :=
  startsWith "default" tokens && !starts "!" (tokens.drop 1)

/-- Whether a constant comes next. -/
def startsConstant (tokens : List Token) : Bool :=
  startsWith "const" tokens && (startsName (tokens.drop 1) || startsWith "_" (tokens.drop 1))

/-- A constant in a trait, with or without a value. -/
def traitConstant : Rewriter given :=
  seq [word "const", nameOrUnderscore, punct ":", rec (.type true),
    ifSeen (starts "=") (equalsValue rec), punct ";"]

/-- A type in a trait. -/
def traitType : Rewriter given := do
  let front ← seq [word "type", name]
  let parts ← typeParts rec
  return front ++ parts.generics ++ parts.bounds ++ parts.value ++ parts.conditions ++ semicolon

/-- A member of a trait.  With a visibility, or as one that may be replaced, it
stays as it was written. -/
def traitMember : Rewriter given := do
  let start ← get
  withAttributes do
    let front ← seq [visibility, ifSeen startsDefault (word "default")]
    let tokens ← get
    let out ←
      if startsFunction tokens then seq [functionHead rec, bodyOrSemicolon rec]
      else if startsConstant tokens then traitConstant rec
      else if startsWith "type" tokens then traitType rec
      else invocation
    if front.isEmpty then return ⟨out, false⟩ else asIs start (return ∅)

/-- A constant in an implementation; without a value it stays as it was
written. -/
def implementedConstant (start front : Tokens given) : Reader given (Reading given) := do
  let head ← seq [word "const", nameOrUnderscore, punct ":", rec (.type true)]
  if ← sees (starts ";") then asIs start (punct ";")
  else return ⟨front ++ head ++ (← seq [equalsValue rec, punct ";"]), false⟩

/-- A type in an implementation; with bounds or without a value it stays as it
was written. -/
def implementedType (start front : Tokens given) : Reader given (Reading given) := do
  let head ← seq [word "type", name]
  let parts ← typeParts rec
  if parts.hasColon || parts.value.isEmpty then asIs start (return ∅)
  else
    return ⟨front ++ head ++ parts.generics ++ parts.value ++ parts.conditions ++ semicolon,
      false⟩

/-- A member of an implementation. -/
def implementationMember : Rewriter given := do
  let start ← get
  withAttributes do
    let front ← seq [visibility, ifSeen startsDefault (word "default")]
    let tokens ← get
    if startsFunction tokens then
      return ⟨front ++ (← seq [functionHead rec, bodyOrSemicolon rec]), false⟩
    else if startsConstant tokens then implementedConstant rec start front
    else if startsWith "type" tokens then implementedType rec start front
    else anew invocation

/-- A variable that is defined elsewhere; with a value it stays as it was
written. -/
def foreignVariable (start front : Tokens given) : Reader given (Reading given) := do
  let head ← seq [word "static", maybeWord "mut", name, punct ":", rec (.type true)]
  if ← sees (starts "=") then asIs start (seq [equalsValue rec, punct ";"])
  else return ⟨front ++ head ++ (← punct ";"), false⟩

/-- A type that is defined elsewhere; with more than a name it stays as it was
written. -/
def foreignType (start front : Tokens given) : Reader given (Reading given) := do
  let head ← seq [word "type", name]
  let parts ← typeParts rec
  if parts.isBare then return ⟨front ++ head ++ semicolon, false⟩ else asIs start (return ∅)

/-- A member of a foreign module.  A function with a body stays as it was
written. -/
def foreignMember : Rewriter given := do
  let start ← get
  withAttributes do
    let front ← visibility
    let tokens ← get
    if startsFunction tokens then
      let head ← functionHead rec
      if ← sees (startsGroup .brace) then asIs start (block rec)
      else return ⟨front ++ head ++ (← punct ";"), false⟩
    else if startsWith "static" tokens then foreignVariable rec start front
    else if startsWith "type" tokens then foreignType rec start front
    else anew invocation

/-- Members between braces, behind attributes. -/
def members (member : Rewriter given) : Rewriter given :=
  group .brace (seq [innerAttributes, many (!·.isEmpty) member])

/-! ## §5. Traits, implementations and modules. -/

/-- Whether the bounds of a trait end. -/
def endsTraitBounds (tokens : List Token) : Bool :=
  startsWith "where" tokens || startsGroup .brace tokens || starts ";" tokens

/-- The colon of a trait and its bounds; none leave nothing. -/
def traitBounds : Rewriter given :=
  ifSeen (starts ":") do
    let colon ← punct ":"
    let listed ← boundsUntil rec endsTraitBounds
    return if listed.isEmpty then ∅ else colon ++ listed

/-- A trait, or another name for bounds. -/
def traitDeclaration : Rewriter given :=
  seq [visibility, maybeWord "unsafe", maybeWord "auto", word "trait", name,
    genericParameters rec, do
      if ← sees (starts "=") then
        seq [punct "=", boundsUntil rec endsTraitBounds, whereConditions rec, punct ";"]
      else
        seq [traitBounds rec, whereConditions rec, members (traitMember rec)]]

/-- Whether generic parameters of an implementation come next, and not a type
that begins with an angle bracket. -/
def startsImplementationGenerics (tokens : List Token) : Bool :=
  let second := tokens.drop 1
  let third := tokens.drop 2
  starts "<" tokens && (starts ">" second || starts "#" second || startsWith "const" second
    || ((startsName second || startsLifetime second)
      && (starts ":" third || starts "," third || starts ">" third || starts "=" third)))

/-- The path of a trait, if nothing else stands in front of `for`. -/
def traitInFront : Rewriter given := do
  if ← sees (fun ts => starts "<" ts || startsWith "dyn" ts) then refuse
  let out ← traitPath rec
  if ← sees (startsWith "for") then return out else refuse

/-- What is implemented for which type, and whether that is written anew. -/
def implementationHead : Reader given (Reading given) := do
  let start ← get
  let bang ← ifSeen (fun ts => starts "!" ts && !startsGroup .brace (ts.drop 1)) (punct "!")
  match (traitInFront rec).run (← get) with
  | .ok (out, rest) =>
    set rest
    return ⟨bang ++ out ++ (← seq [word "for", rec (.type true)]), false⟩
  | .error _ =>
    let out ← rec (.type true)
    if ← sees (startsWith "for") then
      return ⟨← seq [word "for", rec (.type true)], true⟩
    else if bang.isEmpty then return ⟨out, false⟩
    else return ⟨← taken start, false⟩

/-- An implementation.  One with a visibility, one for constants, and one of
something that is no path stay as they were written. -/
def implementation (start : Tokens given) : Reader given (Reading given) := do
  let shown ← visibility
  let front ← seq [ifSeen startsDefault (word "default"), maybeWord "unsafe", word "impl"]
  let generics ← ifSeen startsImplementationGenerics (genericParameters rec)
  let constness ← ifSeen
    (fun ts => startsWith "const" ts || (starts "?" ts && startsWith "const" (ts.drop 1)))
    (seq [maybePunct "?", word "const"])
  let head ← implementationHead rec
  let rest ← seq [whereConditions rec, members (implementationMember rec)]
  if head.asIs || !shown.isEmpty || !constness.isEmpty then asIs start (return ∅)
  else return ⟨front ++ generics ++ head.tokens ++ rest, false⟩

/-- A foreign module. -/
def foreignModule : Rewriter given :=
  seq [abi, members (foreignMember rec)]

/-- A module. -/
def moduleDeclaration : Rewriter given :=
  seq [visibility, word "mod", name, do
    if ← sees (starts ";") then punct ";"
    else group .brace (seq [innerAttributes, rec .declarations])]

/-- An import of a package, under another name if one is given. -/
def importOfPackage : Rewriter given :=
  seq [visibility, word "extern", word "crate", next startsAnyWord,
    ifSeen (startsWith "as") (seq [word "as", nameOrUnderscore]), punct ";"]

/-! ## §6. All declarations. -/

/-- A function, which stays as it was written without a body. -/
def functionDeclaration (start : Tokens given) : Reader given (Reading given) := do
  let front ← seq [visibility, functionHead rec]
  if ← sees (starts ";") then asIs start (punct ";")
  else return ⟨front ++ (← block rec), false⟩

/-- A declaration that begins with `unsafe` and is no function.  Modules and
foreign modules stay as they were written. -/
def unsafeDeclaration (start : Tokens given) (behind : List Token) :
    Reader given (Reading given) := do
  if startsWith "impl" behind then implementation rec start
  else if startsWith "extern" behind then
    asIs start (seq [visibility, word "unsafe", foreignModule rec])
  else if startsWith "mod" behind then
    asIs start (seq [visibility, word "unsafe", moduleDeclaration rec])
  else anew (traitDeclaration rec)

/-- A declaration, behind its attributes, in the given place. -/
def declaration (start : Tokens given) : Reader given (Reading given) := do
  let tokens ← get
  let bare := match visibility.run tokens with
    | .ok (_, rest) => rest
    | .error _ => tokens
  let behind := bare.drop 1
  if startsFunction bare then functionDeclaration rec start
  else if startsWith "extern" bare then
    if startsWith "crate" behind then anew importOfPackage else anew (foreignModule rec)
  else if startsWith "use" bare then anew importOfNames
  else if startsWithAny ["static", "const"] bare then constant rec start
  else if startsWith "unsafe" bare then unsafeDeclaration rec start behind
  else if startsWith "mod" bare then anew (moduleDeclaration rec)
  else if startsWith "type" bare then typeName rec start
  else if startsWith "existential" bare && startsWith "type" behind then
    return ⟨← existentialType rec, true⟩
  else if startsWith "struct" bare then anew (structDeclaration rec)
  else if startsWith "enum" bare then anew (enumDeclaration rec)
  else if startsWith "union" bare && startsName behind then anew (unionDeclaration rec)
  else if startsWith "trait" bare || (startsWith "auto" bare && startsWith "trait" behind) then
    anew (traitDeclaration rec)
  else if startsWith "impl" bare || startsDefault bare then implementation rec start
  else if startsWith "macro" bare then anew rules
  else anew invocation

/-- Declarations, up to the last token. -/
def readDeclarations : Rewriter given :=
  many (!·.isEmpty) do
    let start ← get
    withAttributes (declaration rec start)

end ClassBridge.Phrase
