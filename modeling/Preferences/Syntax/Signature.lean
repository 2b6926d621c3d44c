import Preferences.Syntax.Pattern

/-! Method signatures: their parts, the grammar and the code. -/

namespace Preferences.Syntax

open Preferences.Source Parser

/-- Generic parameters, where the first one's `<` stands, and the predicates behind `where`. -/
structure Generics where
  pos : Position
  params : Code
  predicates : Option Code
  deriving Repr

namespace Generics

def isEmpty (generics : Generics) : Bool := generics.params.isEmpty && generics.predicates.isNone

def code (generics : Generics) : Code :=
  if generics.params.isEmpty then []
  else .plain "<" :: generics.params ++ [.plain ">"]

/-- The predicates behind `where`, which is printed with predicates only. -/
def whereCode (generics : Generics) : Code :=
  match generics.predicates with
  | some (piece :: rest) => .plain "where" :: piece :: rest
  | _ => []

variable (inner : Inner)

/-- Generic parameters, lifetimes first. -/
def rule : Parser Generics := do
  if ← seesSymbol "<" then
    let pos ← here
    symbol "<"
    let parts ← separated "," (startsSymbol ['>']) (genericParam inner true)
    symbol ">"
    let (parts, trailing) := reordered (·.1) parts
    return ⟨pos, Code.commaList (parts.map (·.2)) trailing, none⟩
  else return ⟨Position.start, [], none⟩

/-- Whether the predicates behind `where` are over. -/
def endsPredicates (trees : List Tree) : Bool :=
  trees.isEmpty || startsGroup .brace trees || startsAny [",", ";", "="] trees ||
    (startsSymbol [':'] trees && !startsSymbol "::".toList trees)

/-- The bounds of a predicate; they end also where no plus follows one. -/
def predicateBounds (bound : Parser Code) : Parser Code :=
  separatedCode "+" <$> joined "+" endsPredicates bound

def predicate : Parser Code := do
  if ← sees fun trees => startsLifetime trees && startsSymbol [':'] (afterFirst trees) then
    let name ← lifetime
    symbol ":"
    return name ++ .plain ":" :: (← predicateBounds lifetime)
  let lifetimes ← quantified? inner
  let ty ← inner.type true
  symbol ":"
  return quantifiedCode lifetimes ++ ty.code ++
    .plain ":" :: (← predicateBounds (boundRule inner))

/-- Whether generic parameters stand next, rather than a type in angle brackets. -/
def startsParams (trees : List Tree) : Bool :=
  let inside := trees.drop 1
  let next := afterFirst inside
  startsSymbol ['<'] trees && (startsAny [">", "#"] inside || startsWord "const" inside ||
    ((startsLifetime inside || startsName inside) && (startsAny [">", ",", "="] next ||
      (startsSymbol [':'] next && !startsSymbol "::".toList next))))

/-- Adds the predicates behind `where`, if it stands next. -/
def withPredicates (generics : Generics) : Parser Generics := do
  if ← seesWord "where" then
    drop 1
    if ← sees startsParams then
      fail (.rule "generic parameters on `where` clauses are reserved for future use")
    let parts ← joined "," endsPredicates (predicate inner)
    return { generics with predicates := some (separatedCode "," parts) }
  else return generics

end Generics

/-! ### Parameters -/

/-- A method's own object: by reference with the code of its lifetime, or by value, perhaps with a
type. -/
structure Receiver where
  attrs : List Attribute
  pos : Position
  selfPos : Position
  reference : Option Code
  isMut : Bool
  ty : Option Ty
  deriving Repr

inductive Param where
  | self (receiver : Receiver)
  | typed (attrs : List Attribute) (pattern : Pattern) (ty : Ty)
  deriving Repr

/-- Where the first attribute stands, or else `pos`. -/
def firstPos (attrs : List Attribute) (pos : Position) : Position :=
  (attrs.head?.map (·.pos)).getD pos

namespace Param

def pos : Param → Position
  | self r => firstPos r.attrs r.pos
  | typed attrs pattern _ => firstPos attrs pattern.pos

def code : Param → Code
  | self r =>
    Attribute.codes false r.attrs ++
      (match r.reference with
        | some lifetime => .plain "&" :: lifetime
        | none => []) ++
      (if r.isMut then [.plain "mut"] else []) ++ .plain "self" ::
      match r.ty with
        | some ty => .plain ":" :: ty.code
        | none => []
  | typed attrs pattern ty =>
    Attribute.codes false attrs ++ pattern.code ++ .plain ":" :: ty.code

variable (inner : Inner)

def receiverRule (attrs : List Attribute) : Parser Receiver := do
  let pos ← here
  let reference ← if ← symbol? "&" then some <$> lifetime? else pure none
  let isMut ← word? "mut"
  let selfPos ← here
  word "self"
  let ty ←
    if reference.isSome then pure none
    else if ← symbol? ":" then some <$> inner.type true
    else pure none
  return ⟨attrs, pos, selfPos, reference, !isMut.isEmpty, ty⟩

/-- A parameter, or the code of the dots that stand for all further ones. -/
def rule : Parser (Param ⊕ Code) := do
  let attrs ← Attribute.outer inner
  if ← symbol? "..." then
    return .inr (Attribute.codes false attrs ++ [.plain "..."])
  let pos ← here
  match ← attempt (receiverRule inner attrs) with
  | some receiver => return .inl (.self receiver)
  | none =>
    if ← sees fun trees => startsName trees && startsSymbol ['<'] (trees.drop 1) then
      return .inl (.typed attrs (.other pos [.plain "_"]) (← inner.type true))
    let pattern ← Pattern.rule inner
    symbol ":"
    if ← symbol? "..." then
      return .inr (Attribute.codes false attrs ++ pattern.code ++ Code.words [":", "..."])
    return .inl (.typed attrs pattern (← inner.type true))

end Param

/-! ### Signatures -/

structure Signature where
  isConst : Bool
  asyncPos : Option Position
  isUnsafe : Bool
  convention : Code
  name : Name
  generics : Generics
  params : List Param
  trailing : Bool
  variadic : Option Code
  output : Option Ty
  deriving Repr

namespace Signature

/-- The code between the parentheses. -/
def paramsCode (sig : Signature) : Code :=
  Code.commaList (sig.params.map Param.code) sig.trailing ++
    match sig.variadic with
    | some dots => (if sig.params.isEmpty || sig.trailing then [] else [.plain ","]) ++ dots
    | none => []

def code (sig : Signature) : Code :=
  (if sig.isConst then [.plain "const"] else []) ++
    (if sig.asyncPos.isSome then [.plain "async"] else []) ++
    (if sig.isUnsafe then [.plain "unsafe"] else []) ++
    sig.convention ++ .plain "fn" :: sig.name.piece :: sig.generics.code ++
    .parens sig.paramsCode :: outputCode ((sig.output.map Ty.code).getD []) ++
    sig.generics.whereCode

variable (inner : Inner)

/-- Fails where a receiver is not the first parameter. -/
def checkReceiver (before : List (Param × Bool)) : Param → Parser Unit
  | .typed .. => pure ()
  | .self receiver =>
    match before.head? with
    | none => pure ()
    | some (.self _, _) => failAt receiver.selfPos (.rule "unexpected second method receiver")
    | some (.typed .., _) => failAt receiver.selfPos (.rule "unexpected method receiver")

/-- The parameters with those read `before`, whether a comma follows each one, and the dots after
them. -/
def paramsAfter (before : List (Param × Bool)) :
    Nat → Parser (List (Param × Bool) × Option Code)
  | 0 => return (before, none)
  | bound + 1 => do
    if ← atEnd then return (before, none)
    match ← Param.rule inner with
    | .inr dots =>
      if ← atEnd then return (before, some dots)
      symbol ","
      return (before, some (dots ++ [.plain ","]))
    | .inl param =>
      checkReceiver before param
      if ← atEnd then return (before ++ [(param, false)], none)
      symbol ","
      paramsAfter (before ++ [(param, true)]) bound

def rule : Parser Signature := do
  let isConst ← word? "const"
  let asyncPos ← here
  let isAsync ← word? "async"
  let isUnsafe ← word? "unsafe"
  let convention ← convention?
  word "fn"
  let name ← Parser.name
  let generics ← Generics.rule inner
  let (parts, variadic) ← group .parenthesis do
    paramsAfter inner [] ((← rest).length + 1)
  let (params, trailing) := withoutSeparators parts
  let output ← if ← symbol? "->" then some <$> inner.type true else pure none
  let generics ← generics.withPredicates inner
  return {
    isConst := !isConst.isEmpty
    asyncPos := if isAsync.isEmpty then none else some asyncPos
    isUnsafe := !isUnsafe.isEmpty
    convention, name, generics, params, trailing, variadic, output }

/-- Whether a signature stands next, up to its `fn`. -/
def startsHere : Parser Bool := do
  let opening : Parser Bool := do
    let _ ← word? "const"
    let _ ← word? "async"
    let _ ← word? "unsafe"
    let _ ← convention?
    seesWord "fn"
  let before ← get
  let found ← opening
  set before
  return found

end Signature

end Preferences.Syntax
