import Preferences.Syntax.Attribute

/-! The grammar of types, bounds and paths with arguments. -/

namespace Preferences.Syntax

open Preferences.Source Parser

variable (inner : Inner)

/-! ### Paths with arguments -/

/-- A literal, a name or a block. -/
def constArgument : Parser Code := do
  if ← sees startsLiteral then anyLiteral
  else if ← sees startsName then return [(← name).piece]
  else if ← seesGroup .brace then inner.block
  else fail (.expected [])

/-- Bounds joined by plus, up to where `done` holds. -/
def boundsUpTo (done : List Tree → Bool) (bound : Parser Code) : Parser Code :=
  separatedCode "+" <$> separated "+" done bound

def startsAny (symbols : List String) (trees : List Tree) : Bool :=
  symbols.any fun symbol => startsSymbol symbol.toList trees

/-- What follows `=` or `:` after the name of an associated item. -/
def associated (subject : Code) : Parser (Option GenericArg) := do
  if ← symbol? "=" then
    let value ←
      if (← sees startsLiteral) || (← seesGroup .brace) then constArgument inner
      else Ty.code <$> inner.type true
    return some (.other (subject ++ .plain "=" :: value))
  else if ← symbol? ":" then
    let bounds ← boundsUpTo (startsAny [",", ">"]) inner.bound
    return some (.other (subject ++ .plain ":" :: bounds))
  else return none

def genericArg : Parser GenericArg := do
  if ← sees fun trees => startsLifetime trees && !startsSymbol ['+'] (afterFirst trees) then
    return .lifetime (← lifetime)
  if (← sees startsLiteral) || (← seesGroup .brace) then
    return .other (← constArgument inner)
  let ty ← inner.type true
  match ty with
  | .path none none [.mk _ (.call ..)] => return .type ty
  | .path none none [segment] => return (← associated inner segment.code).getD (.type ty)
  | _ => return .type ty

def GenericArg.isLifetime : GenericArg → Bool
  | .lifetime _ => true
  | _ => false

/-- Arguments in angle brackets. Lifetimes come before the others. -/
def angleArguments : Parser Arguments := do
  let turbofish ← symbol? "::"
  symbol "<"
  let parts ← separated "," (startsSymbol ['>']) (genericArg inner)
  symbol ">"
  let (args, trailing) := reordered GenericArg.isLifetime parts
  return .angle turbofish args trailing

/-- Whether arguments in angle brackets stand next. In a value they need `::` in front. -/
def startsAngle (inValue : Bool) (trees : List Tree) : Bool :=
  (!inValue && startsSymbol ['<'] trees && !startsSymbol "<=".toList trees) ||
    (startsSymbol "::".toList trees && startsSymbol ['<'] (trees.drop 2))

def segment (inValue : Bool) : Parser Segment := do
  if ← sees fun trees => ["super", "self", "crate", "try"].any (startsWord · trees) then
    return .mk (← anyName) .none
  let name ← if ← seesWord "Self" then anyName else name
  if ← sees (startsAngle inValue) then return .mk name (← angleArguments inner)
  else return .mk name .none

/-- The further segments of a path. -/
def pathRest (inValue : Bool) : Parser (List Segment) :=
  manyWhile (fun trees =>
      startsSymbol "::".toList trees && !startsGroup .parenthesis (trees.drop 2)) do
    symbol "::"
    segment inner inValue

def path (inValue : Bool) : Parser Path := do
  let start ← here
  let leading ← symbol? "::"
  let first ← segment inner inValue
  return ⟨if leading then some start else none, first :: (← pathRest inner inValue)⟩

/-- A path that may begin with a type in angle brackets, with where that stands. -/
def qualifiedPath (inValue : Bool) : Parser (Option (Position × Code) × Path) := do
  if ← seesSymbol "<" then
    let start ← here
    symbol "<"
    let ty ← inner.type true
    let trait ←
      if ← seesWord "as" then
        drop 1
        (fun path => .plain "as" :: Path.code path) <$> path inner false
      else pure []
    symbol ">"
    symbol "::"
    let first ← segment inner inValue
    let rest ← manyWhile (startsSymbol "::".toList) do
      symbol "::"
      segment inner inValue
    return (some (start, ty.code ++ trait), ⟨none, first :: rest⟩)
  else return (none, ← path inner inValue)

/-! ### Bounds -/

/-- Whether a call's arguments stand next, with or without `::` in front. -/
def startsCall (trees : List Tree) : Bool :=
  startsGroup .parenthesis trees ||
    (startsSymbol "::".toList trees && startsGroup .parenthesis (trees.drop 2))

/-- The parameters and the result of a callable bound. -/
def callArguments : Parser (Arguments × Option Ty) := do
  let _ ← symbol? "::"
  let inputs ← group .parenthesis (separated "," List.isEmpty (inner.type true))
  let output ← if ← symbol? "->" then some <$> inner.type false else pure none
  let inputs := inputs.map fun (ty, followed) => (ty.code, followed)
  return (.call (separatedCode "," inputs) ((output.map Ty.code).getD []), output)

/-- Whether the last segment has no arguments yet. -/
def lastIsBare (segments : List Segment) : Bool :=
  (segments.getLast?.map (·.args.isNone)).getD false

/-- The segments with `args` on the last one. -/
def withLast (segments : List Segment) (args : Arguments) : List Segment :=
  match segments.getLast? with
  | some last => segments.dropLast ++ [.mk last.name args]
  | none => []

/-- A path's segments after the calls that follow it. After a call without a result, or with one in
parentheses, the path may go on. -/
def withCalls : Nat → List Segment → Parser (List Segment)
  | 0, segments => return segments
  | bound + 1, segments => do
    if lastIsBare segments && (← sees startsCall) then
      let (args, output) ← callArguments inner
      let segments := withLast segments args
      let more ←
        match output with
        | none | some (.paren ..) => pathRest inner false
        | some _ => pure []
      withCalls bound (segments ++ more)
    else return segments

/-- The bounds after a colon, if there is one; without bounds it is not printed. -/
def boundsAfterColon (ends : List String) (bound : Parser Code) : Parser Code := do
  if ← symbol? ":" then
    let bounds ← boundsUpTo (startsAny ends) bound
    return if bounds.isEmpty then [] else .plain ":" :: bounds
  else return []

/-- What may begin a generic parameter, where one is declared or behind `for`. -/
def genericParamForms (isDeclared : Bool) : List Wanted :=
  (if isDeclared then [.form "lifetime", .form "identifier"]
    else [.form "identifier", .form "lifetime"]) ++ [.symbol "const"]

/-- A generic parameter, and whether it is a lifetime. One that is declared may have no name. -/
def genericParam (isDeclared : Bool) : Parser (Bool × Code) := do
  let attrs ← Attribute.codes false <$> Attribute.outer inner
  if ← sees startsLifetime then
    let name ← lifetime
    return (true, attrs ++ name ++ (← boundsAfterColon [",", ">"] lifetime))
  if ← sees startsName then
    let name ← name
    let bounds ← boundsAfterColon [",", ">", "="] inner.bound
    let fallback ←
      if ← symbol? "=" then (.plain "=" :: Ty.code ·) <$> inner.type true else pure []
    return (false, attrs ++ name.piece :: bounds ++ fallback)
  if ← seesWord "const" then
    drop 1
    let name ← name
    symbol ":"
    let ty ← inner.type true
    let fallback ←
      if ← symbol? "=" then (.plain "=" :: ·) <$> constArgument inner else pure []
    return (false, attrs ++ Code.words ["const", name.text, ":"] ++ ty.code ++ fallback)
  if isDeclared then
    if ← seesWord "_" then drop 1; return (false, attrs ++ [.plain "_"])
  failWanting (genericParamForms isDeclared)

/-- The parameters between `for <` and `>`. -/
def quantified? : Parser (Option Code) := do
  if ← seesWord "for" then
    drop 1
    symbol "<"
    let parts ← separated "," (startsSymbol ['>']) (genericParam inner false)
    symbol ">"
    return some (separatedCode "," (parts.map fun (part, followed) => (part.2, followed)))
  else return none

def quantifiedCode : Option Code → Code
  | some lifetimes => Code.words ["for", "<"] ++ lifetimes ++ [.plain ">"]
  | none => []

def traitBound : Parser Code := do
  let before ← quantified? inner
  let maybe ← symbol? "?"
  let after ← if maybe && before.isNone then quantified? inner else pure none
  let path ← path inner false
  let segments ← withCalls inner 1 path.segments
  return (if maybe then [.plain "?"] else []) ++ quantifiedCode (before.or after) ++
    Path.code ⟨path.leading, segments⟩

/-- A lifetime or a trait, the trait perhaps in parentheses. -/
def boundRule : Parser Code := do
  if ← sees startsLifetime then lifetime
  else if ← seesGroup .parenthesis then
    return [.parens (← group .parenthesis (traitBound inner))]
  else traitBound inner

/-- Whether a bound may stand next. -/
def startsBound (trees : List Tree) : Bool :=
  startsAnyName trees || startsAny ["::", "?"] trees || startsLifetime trees ||
    startsGroup .parenthesis trees

/-- The bounds after a first one, each behind a plus, and whether a plus ends them. -/
def furtherBounds (allowPlus : Bool) : Parser (List Code × Bool) := do
  if !allowPlus then return ([], false)
  if ← symbol? "+" then
    let (parts, trailing) :=
      withoutSeparators (← joined "+" (fun trees => !startsBound trees) (boundRule inner))
    return (parts, trailing || parts.isEmpty)
  else return ([], false)

def isLifetimeCode : Code → Bool
  | [.word text _] => text.toList.head? = some '\''
  | _ => false

/-- The code of a first bound and those behind it. -/
def sumCode (first : Code) (others : List Code) (trailing : Bool) : Code :=
  Code.separated (.plain "+") (first :: others) ++ if trailing then [.plain "+"] else []

/-- Bounds of a type, one of which must be a trait. -/
def typeBounds (allowPlus : Bool) (start : Position) (complaint : String) : Parser Code := do
  let first ← boundRule inner
  let (others, trailing) ← furtherBounds inner allowPlus
  if (first :: others).all isLifetimeCode then failAt start (.rule complaint)
  return sumCode first others trailing

/-! ### Types -/

/-- What may begin a type. -/
def typeForms : List Wanted :=
  [.symbol "for", Delimiter.form .parenthesis, .symbol "fn", .symbol "unsafe", .symbol "extern",
   .form "identifier", .symbol "::", .symbol "<", .symbol "dyn", Delimiter.form .bracket,
   .symbol "*", .symbol "&", .symbol "!", .symbol "impl", .symbol "_", .form "lifetime"]

/-- What may follow the lifetimes in front of a type. -/
def quantifiedForms : List Wanted :=
  [.form "identifier", .symbol "fn", .symbol "unsafe", .symbol "extern", .symbol "super",
   .symbol "self", .symbol "Self", .symbol "crate"]

/-- A sum of bounds, or its first bound as `single` where nothing follows it. -/
def sumOr (start : Position) (first : Code) (single : Ty) (allowPlus : Bool) : Parser Ty := do
  let (others, trailing) ← furtherBounds inner allowPlus
  if others.isEmpty && !trailing then return single
  else return .sum start first others trailing

/-- The rest of a sum that has begun with a lifetime. -/
def lifetimeSum (start : Position) : Parser Ty := do
  let first ← lifetime
  let (others, trailing) ← furtherBounds inner true
  if others.all isLifetimeCode then
    failAt start (.rule "at least one trait is required for an object type")
  return .sum start first others trailing

/-- A bound that a type in parentheses can be read as. -/
def Ty.asBound? : Ty → Option Code
  | .path none leading segments => some (Ty.path none leading segments).code
  | .ranked start lifetimes bound => some (Ty.ranked start lifetimes bound).code
  | .boundGroup _ bound => some bound
  | _ => none

/-- A type in parentheses, a tuple, or a bound in parentheses with those behind it. -/
def parenthesised (start : Position) (allowPlus : Bool) : Parser Ty := do
  let read ← group .parenthesis do
    if ← atEnd then return Ty.tuple start [] false
    if ← sees startsLifetime then return Ty.paren start (← lifetimeSum inner (← here))
    if ← seesSymbol "?" then return Ty.boundGroup start (← traitBound inner)
    let first ← inner.type true
    if ← symbol? "," then
      let (others, trailing) := withoutSeparators (← separated "," List.isEmpty (inner.type true))
      return Ty.tuple start (first :: others) (trailing || others.isEmpty)
    return Ty.paren start first
  match read with
  | .boundGroup _ bound => sumOr inner start [.parens bound] read true
  | .paren _ first =>
    match first.asBound? with
    | some bound => sumOr inner start [.parens bound] read allowPlus
    | none => return read
  | _ => return read

/-- Whether a name and a colon stand next. -/
def startsLabel (trees : List Tree) : Bool :=
  (startsName trees || startsWord "_" trees) && startsSymbol [':'] (trees.drop 1) &&
    !startsSymbol "::".toList (trees.drop 1)

/-- Whether the name of the receiver stands next, and a colon with it. -/
def startsReceiver (trees : List Tree) : Bool :=
  startsWord "self" trees && startsSymbol [':'] (trees.drop 1) &&
    !startsSymbol "::".toList (trees.drop 1)

def startsMutableSelf (trees : List Tree) : Bool :=
  startsWord "mut" trees && startsWord "self" (trees.drop 1)

/-- A name and its colon. -/
def label : Parser Code := do
  let name ← anyName
  symbol ":"
  return [name.piece, .plain ":"]

/-- A receiver behind `mut`, with its type if it has one. -/
def mutableReceiver : Parser Unit := do
  drop 1
  if ← sees startsReceiver then
    let _ ← label
    let _ ← inner.type true
  else drop 1

/-- A parameter of a function type. Only the first one can be a receiver. -/
def functionParam (isFirst : Bool) : Parser Code := do
  if isFirst then
    if ← sees startsMutableSelf then return ← verbatim (mutableReceiver inner)
    if ← sees startsReceiver then return (← label) ++ (← inner.type true).code
  let label ← if ← sees startsLabel then label else pure []
  if isFirst then
    if ← sees startsMutableSelf then drop 2; return label ++ Code.words ["mut", "self"]
  return label ++ (← inner.type true).code

/-- Three dots, with a name or without, at the end of a function type's parameters. -/
def ellipsis? : Parser (Option Code) := do
  let test := fun trees => startsSymbol "...".toList trees ||
    (startsLabel trees && startsSymbol "...".toList (trees.drop 2))
  if ← sees test then
    let label ← if ← sees startsLabel then label else pure []
    symbol "..."
    return some (label ++ .plain "..." :: if ← symbol? "," then [.plain ","] else [])
  else return none

/-- The parameters of a function type. -/
def functionParams : Parser Code := do
  let rec go : Nat → Bool → Parser Code
    | 0, _ => return []
    | bound + 1, isFirst => do
      if ← atEnd then return []
      let attrs ← Attribute.codes false <$> Attribute.outer inner
      if let some code ← ellipsis? then return attrs ++ code
      let param ← functionParam inner isFirst
      if ← atEnd then return attrs ++ param
      symbol ","
      return attrs ++ param ++ .plain "," :: (← go bound false)
  go ((← rest).length + 1) true

/-- The name of a calling convention, behind `extern`. -/
def convention? : Parser Code := do
  if ← seesWord "extern" then
    drop 1
    match ← attempt stringLiteral with
    | some lit => return [.plain "extern", lit.piece]
    | none => return [.plain "extern"]
  else return []

def functionType (start : Position) (lifetimes : Option Code) : Parser Ty := do
  let isUnsafe ← word? "unsafe"
  let convention ← convention?
  word "fn"
  let params ← group .parenthesis (functionParams inner)
  let output ← if ← symbol? "->" then Ty.code <$> inner.type false else pure []
  return .function start (quantifiedCode lifetimes ++ isUnsafe ++ convention) params output

def pathType (start : Position) (lifetimes : Option Code) (allowPlus : Bool) : Parser Ty := do
  let (qualifier, path) ← qualifiedPath inner false
  let path := { path with segments := ← withCalls inner (← rest).length path.segments }
  let ty := Ty.path qualifier path.leading path.segments
  if qualifier.isSome then return ty
  if path.isPlain && (← seesSymbol "!") && !(← seesSymbol "!=") then
    symbol "!"
    let (delimiter, body, _) ← anyGroup
    return .call start path.code delimiter (Tree.code body)
  match lifetimes with
  | some lifetimes =>
    let single := Ty.ranked start lifetimes path.code
    sumOr inner start single.code single allowPlus
  | none => sumOr inner start path.code ty allowPlus

def typeRule (allowPlus : Bool) : Parser Ty := do
  let start ← here
  let lifetimes ← quantified? inner
  let isFunction ← sees fun trees => ["fn", "unsafe", "extern"].any (startsWord · trees)
  if isFunction then return ← functionType inner start lifetimes
  if ← sees fun trees => startsName trees || startsPathWord trees then
    return ← pathType inner start lifetimes allowPlus
  if lifetimes.isSome then failWanting quantifiedForms
  if ← sees (startsAny ["::", "<"]) then return ← pathType inner start none allowPlus
  if ← seesGroup .parenthesis then return ← parenthesised inner start allowPlus
  if ← seesWord "dyn" then
    drop 1
    let bounds :=
      typeBounds inner allowPlus start "at least one trait is required for an object type"
    if ← seesSymbol "*" then return .bounded start false (← verbatim do symbol "*"; let _ ← bounds)
    return .bounded start false (← bounds)
  if ← seesGroup .bracket then
    return ← group .bracket do
      let elem ← inner.type true
      if ← symbol? ";" then return .bracketed start elem (some (← inner.value true))
      else return .bracketed start elem none
  if ← symbol? "*" then
    let isMut ← seesWord "mut"
    if !isMut && !(← seesWord "const") then failWanting [.symbol "const", .symbol "mut"]
    drop 1
    return .pointer start isMut (← inner.type false)
  if ← symbol? "&" then
    let lifetime ← lifetime?
    let isMut ← word? "mut"
    return .reference start lifetime (!isMut.isEmpty) (← inner.type false)
  if ← symbol? "!" then return .never start
  if ← seesWord "impl" then
    drop 1
    return .bounded start true
      (← typeBounds inner allowPlus start "at least one trait must be specified")
  if ← seesWord "_" then drop 1; return .infer start
  if ← sees startsLifetime then return ← lifetimeSum inner start
  failWanting typeForms

end Preferences.Syntax
