import Preferences.Syntax.TypeGrammar

/-! Patterns of parameters. Only a plain name matters to a preference; every other pattern is kept
as code. -/

namespace Preferences.Syntax

open Preferences.Source Parser

inductive Pattern where
  | binding (pos : Position) (byRef isMut : Bool) (name : Name) (sub : Option Code)
  | other (pos : Position) (code : Code)
  deriving Repr

namespace Pattern

def pos : Pattern → Position
  | binding pos _ _ _ _ | other pos _ => pos

def code : Pattern → Code
  | binding _ byRef isMut name sub =>
    (if byRef then [.plain "ref"] else []) ++ (if isMut then [.plain "mut"] else []) ++
      name.piece :: match sub with
        | some sub => .plain "@" :: sub
        | none => []
  | other _ code => code

/-- What may begin a pattern. -/
def forms : List Wanted :=
  [.form "identifier", .symbol "::", .symbol "<", .symbol "_", .form "literal", .symbol "const",
   .symbol "ref", .symbol "mut", .symbol "&", Delimiter.form .parenthesis, Delimiter.form .bracket,
   .symbol "..", .symbol "const"]

variable (inner : Inner)

/-- Whether a bar stands next that begins no longer operator. -/
def startsBar (trees : List Tree) : Bool :=
  startsSymbol ['|'] trees && !startsAny ["||", "|="] trees

/-- Patterns joined by a bar, perhaps with one in front. -/
def alternatives : Parser Code := do
  let leading ← symbol? "|"
  let first ← inner.pattern
  let others ← manyWhile startsBar do
    symbol "|"
    return .plain "|" :: (← inner.pattern)
  return (if leading then [.plain "|"] else []) ++ first ++ others.flatten

/-- Whether trees begin with a path, a call, a struct or a range that a name starts. -/
def startsPath (trees : List Tree) : Bool :=
  let next := trees.drop 1
  (startsName trees && (startsAny ["::", "!", ".."] next || startsGroup .brace next ||
    startsGroup .parenthesis next)) ||
  (startsWord "self" trees && startsSymbol "::".toList next) ||
  startsAny ["::", "<"] trees || ["Self", "super", "crate"].any (startsWord · trees)

/-- Whether a range has no upper end. -/
def endsRange (trees : List Tree) : Bool :=
  trees.isEmpty || startsAny ["|", "=", ",", ";"] trees || startsWord "if" trees ||
    (startsSymbol [':'] trees && !startsSymbol "::".toList trees)

/-- What may begin an end of a range. -/
def rangeForms : List Wanted :=
  [.form "literal", .form "identifier", .symbol "::", .symbol "<", .symbol "self", .symbol "Self",
   .symbol "super", .symbol "crate", .symbol "const"]

/-- An end of a range, or a value that a pattern compares with. -/
def rangeBound : Parser Code := do
  if ← sees startsLiteral then anyLiteral
  else if ← seesWord "const" then
    drop 1
    return .plain "const" :: (← inner.block)
  else if ← sees fun trees => startsName trees || startsPathWord trees ||
      startsAny ["::", "<"] trees then
    let (qualifier, path) ← qualifiedPath inner true
    return (Ty.path qualifier path.leading path.segments).code
  else failWanting rangeForms

/-- The upper part of a range. Three dots mean the same as two and an equals sign. -/
def rangeRest : Parser Code := do
  let limits ←
    if ← symbol? "..=" then pure "..="
    else if ← symbol? "..." then pure "..="
    else
      symbol ".."
      pure ".."
  if ← sees endsRange then
    if limits = ".." then return [.plain limits]
    else fail (.rule "expected range upper bound")
  else return .plain limits :: (← rangeBound inner)

def range? (start : Code) : Parser Code := do
  if ← seesSymbol ".." then return start ++ (← rangeRest inner) else return start

def listed : Parser Code := do
  separatedCode "," <$> separated "," List.isEmpty (alternatives inner)

/-- A field of a struct pattern. -/
def field : Parser Code := do
  let marks := (← word? "box") ++ (← word? "ref") ++ (← word? "mut")
  if !marks.isEmpty then return marks ++ [(← name).piece]
  let isIndex ← sees startsIndex
  let member ← member
  if isIndex || (← seesSymbol ":") then
    symbol ":"
    return member ++ .plain ":" :: (← alternatives inner)
  return member

/-- The fields of a struct pattern. Two dots end them. -/
def fields : Parser Code := do
  let rec go : Nat → Parser Code
    | 0 => return []
    | bound + 1 => do
      if ← atEnd then return []
      let attrs ← Attribute.codes false <$> Attribute.outer inner
      if ← symbol? ".." then return attrs ++ [.plain ".."]
      let field ← field inner
      if ← atEnd then return attrs ++ field
      symbol ","
      return attrs ++ field ++ .plain "," :: (← go bound)
  go ((← rest).length + 1)

/-- Whether code is a range that lacks an end. -/
def isOpenRange (code : Code) : Bool :=
  let texts := code.map Piece.text
  let alone := ["|", "@"].all (!texts.contains ·)
  code.length > 1 && alone &&
    (["..", "..="].any (texts.head? = some ·) ||
      (texts.getLast? = some ".." && ["&", "box"].all (texts.head? ≠ some ·)))

/-- An element of a slice pattern. -/
def element : Parser Code := do
  let before ← rest
  let code ← alternatives inner
  if isOpenRange code then
    let read := before.take (before.length - (← rest).length)
    let dots := if startsSymbol "..".toList read then read else read.drop (read.length - 2)
    if let some first := dots.head? then
      failAt first.pos
        (.rule "range pattern is not allowed unparenthesized inside slice pattern")
  return code

def pathRule : Parser Code := do
  let (qualifier, path) ← qualifiedPath inner true
  let code := (Ty.path qualifier path.leading path.segments).code
  if qualifier.isNone && path.isPlain && (← seesSymbol "!") && !(← seesSymbol "!=") then
    symbol "!"
    let (delimiter, body, _) ← anyGroup
    return code ++ [.plain "!", .group delimiter (Tree.code body)]
  if ← seesGroup .brace then
    return code ++ [.braces (← group .brace (fields inner))]
  if ← seesGroup .parenthesis then
    return code ++ [.parens (← group .parenthesis (listed inner))]
  range? inner code

/-- A pattern that is no plain name. -/
def otherRule : Parser Code := do
  if ← sees startsPath then return ← pathRule inner
  if ← seesWord "_" then drop 1; return [.plain "_"]
  if ← seesWord "box" then
    return ← verbatim do
      drop 1
      let _ ← inner.pattern
  if ← sees fun trees => startsSymbol ['-'] trees || startsLiteral trees || startsWord "const" trees
    then return ← range? inner (← rangeBound inner)
  if ← symbol? "&" then
    let isMut ← word? "mut"
    return .plain "&" :: isMut ++ (← inner.pattern)
  if ← seesGroup .parenthesis then
    return [.parens (← group .parenthesis (listed inner))]
  if ← seesGroup .bracket then
    let elems ← group .bracket (separated "," List.isEmpty (element inner))
    return [.brackets (separatedCode "," elems)]
  if ← sees fun trees => startsSymbol "..".toList trees && !startsSymbol "...".toList trees then
    return ← rangeRest inner
  failWanting forms

def rule : Parser Pattern := do
  let pos ← here
  let isName ← sees fun trees => !startsPath trees && !startsLiteral trees &&
    (["ref", "mut", "self"].any (startsWord · trees) || startsName trees)
  if isName then
    let byRef ← word? "ref"
    let isMut ← word? "mut"
    let name ← if ← seesWord "self" then anyName else name
    let sub ← if ← symbol? "@" then some <$> inner.pattern else pure none
    return .binding pos (!byRef.isEmpty) (!isMut.isEmpty) name sub
  else return .other pos (← otherRule inner)

end Pattern

end Preferences.Syntax
