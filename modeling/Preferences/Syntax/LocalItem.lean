import Preferences.Syntax.Signature

/-! Items among the statements of a body: functions, constants and imports. -/

namespace Preferences.Syntax.LocalItem

open Preferences.Source Parser

variable (inner : Inner)

/-- A function with its body. -/
def function : Parser Code := do
  let signature ← Signature.rule inner
  return signature.code ++ (← inner.block)

/-- A constant or a variable that lasts, with its value. -/
def constant : Parser Code := do
  let keyword ← anyName
  let isMut ← word? "mut"
  let name ← anyName
  symbol ":"
  let ty ← inner.type true
  symbol "="
  let value ← inner.value true
  symbol ";"
  return keyword.piece :: isMut ++ name.piece :: .plain ":" :: ty.code ++
    .plain "=" :: value ++ [.plain ";"]

/-- What an import names: everything, a name with another one for it, a path or a list, at most
`depth` levels deep. -/
def imported : Nat → Parser Code
  | 0 => fail (.expected [])
  | depth + 1 => do
    if ← symbol? "*" then return [.plain "*"]
    if ← seesGroup .brace then
      let parts ← group .brace (separated "," List.isEmpty (imported depth))
      return [.braces (separatedCode "," parts)]
    let name ← if ← sees startsPathWord then anyName else name
    if ← symbol? "::" then return name.piece :: .plain "::" :: (← imported depth)
    if ← seesWord "as" then
      drop 1
      return [name.piece, .plain "as", (← anyName).piece]
    return [name.piece]

def importing : Parser Code := do
  word "use"
  let leading := if ← symbol? "::" then [.plain "::"] else []
  let names ← imported (Tree.sizes (← rest) + 1)
  symbol ";"
  return .plain "use" :: leading ++ names ++ [.plain ";"]

/-- Whether a constant's keyword and its name stand next. -/
def startsConstant (trees : List Tree) : Bool :=
  let next := trees.drop 1
  (startsWord "const" trees && (startsName next || startsWord "_" next)) ||
    (startsWord "static" trees && (startsName next || startsWord "mut" next))

/-- Reads an item if one stands next. -/
def item? : Parser (Option Code) := do
  if ← seesWord "use" then return some (← importing)
  if ← sees startsConstant then return some (← constant inner)
  if ← Signature.startsHere then return some (← function inner)
  return none

end Preferences.Syntax.LocalItem
