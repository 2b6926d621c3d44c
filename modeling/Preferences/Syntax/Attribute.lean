import Preferences.Syntax.Path

/-! Attributes. -/

namespace Preferences.Syntax

open Preferences.Source Parser

/-- What follows an attribute's path: nothing, a group of tokens, or a value after `=`. -/
inductive Attribute.Content where
  | bare
  | list (delimiter : Delimiter) (body : List Tree) (closes : Position)
  | value (equals : Position) (code : Code)
  deriving Repr

/-- An attribute, and where its `#` stands. An inner one belongs to what encloses it. -/
structure Attribute where
  pos : Position
  isInner : Bool
  path : Path
  content : Attribute.Content
  deriving Repr

namespace Attribute

def Content.code : Content → Code
  | bare => []
  | list delimiter body _ => [.group delimiter (Tree.code body)]
  | value _ code => .plain "=" :: code

def code (attr : Attribute) : Code :=
  Code.words (if attr.isInner then ["#", "!"] else ["#"]) ++
    [.brackets (attr.path.code ++ attr.content.code)]

/-- The code of the attributes in front of an item, or of those inside it. -/
def codes (isInner : Bool) (attrs : List Attribute) : Code :=
  (attrs.filter (·.isInner = isInner)).flatMap code

/-- What stands between an attribute's brackets. -/
def inside (inner : Inner) : Parser (Path × Content) := do
  let path ← if ← seesWord "unsafe" then Path.ofName <$> anyName else plainPath
  if ← sees fun trees => [.parenthesis, .bracket, .brace].any (startsGroup · trees) then
    let (delimiter, body, closes) ← anyGroup
    return (path, .list delimiter body closes)
  else if (← seesSymbol "=") && !(← seesSymbol "==") && !(← seesSymbol "=>") then
    let equals ← here
    symbol "="
    if ← sees fun trees => startsSymbol ['#'] trees && startsGroup .bracket (trees.drop 1) then
      fail (.rule "unexpected attribute inside of attribute")
    return (path, .value equals (← inner.value true))
  else return (path, .bare)

/-- The attributes in front of an item. -/
def outer (inner : Inner) : Parser (List Attribute) :=
  manyWhile (startsSymbol ['#']) do
    let pos ← here
    symbol "#"
    let (path, content) ← group .bracket (inside inner)
    return ⟨pos, false, path, content⟩

/-- The attributes at the start of a body. -/
def inners (inner : Inner) : Parser (List Attribute) :=
  manyWhile (fun trees => startsSymbol ['#'] trees && startsSymbol ['!'] (trees.drop 1)) do
    let pos ← here
    symbol "#"
    symbol "!"
    let (path, content) ← group .bracket (inside inner)
    return ⟨pos, true, path, content⟩

end Attribute

end Preferences.Syntax
