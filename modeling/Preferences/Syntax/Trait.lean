import Preferences.Syntax.Grammar

/-! Traits: their items, the grammar and the code. -/

namespace Preferences.Syntax

open Preferences.Source Parser

/-- An associated constant. -/
structure ConstItem where
  attrs : List Attribute
  name : Name
  ty : Ty
  value : Option Code
  deriving Repr

/-- A method, with a body if it is provided. -/
structure Method where
  attrs : List Attribute
  signature : Signature
  body : Option Code
  deriving Repr

/-- An item of a trait. Types, macro calls and items with a visibility are kept as code. -/
inductive TraitItem where
  | const (item : ConstItem)
  | method (item : Method)
  | other (code : Code)
  deriving Repr

structure TraitDecl where
  attrs : List Attribute
  visibility : Code
  isUnsafe : Bool
  isAuto : Bool
  name : Name
  generics : Generics
  supertraits : Code
  items : List TraitItem
  deriving Repr

def ConstItem.code (item : ConstItem) : Code :=
  Attribute.codes false item.attrs ++
    .plain "const" :: item.name.piece :: .plain ":" :: item.ty.code ++
    (match item.value with
      | some value => .plain "=" :: value
      | none => []) ++ [.plain ";"]

def Method.code (item : Method) : Code :=
  Attribute.codes false item.attrs ++ item.signature.code ++
    match item.body with
    | some body => [.braces (Attribute.codes true item.attrs ++ body)]
    | none => [.plain ";"]

def TraitItem.code : TraitItem → Code
  | const item => item.code
  | method item => item.code
  | other code => code

def TraitDecl.code (decl : TraitDecl) : Code :=
  Attribute.codes false decl.attrs ++ decl.visibility ++
    (if decl.isUnsafe then [.plain "unsafe"] else []) ++
    (if decl.isAuto then [.plain "auto"] else []) ++
    .plain "trait" :: decl.name.piece :: decl.generics.code ++
    (if decl.supertraits.isEmpty then [] else .plain ":" :: decl.supertraits) ++
    decl.generics.whereCode ++
    [.braces (Attribute.codes true decl.attrs ++ decl.items.flatMap TraitItem.code)]

/-! ### Grammar -/

/-- Whether a group holds a word that restricts a visibility, and nothing else. -/
def startsScope : List Tree → Bool
  | .group .parenthesis [.ident name] _ _ :: _ => ["crate", "self", "super"].contains name.text
  | _ => false

def startsScopePath : List Tree → Bool
  | .group .parenthesis body _ _ :: _ => startsWord "in" body
  | _ => false

def visibility : Parser Code := do
  if ← seesWord "pub" then
    drop 1
    if ← sees startsScope then
      return [.plain "pub", .parens [(← group .parenthesis anyName).piece]]
    if ← sees startsScopePath then
      let path ← group .parenthesis do
        word "in"
        plainPath
      return [.plain "pub", .parens (.plain "in" :: path.code)]
    return [.plain "pub"]
  else return []

variable (inner : Inner)

/-- A method after its attributes. -/
def methodRest (attrs : List Attribute) : Parser Method := do
  let signature ← Signature.rule inner
  if ← seesGroup .brace then
    let (inners, body) ← group .brace do
      let inners ← Attribute.inners inner
      return (inners, ← Value.statements inner)
    return ⟨attrs ++ inners, signature, some body⟩
  else if ← symbol? ";" then return ⟨attrs, signature, none⟩
  else failWanting [Delimiter.form .brace, .symbol ";"]

/-- A constant after its attributes. One with parameters or predicates is kept as code, so it gives
nothing here. -/
def constRest (attrs : List Attribute) : Parser (Option ConstItem) := do
  word "const"
  let name ← anyName
  let angled ← seesSymbol "<"
  let generics ← Generics.rule inner
  symbol ":"
  let ty ← inner.type true
  let value ← if ← symbol? "=" then some <$> inner.value true else pure none
  let generics ← generics.withPredicates inner
  symbol ";"
  return if angled || generics.predicates.isSome then none else some ⟨attrs, name, ty, value⟩

/-- An associated type after its attributes. -/
def typeRest : Parser Code := do
  word "type"
  let name ← name
  let generics ← Generics.rule inner
  let bounds ←
    if ← symbol? ":" then
      let bounds ← boundsUpTo
        (fun trees => startsWord "where" trees || startsAny ["=", ";"] trees) (boundRule inner)
      pure (if bounds.isEmpty then [] else .plain ":" :: bounds)
    else pure []
  let value ← if ← symbol? "=" then (.plain "=" :: Ty.code ·) <$> inner.type true else pure []
  let generics ← generics.withPredicates inner
  symbol ";"
  return .plain "type" :: name.piece :: generics.code ++ bounds ++ value ++ generics.whereCode ++
    [.plain ";"]

/-- A macro call that stands for items. -/
def macroRest : Parser Code := do
  let path ← plainPath
  symbol "!"
  let (delimiter, body, _) ← anyGroup
  let code := path.code ++ [.plain "!", .group delimiter (Tree.code body)]
  if delimiter = .brace then return code
  symbol ";"
  return code ++ [.plain ";"]

/-- An item after its attributes and visibility. Where nothing fits, a plain item may also have been
a macro call. -/
def itemRest (attrs : List Attribute) (plain : Bool) : Parser TraitItem := do
  if (← seesWord "fn") || (← Signature.startsHere) then
    return .method (← methodRest inner attrs)
  if ← seesWord "const" then
    if ← sees fun trees => startsName (trees.drop 1) || startsWord "_" (trees.drop 1) then
      match ← constRest inner attrs with
      | some item => return .const item
      | none => return .other []
    if ← sees fun trees => ["async", "unsafe", "extern", "fn"].any (startsWord · (trees.drop 1))
      then return .method (← methodRest inner attrs)
    drop 1
    failWanting [.form "identifier", .symbol "_", .symbol "async", .symbol "unsafe",
      .symbol "extern", .symbol "fn"]
  if ← seesWord "type" then
    return .other (Attribute.codes false attrs ++ (← typeRest inner))
  let forms : List Wanted := [.symbol "fn", .symbol "const", .symbol "type"]
  if !plain then failWanting forms
  if ← sees fun trees => startsName trees || startsSymbol "::".toList trees ||
      ["self", "super", "crate"].any (startsWord · trees) then
    return .other (Attribute.codes false attrs ++ (← macroRest))
  failWanting (forms ++ [.form "identifier", .symbol "self", .symbol "super", .symbol "crate",
    .symbol "::"])

/-- An item of a trait. One with a visibility or a `default` mark is kept as it was written. -/
def traitItem : Parser TraitItem := do
  let before ← rest
  let attrs ← Attribute.outer inner
  let visibility ← visibility
  let mark ← word? "default"
  let plain := visibility.isEmpty && mark.isEmpty
  let item ← itemRest inner attrs plain
  let written := Tree.code (before.take (before.length - (← rest).length))
  match item with
  | .other [] => return .other written
  | item => return if plain then item else .other written

/-- The bounds of a trait. -/
def supertraits : Parser Code := do
  if ← symbol? ":" then
    separatedCode "+" <$>
      separated "+" (fun trees => startsWord "where" trees || startsGroup .brace trees)
        (boundRule inner)
  else return []

def traitRule : Parser TraitDecl := do
  let outer ← Attribute.outer inner
  let visibility ← visibility
  let isUnsafe ← word? "unsafe"
  let isAuto ← word? "auto"
  word "trait"
  let name ← name
  let generics ← Generics.rule inner
  let supertraits ← supertraits inner
  let generics ← generics.withPredicates inner
  let (inners, items) ← group .brace do
    let inners ← Attribute.inners inner
    return (inners, ← manyWhile (!·.isEmpty) (traitItem inner))
  return { attrs := outer ++ inners, visibility, isUnsafe := !isUnsafe.isEmpty,
           isAuto := !isAuto.isEmpty, name, generics, supertraits, items }

/-- A trait. -/
def TraitDecl.parser : Parser TraitDecl := nested traitRule

end Preferences.Syntax
