import Preferences.Syntax.Trait

/-! What stands between an attribute's parentheses: a list of named entries, or an adapter for a
type. -/

namespace Preferences.Schema

open Preferences.Source Preferences.Syntax Parser

/-! ### Named entries -/

/-- The path in front of an entry, whose first name may be any word. -/
def entryPath : Parser Path := do
  let start ← here
  let leading ← symbol? "::"
  let first ←
    if ← sees startsAnyName then anyName
    else if ← atEnd then failWanting [.form "nested attribute"]
    else if ← sees startsLiteral then
      fail (.rule "unexpected literal in nested attribute, expected ident")
    else fail (.rule "unexpected token in nested attribute, expected ident")
  let others ← manyWhile (startsSymbol "::".toList) do
    symbol "::"
    anyName
  return ⟨if leading then some start else none, (first :: others).map (.mk · .none)⟩

/-- Entries between commas, each read by `entry` into what the earlier ones gave. -/
def entries (entry : Path → σ → Parser σ) (state : σ) : Parser σ := do
  go ((← rest).length + 1) state
where
  go : Nat → σ → Parser σ
    | 0, state => return state
    | bound + 1, state => do
      if ← atEnd then return state
      let path ← entryPath
      let state ← entry path state
      if ← atEnd then return state
      symbol ","
      go bound state

/-- Fails at the first name of an entry's path. -/
def failAtEntry (path : Path) (text : String) : Parser α :=
  failAt (((path.segments.head?).map (·.name.pos)).getD Position.start) (.rule text)

/-- The string after the `=` of an entry. -/
def entryString : Parser TextLiteral := do
  symbol "="
  stringLiteral

/-- A string after the `=` of an entry that must not be empty. -/
def nonEmptyString (complaint : String) : Parser TextLiteral := do
  let lit ← entryString
  if lit.value.isEmpty then failAt lit.pos (.rule complaint) else return lit

/-- Reads the value of a literal as code that stands where the literal does. -/
def readLiteral (lit : TextLiteral) (p : Parser α) : Parser α := do
  match Tree.ofText? lit.value with
  | none => failAt Position.start .unreadable
  | some trees =>
    match parseAll p (Tree.moveAllTo lit.pos trees) lit.pos with
    | .error error => throw error
    | .ok value =>
      if lit.suffix.isEmpty then return value
      else failAt lit.pos (.literalSuffix lit.suffix)

/-! ### Options of a preference trait -/

/-- The namespace, the name of the generated type, and the path of the runtime. -/
structure Options where
  namespaceName : Option TextLiteral
  implName : Option Name
  runtime : Option Path
  deriving Repr

namespace Options

def empty : Options := ⟨none, none, none⟩

def entry (path : Path) (options : Options) : Parser Options := do
  if path.isName "name" then
    let lit ← nonEmptyString "the preferences name must not be empty"
    return { options with namespaceName := some lit }
  else if path.isName "impl_name" then
    let implName ← readLiteral (← entryString) name
    return { options with implName := some implName }
  else if path.isName "crate" then
    let runtime ← readLiteral (← entryString) plainPath
    return { options with runtime := some runtime }
  else
    failAtEntry path "unsupported preferences option, expected `name`, `impl_name` or `crate`"

/-- The options in the arguments of the attribute. -/
def ofTrees (args : List Tree) : Except SyntaxError Options :=
  parseAll (entries entry empty) args Position.start

end Options

/-! ### Attributes of members -/

/-- The key that an attribute names, if any. -/
def keyName (attr : Attribute) : Except SyntaxError (Option TextLiteral) :=
  match attr.content with
  | .bare => .ok none
  | .list _ body closes =>
    parseAll (entries (fun path _ => do
      if path.isName "name" then some <$> nonEmptyString "preference keys must not be empty"
      else failAtEntry path "expected `name = \"...\"`") none) body closes
  | .value .. =>
    .error ⟨.rule "use the list form, e.g. #[get(name = \"key\")]", false, attr.path.pos⟩

/-- A value type and the adapter that stores it. -/
structure AdapterBinding where
  valueType : Ty
  adapter : Path
  deriving Repr

namespace AdapterBinding

def pos (binding : AdapterBinding) : Position := binding.adapter.pos

def parser : Parser AdapterBinding := do
  let valueType ← Ty.parser
  symbol "=>"
  return ⟨valueType, ← Path.parser⟩

/-- An attribute's form with arguments, as messages show it. -/
def shownForm (attr : Attribute) : String :=
  (if attr.isInner then "#!" else "#") ++ "[" ++
    "::".intercalate (attr.path.segments.map (·.name.text)) ++ "(...)]"

/-- The binding that an attribute makes. -/
def ofAttribute (attr : Attribute) : Except SyntaxError AdapterBinding :=
  match attr.content with
  | .list _ body closes => parseAll parser body closes
  | .bare =>
    .error ⟨.rule ("expected attribute arguments in parentheses: " ++ shownForm attr), false,
      attr.path.pos⟩
  | .value equals _ => .error ⟨.rule ("expected parentheses: " ++ shownForm attr), false, equals⟩

end AdapterBinding

end Preferences.Schema
