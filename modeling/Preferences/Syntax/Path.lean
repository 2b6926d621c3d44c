import Preferences.Syntax.Type

/-! The grammar of paths of bare names, and what every rule knows of the rules inside it. -/

namespace Preferences.Syntax

open Preferences.Source Parser

/-- The rules for the parts inside a larger one, used only after a token is read. A type may be a
sum of bounds where `allowPlus` is set; a value may begin with a struct literal where `allowStruct`
is set. -/
structure Inner where
  type (allowPlus : Bool) : Parser Ty
  bound : Parser Code
  value (allowStruct : Bool) : Parser Code
  pattern : Parser Code
  block : Parser Code

/-- The parts without their separators, and whether one follows the last part. -/
def withoutSeparators (parts : List (α × Bool)) : List α × Bool :=
  (parts.map (·.1), (parts.getLast?.map (·.2)).getD false)

/-- The code of parts, with the separators that the text has. -/
def separatedCode (separator : String) (parts : List (Code × Bool)) : Code :=
  parts.flatMap fun (code, followed) => code ++ if followed then [.plain separator] else []

/-- The parts that `first` selects, then the others. Each has a separator after it, but for the
last one, which keeps what it had. -/
def reordered (first : α → Bool) (parts : List (α × Bool)) : List α × Bool :=
  withoutSeparators (parts.filter (first ·.1) ++ parts.filter (!first ·.1))

/-- Whether a word that only paths allow as a name stands next. -/
def startsPathWord (trees : List Tree) : Bool :=
  ["super", "self", "Self", "crate"].any (startsWord · trees)

/-- A path of bare names, such as that of an attribute. -/
def plainPath : Parser Path := do
  let start ← here
  let leading ← symbol? "::"
  let parts ← joined "::" (fun trees => !(startsName trees || startsPathWord trees)) anyName
  let (names, trailing) := withoutSeparators parts
  if names.isEmpty then
    let _ ← name
    failWanting [.form "identifier"]
  else if trailing then failWanting [.form "path segment after `::`"]
  else return ⟨if leading then some start else none, names.map (.mk · .none)⟩

end Preferences.Syntax
