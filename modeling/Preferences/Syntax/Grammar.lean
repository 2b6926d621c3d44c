import Preferences.Syntax.Value

/-! The grammar of types, patterns and values as a whole. Each rule reads a token before it uses
another one on what is inside, so no nesting is deeper than the trees to read. -/

namespace Preferences.Syntax

open Preferences.Source Parser

/-- A rule that nothing satisfies. -/
def Inner.none : Inner where
  type _ := failWanting typeForms
  bound := failWanting [.form "identifier"]
  value _ := failWanting [.form "an expression"]
  pattern := failWanting Pattern.forms
  block := failWanting [Delimiter.form .brace]

/-- The rules for `depth` levels of nesting. -/
def Inner.ofDepth : Nat → Inner
  | 0 => .none
  | depth + 1 =>
    let inner := Inner.ofDepth depth
    { type := typeRule inner
      bound := boundRule inner
      value := Value.valueRule inner
      pattern := Pattern.code <$> Pattern.rule inner
      block := Value.blockRule inner }

/-- Reads with rules that are deep enough for all trees to come. -/
def nested (p : Inner → Parser α) : Parser α := do
  p (Inner.ofDepth (Tree.sizes (← rest) + 1))

/-- A type. -/
def Ty.parser : Parser Ty := nested (typeRule · true)

/-- A path with arguments. -/
def Path.parser : Parser Path := nested (path · false)

end Preferences.Syntax
