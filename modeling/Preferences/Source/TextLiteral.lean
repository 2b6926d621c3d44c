import Preferences.Source.Number
import Preferences.Source.Token
import Preferences.Text.Quoted

/-! String literals: how they are spelled, and the text they mean. -/

namespace Preferences.Source

open Preferences.Text

/-- A string literal of a source text, or one that the compiler writes. -/
structure TextLiteral where
  spelling : String
  value : String
  suffix : String
  pos : Position
  deriving DecidableEq, Repr, Inhabited

namespace TextLiteral

/-- The string literal with a spelling, if it is one. -/
def ofSpelling? (spelling : String) (pos : Position) : Option TextLiteral :=
  (stringLiteral? spelling.toList).map fun (value, suffix) =>
    ⟨spelling, String.ofList value, String.ofList suffix, pos⟩

/-- The literal written for a text. -/
def ofValue (value : String) (pos : Position) : TextLiteral := ⟨literal value, value, "", pos⟩

def piece (lit : TextLiteral) : Piece := .plain lit.spelling

end TextLiteral

end Preferences.Source
