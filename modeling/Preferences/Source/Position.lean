/-! Positions in a source text. -/

namespace Preferences.Source

/-- A line, counted from one, and a column, counted in characters from zero. -/
structure Position where
  line : Nat
  column : Nat
  deriving DecidableEq, Repr, Inhabited

namespace Position

/-- The first position of a text, which also stands for the place of use of the whole text. -/
def start : Position := ⟨1, 0⟩

/-- The position after the character `c` at `pos`. -/
def next (pos : Position) (c : Char) : Position :=
  if c = '\n' then ⟨pos.line + 1, 0⟩ else ⟨pos.line, pos.column + 1⟩

/-- The position after the characters `cs` from `pos` on. -/
def after (pos : Position) (cs : List Char) : Position := cs.foldl next pos

end Position

end Preferences.Source
