import Preferences.Number.Binary32

/-! TOML documents as trees that know where their parts stand in a text. -/

namespace Preferences.Toml

open Preferences.Number

/-- The characters of a text from `start` on, up to `stop`. -/
structure Span where
  start : Nat
  stop : Nat
  deriving DecidableEq, Repr, Inhabited

structure Key where
  name : String
  span : Span
  deriving DecidableEq, Repr, Inhabited

/-- How a table came into being: written in braces, by a header of its own, by a header of a table
inside it, or by a dotted key. -/
inductive Form where
  | inline
  | headed
  | implied
  | dotted
  deriving DecidableEq, Repr, Inhabited

/-- Entries in the order in which they came. Only what is written down as a whole has a span. -/
structure Table (ν : Type) where
  form : Form
  span : Option Span
  entries : List (Key × ν)
  deriving Repr

inductive Node where
  | string (span : Span) (text : String)
  | integer (span : Span) (n : Int)
  | float (span : Span) (x : Double)
  | boolean (span : Span) (b : Bool)
  /-- A date, a time or both, in its usual spelling. -/
  | date (span : Span) (text : String)
  | array (span : Span) (items : List Node)
  | table (table : Table Node)
  /-- The tables under headers in double brackets. -/
  | tables (span : Option Span) (elements : List (Table Node))

instance : Inhabited Node := ⟨.boolean default false⟩

def Node.span? : Node → Option Span
  | string span _ | integer span _ | float span _ | boolean span _ | date span _
  | array span _ => some span
  | table t => t.span
  | tables span _ => span

namespace Table

def empty (form : Form) (span : Option Span) : Table ν := ⟨form, span, []⟩

def get? (table : Table ν) (name : String) : Option ν :=
  (table.entries.find? (·.1.name = name)).map (·.2)

/-- The table with an entry after all others. -/
def append (table : Table ν) (key : Key) (value : ν) : Table ν :=
  { table with entries := table.entries ++ [(key, value)] }

/-- The table with another value under a name, which keeps its place. -/
def replace (table : Table ν) (name : String) (value : ν) : Table ν :=
  { table with entries := table.entries.map fun entry =>
      if entry.1.name = name then (entry.1, value) else entry }

def erase (table : Table ν) (name : String) : Table ν :=
  { table with entries := table.entries.filter (·.1.name ≠ name) }

end Table

end Preferences.Toml
