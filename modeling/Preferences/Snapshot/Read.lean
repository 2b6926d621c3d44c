import Preferences.Snapshot.Misfit
import Preferences.Store.Gateway
import Preferences.Toml.Document

/-! Reading snapshots: documents in which the table `values` has a table for each key, with the kind
and the value of what is stored. -/

namespace Preferences.Snapshot

open Preferences.Number Preferences.Store Preferences.Toml

/-- A misfit where it stands. -/
structure Misplaced where
  misfit : Misfit
  span : Option Span

/-- A misfit that stands at `span` unless it has a place already. -/
def Misplaced.within (span : Option Span) (m : Misplaced) : Misplaced :=
  { m with span := m.span.or span }

def foundIn : Node → Found
  | .string _ s => .string s
  | .integer _ n => .integer n
  | .float _ x => .float x
  | .boolean _ b => .boolean b
  | .date .. | .table _ => .map
  | .array .. | .tables .. => .sequence

/-- A value of a kind. Whole numbers are floats too, rounded to the nearest one. -/
def valueOf (kind : Kind) (node : Node) : Except Misfit Value :=
  match kind, node with
  | .boolean, .boolean _ b => .ok (.boolean b)
  | .float, .float _ x => .ok (.float (.ofDouble x))
  | .float, .integer _ n => .ok (.float (.ofInt n))
  | .integer, .integer _ n =>
    if Int32.minValue.toInt ≤ n ∧ n ≤ Int32.maxValue.toInt then .ok (.integer (Int32.ofInt n))
    else .error (.outOfRange n (.value .integer))
  | .long, .integer _ n => .ok (.long (Int64.ofInt n))
  | .string, .string _ s => .ok (.string s)
  | kind, node => .error (.otherType (foundIn node) (.value kind))

/-- The value in a table whose only key is its kind. -/
def taggedValue (table : Table Node) : Except Misplaced Value :=
  match table.entries with
  | [] => .error ⟨.noValue, table.span⟩
  | [(key, node)] =>
    match Kind.ofName? key.name with
    | none => .error ⟨.unknownKind key.name, some key.span⟩
    | some kind => (valueOf kind node).mapError fun misfit => ⟨misfit, node.span?.or table.span⟩
  | _ => .error ⟨.manyValues, table.span⟩

/-- The value of an entry. A kind alone, or one that does not exist, is refused as such. -/
def entryValue : Node → Except Misplaced Value
  | .table table => taggedValue table
  | .string span name =>
    match Kind.ofName? name with
    | some _ => .error ⟨.otherType .kindAlone .kindWithValue, some span⟩
    | none => .error ⟨.unknownKind name, some span⟩
  | node => .error ⟨.noEntry, node.span?⟩

/-- The entries in the table `values`. -/
def valuesOf : Node → Except Misplaced (List (String × Value))
  | .table table => table.entries.mapM fun (key, node) => do
    let value ← (entryValue node).mapError (Misplaced.within (some key.span))
    return (key.name, value)
  | .date span text => .error ⟨.unknownKind text, some span⟩
  | node => .error ⟨.otherType (foundIn node) .entries, node.span?⟩

/-- The values in a document. Without a table of them there are none. -/
def entriesOf (root : Table Node) : Except Misplaced (Entries Value) :=
  match root.entries.find? (·.1.name = "values") with
  | none => .ok .empty
  | some (key, node) =>
    match valuesOf node with
    | .ok entries => .ok (.ofList entries)
    | .error m => .error (m.within (some key.span))

/-- The values of a snapshot. -/
def read (text : String) : Except GatewayError (Entries Value) :=
  match Toml.parse? text with
  | none => .error (.snapshot "TOML syntax")
  | some root =>
    (entriesOf root).mapError fun m =>
      .snapshot (shownIn text (m.span.getD ⟨0, 0⟩) m.misfit.message)

end Preferences.Snapshot
