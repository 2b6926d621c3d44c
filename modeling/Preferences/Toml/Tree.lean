import Preferences.Toml.Basic

/-! Building tables from keys and headers, which may each be written only once. -/

namespace Preferences.Toml

/-- A value for the key at the end of a path. -/
structure Assignment where
  path : List Key
  key : Key
  value : Node

/-- A table with a header, or an element of an array of tables, and the lines below it. -/
structure Block where
  isElement : Bool
  path : List Key
  key : Key
  span : Span
  lines : List Assignment

/-- Whether a path through tables made in form `made` may go through this table. Dotted keys reach
into no table that is written as a whole, and nothing reaches into one in braces. -/
def Form.allows (form made : Form) : Bool :=
  match form with
  | .inline => false
  | .headed => made ≠ .dotted
  | .implied | .dotted => true

/-- Changes the table at the end of a path. Tables that are missing on the way are made. -/
def Table.update (made : Form) (change : Table Node → Option (Table Node)) :
    List Key → Table Node → Option (Table Node)
  | [], table => change table
  | key :: path, table =>
    match table.get? key.name with
    | none => do
      let below ← update made change path (.empty made none)
      return table.append key (.table below)
    | some (.table below) =>
      if below.form.allows made then do
        let below ← update made change path below
        return table.replace key.name (.table below)
      else none
    | some (.tables span elements) => do
      let last ← elements.getLast?
      let last ← update made change path last
      return table.replace key.name (.tables span (elements.dropLast ++ [last]))
    | some _ => none

/-- A table with a value assigned. A dotted key ends only in a table made by dotted keys. -/
def Table.assign (table : Table Node) (line : Assignment) : Option (Table Node) :=
  table.update .dotted (fun target =>
    if (target.form = .dotted) = line.path.isEmpty || (target.get? line.key.name).isSome then none
    else some (target.append line.key line.value)) line.path

/-- A table with all lines below its header, over which its span extends. -/
def Table.assignAll (table : Table Node) (lines : List Assignment) : Option (Table Node) :=
  lines.foldlM (fun table line => do
    let table ← table.assign line
    match table.span, line.value.span? with
    | some whole, some last => return { table with span := some ⟨whole.start, last.stop⟩ }
    | _, _ => return table) table

/-- From the start of the first table to the end of the last one. -/
def spanOfAll (tables : List (Table Node)) : Option Span := do
  let first ← (← tables.head?).span
  let last ← (← tables.getLast?).span
  return ⟨first.start, last.stop⟩

/-- The table with a headed table under a key. One that longer headers have made is completed, and
then comes last. -/
def Table.addHeaded (table : Table Node) (block : Block) : Option (Table Node) :=
  match table.get? block.key.name with
  | none => do
    let below ← (Table.empty .headed (some block.span)).assignAll block.lines
    return table.append block.key (.table below)
  | some (.table below) =>
    if below.form = .implied then do
      let below ←
        { below with form := .headed, span := some block.span : Table Node }.assignAll block.lines
      return (table.erase block.key.name).append block.key (.table below)
    else none
  | some _ => none

/-- The table with one more element of the array of tables under a key. -/
def Table.addElement (table : Table Node) (block : Block) : Option (Table Node) := do
  let element ← (Table.empty .headed (some block.span)).assignAll block.lines
  match table.get? block.key.name with
  | none => return table.append block.key (.tables (spanOfAll [element]) [element])
  | some (.tables _ elements) =>
    let elements := elements ++ [element]
    return table.replace block.key.name (.tables (spanOfAll elements) elements)
  | some _ => none

def Table.addBlock (root : Table Node) (block : Block) : Option (Table Node) :=
  root.update .implied
    (fun table => if block.isElement then table.addElement block else table.addHeaded block)
    block.path

/-- The table in braces with some entries. -/
def Table.ofInline (lines : List Assignment) : Option (Table Node) :=
  lines.foldlM Table.assign (.empty .inline none)

/-- The document with lines at its top and blocks below them. -/
def Table.ofDocument (top : List Assignment) (blocks : List Block) : Option (Table Node) := do
  let root ← (Table.empty .headed none).assignAll top
  blocks.foldlM Table.addBlock root

end Preferences.Toml
