import Preferences.Toml.Scalar
import Preferences.Toml.Tree

/-! Reading a text into a document. -/

namespace Preferences.Toml

open Preferences.Number Reader

/-- Values nest no deeper than this, and no key has more parts. -/
def nestingLimit : Nat := 79

/-! ### Keys and values -/

def isBareChar (c : Char) : Bool := c.isAlphanum || c = '_' || c = '-'

def bareKey : Reader String := do
  let first ← next isBareChar
  return String.ofList (first :: (← takeWhile isBareChar))

def keyPart : Reader Key := do
  blanks
  let (span, name) ← spanned
    (lineString '"' escapedChar <|> lineString '\'' literalChar <|> bareKey)
  blanks
  return ⟨name, span⟩

/-- The parts of a key, of which the last one stands apart. -/
def dottedKey : Reader (List Key × Key) := do
  let parts ← separated keyPart '.'
  match parts.getLast? with
  | some last => if parts.length ≤ nestingLimit then return (parts.dropLast, last) else failure
  | none => failure

/-- A key and its value, which `value` reads. -/
def assignment (value : Reader Node) : Reader Assignment := do
  let (path, key) ← dottedKey
  char '='
  blanks
  return ⟨path, key, ← value⟩

/-- The items of an array. A comma may follow the last one. -/
def arrayItems (value : Reader Node) : Reader (List Node) := do
  char '['
  let items ← optional (separated (do layout; let item ← value; layout; return item) ',')
  if items.isSome then
    let _ ← optional (char ',')
  layout
  char ']'
  return items.getD []

/-- The entries of a table in braces. -/
def inlineEntries (value : Reader Node) : Reader (Table Node) := do
  char '\x7b'
  let lines ← optional (separated (do let line ← assignment value; blanks; return line) ',')
  blanks
  char '\x7d'
  Table.ofInline (lines.getD [])

/-- A value with at most `depth` levels of values around others in it. -/
def value (depth : Nat) : Reader Node := do
  let (span, made) ← spanned (scalar <|>
    match depth with
    | 0 => failure
    | depth + 1 =>
      (do let items ← arrayItems (value depth); return (.array · items)) <|>
      (do let table ← inlineEntries (value depth)
          return fun span => .table { table with span := some span }))
  return made span

/-! ### Lines -/

/-- A line: a blank one, a header, or an assignment. -/
inductive Line where
  | blank
  | header (isElement : Bool) (path : List Key) (key : Key) (span : Span)
  | assignment (line : Assignment)

def header : Reader Line := do
  let (span, isElement, path, key) ← spanned do
    let isElement ← sees ['[', '[']
    let width := if isElement then 2 else 1
    let _ ← exactly (· = '[') width
    let (path, key) ← dottedKey
    let _ ← exactly (· = ']') width
    return (isElement, path, key)
  return .header isElement path key span

def line : Reader Line := do
  blanks
  (do newline; return .blank) <|>
    (do comment; newline <|> atEnd; return .blank) <|>
    (do let line ← header <|> (do return .assignment (← assignment (value nestingLimit)))
        lineEnd
        return line)

/-- The assignments before the first header, and the blocks from there on. -/
def blocksOf : List Line → List Assignment × List Block
  | [] => ([], [])
  | .blank :: rest => blocksOf rest
  | .assignment line :: rest =>
    let (top, blocks) := blocksOf rest
    (line :: top, blocks)
  | .header isElement path key span :: rest =>
    let (lines, blocks) := blocksOf rest
    ([], ⟨isElement, path, key, span, lines⟩ :: blocks)

def document : Reader (Table Node) := do
  let _ ← optional (char '\ufeff')
  let lines ← many line
  blanks
  atEnd
  let (top, blocks) := blocksOf lines
  Table.ofDocument top blocks

/-- The root table of a text, if the text is a document. -/
def parse? (text : String) : Option (Table Node) :=
  (document.run ⟨text.toList, 0⟩).map (·.1)

end Preferences.Toml
