import Preferences.Store.Kind
import Preferences.Text.Quoted
import Preferences.Toml.Basic

/-! Misfits: parts of a document that no snapshot has, and how they are shown in its text. -/

namespace Preferences.Snapshot

open Preferences.Number Preferences.Store Preferences.Toml

/-- What stands in a document where something else is wanted. -/
inductive Found where
  | integer (n : Int)
  | float (x : Double)
  | boolean (b : Bool)
  | string (s : String)
  | sequence
  | map
  | kindAlone
  deriving DecidableEq, Repr

def Found.text : Found → String
  | integer n => "integer `" ++ toString n ++ "`"
  | float x => "floating point `" ++ x.pointText ++ "`"
  | boolean b => "boolean `" ++ (if b then "true" else "false") ++ "`"
  | string s => "string " ++ Text.quoted s
  | sequence => "sequence"
  | map => "map"
  | kindAlone => "unit variant"

/-- What is wanted at some place of a document. -/
inductive Sought where
  | value (kind : Kind)
  | entries
  | kindWithValue
  deriving DecidableEq, Repr

def Sought.text : Sought → String
  | value .boolean => "a boolean"
  | value .float => "f32"
  | value .integer => "i32"
  | value .long => "i64"
  | value .string => "a string"
  | entries => "a map"
  | kindWithValue => "newtype variant"

inductive Misfit where
  | otherType (found : Found) (sought : Sought)
  | outOfRange (n : Int) (sought : Sought)
  | unknownKind (name : String)
  | noValue
  | manyValues
  | noEntry
  deriving DecidableEq, Repr

def Misfit.message : Misfit → String
  | otherType found sought => "invalid type: " ++ found.text ++ ", expected " ++ sought.text
  | outOfRange n sought =>
    "invalid value: " ++ (Found.integer n).text ++ ", expected " ++ sought.text
  | unknownKind name =>
    "unknown variant `" ++ name ++ "`, expected one of " ++
      ", ".intercalate (Kind.all.map fun kind => "`" ++ kind.name ++ "`")
  | noValue => "wanted exactly 1 element, found 0 elements"
  | manyValues => "wanted exactly 1 element, more than 1 element"
  | noEntry => "wanted string or table"

/-! ### Places in a text -/

/-- The number of the line on which a place stands, from zero, the column there, and the line. -/
def placeOf (text : List Char) (offset : Nat) : Nat × Nat × List Char :=
  let before := text.take offset
  let column := (before.reverse.takeWhile (· ≠ '\n')).length
  (before.count '\n', column,
    (text.drop (offset - column)).takeWhile (· ≠ '\n'))

def byteCount (cs : List Char) : Nat := (String.ofList cs).utf8ByteSize

/-- A message below the line of the text that it is about, with its part of the line marked. Marks
are counted in bytes and end with the line. -/
def shownIn (text : String) (span : Span) (message : String) : String :=
  let cs := text.toList
  let (line, column, content) := placeOf cs span.start
  let marks := min (byteCount ((cs.take span.stop).drop span.start)) (byteCount content - column)
  let number := toString (line + 1)
  let gutter := "".pushn ' ' (number.length + 1) ++ "|"
  "\n".intercalate
    ["TOML parse error at line " ++ number ++ ", column " ++ toString (column + 1),
      gutter,
      number ++ " | " ++ String.ofList content,
      gutter ++ "".pushn ' ' (column + 1) ++ "".pushn '^' (max 1 marks),
      message, ""]

end Preferences.Snapshot
