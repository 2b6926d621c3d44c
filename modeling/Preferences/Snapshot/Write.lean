import Preferences.Store.Entries
import Preferences.Store.Value

/-! Writing snapshots: one table for each key, in the order of the keys. -/

namespace Preferences.Snapshot

open Preferences.Number Preferences.Store

/-! ### Strings -/

/-- Whether no string without escapes can hold a character. A tab and a line end are no such ones,
but a line end needs a string on several lines. -/
def isControl (c : Char) : Bool := (c < ' ' && c ≠ '\t' && c ≠ '\n') || c = '\x7f'

/-- Whether a text has three of a character in a row. -/
def hasTriple (c : Char) : List Char → Bool
  | [] => false
  | d :: rest => [c, c, c].isPrefixOf (d :: rest) || hasTriple c rest

/-- An escape of a character by its code point. -/
def codePointEscape (c : Char) : List Char :=
  let digits := (Nat.toDigits 16 c.toNat).map Char.toUpper
  '\\' :: 'u' :: (List.replicate (4 - digits.length) '0' ++ digits)

/-- A character other than a quote or a line end, as it stands between double quotes. -/
def escaped (c : Char) : List Char :=
  match c with
  | '\x08' => ['\\', 'b']
  | '\t' => ['\\', 't']
  | '\x0c' => ['\\', 'f']
  | '\r' => ['\\', 'r']
  | '\\' => ['\\', '\\']
  | c => if isControl c then codePointEscape c else [c]

/-- A text between double quotes, on one line. -/
def lineChars (cs : List Char) : List Char :=
  cs.flatMap fun c =>
    if c = '"' then ['\\', '"'] else if c = '\n' then ['\\', 'n'] else escaped c

/-- A text between triple double quotes. Of quotes in a row each third one is escaped; `quotes`
counts those before it, back to an escape. -/
def multilineChars (quotes : Nat) : List Char → List Char
  | [] => []
  | '"' :: rest =>
    if quotes = 2 then '\\' :: '"' :: multilineChars 0 rest
    else '"' :: multilineChars (quotes + 1) rest
  | '\n' :: rest => '\n' :: multilineChars 0 rest
  | c :: rest => escaped c ++ multilineChars 0 rest

def lineString (cs : List Char) : String := "\"" ++ String.ofList (lineChars cs) ++ "\""

def literalString (cs : List Char) : String := "'" ++ String.ofList cs ++ "'"

/-- Between triple quotes, a text of several lines begins on a line of its own. -/
def multilineString (quotes : String) (cs content : List Char) : String :=
  quotes ++ (if cs.contains '\n' then "\n" else "") ++ String.ofList content ++ quotes

/-- A string in the first notation that needs no escapes, tabs apart, or with escapes if there is
none. -/
def stringText (s : String) : String :=
  let cs := s.toList
  let hasControl := cs.any isControl
  let hasNewline := cs.contains '\n'
  if !(cs.contains '"' || cs.contains '\\' || hasNewline || hasControl) then lineString cs
  else if !(cs.contains '\'' || hasNewline || hasControl) then literalString cs
  else if !(cs.contains '\\' || hasControl || hasTriple '"' cs) then
    multilineString "\"\"\"" cs (multilineChars 0 cs)
  else if !(hasControl || hasTriple '\'' cs) then multilineString "'''" cs cs
  else if hasNewline then multilineString "\"\"\"" cs (multilineChars 0 cs)
  else lineString cs

/-! ### Keys and values -/

def isBareKey (cs : List Char) : Bool :=
  !cs.isEmpty && cs.all fun c => c.isAlphanum || c = '_' || c = '-'

/-- A key in the first notation that needs no escapes, tabs apart, or with escapes if there is
none. -/
def keyText (key : String) : String :=
  let cs := key.toList
  let hasControl := cs.any fun c => isControl c || c = '\n'
  if isBareKey cs then key
  else if !(cs.contains '"' || cs.contains '\\' || hasControl) then lineString cs
  else if !(cs.contains '\'' || hasControl) then literalString cs
  else lineString cs

/-- A number as it is written. No NaN has a sign. -/
def floatText (x : Binary32) : String :=
  match Double.ofBinary32 x with
  | .nan _ => "nan"
  | wide => wide.pointText

def valueText : Value → String
  | .boolean b => if b then "true" else "false"
  | .float x => floatText x
  | .integer n => toString n.toInt
  | .long n => toString n.toInt
  | .string s => stringText s

/-! ### Snapshots -/

def entryText (entry : String × Value) : String :=
  "[values." ++ keyText entry.1 ++ "]\n" ++ entry.2.kind.name ++ " = " ++ valueText entry.2 ++ "\n"

def write (values : Entries Value) : String :=
  if values.list.isEmpty then "[values]\n"
  else "\n".intercalate (values.list.map entryText)

end Preferences.Snapshot
