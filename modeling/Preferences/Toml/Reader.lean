import Preferences.Toml.Basic

/-! Readers: what all parts of the grammar are made of. A reader that fails has read nothing. -/

namespace Preferences.Toml

/-- The characters still to read, and how many have been read. -/
structure Cursor where
  rest : List Char
  offset : Nat

abbrev Reader := StateT Cursor Option

namespace Reader

/-- Reads a character that passes a test. -/
def next (test : Char → Bool) : Reader Char := fun
  | ⟨c :: rest, offset⟩ => if test c then some (c, ⟨rest, offset + 1⟩) else none
  | ⟨[], _⟩ => none

def char (c : Char) : Reader Unit := do
  let _ ← next (· = c)

/-- Reads exactly these characters. -/
def chars : List Char → Reader Unit
  | [] => pure ()
  | c :: cs => do
    char c
    chars cs

/-- Reads exactly `count` characters that pass a test. -/
def exactly (test : Char → Bool) : Nat → Reader (List Char)
  | 0 => return []
  | count + 1 => do
    let c ← next test
    return c :: (← exactly test count)

/-- Reads all characters up to the first one that does not pass a test. -/
def takeWhile (test : Char → Bool) : Reader (List Char) := fun ⟨rest, offset⟩ =>
  let taken := rest.takeWhile test
  some (taken, ⟨rest.dropWhile test, offset + taken.length⟩)

/-- Whether certain characters stand next. -/
def sees (cs : List Char) : Reader Bool := return cs.isPrefixOf (← get).rest

def atEnd : Reader Unit := do
  if (← get).rest.isEmpty then return () else failure

/-- Repeats a reader until it fails, at most `bound` times. -/
def repeatUpTo (p : Reader α) : Nat → Reader (List α)
  | 0 => return []
  | bound + 1 => do
    match ← optional p with
    | none => return []
    | some value => return value :: (← repeatUpTo p bound)

/-- Repeats a reader until it fails. What succeeds reads a character, so the number of characters
bounds the repetitions. -/
def many (p : Reader α) : Reader (List α) := do
  repeatUpTo p ((← get).rest.length + 1)

/-- What `p` reads one or more times, with a separator before all but the first. -/
def separated (p : Reader α) (separator : Char) : Reader (List α) := do
  let first ← p
  return first :: (← many do
    char separator
    p)

/-- What `p` reads, with its span. -/
def spanned (p : Reader α) : Reader (Span × α) := do
  let start := (← get).offset
  let value ← p
  return (⟨start, (← get).offset⟩, value)

/-! ### Blanks and line ends -/

def isBlank (c : Char) : Bool := c = ' ' || c = '\t'

def blanks : Reader Unit := do
  let _ ← takeWhile isBlank

def newline : Reader Unit := char '\n' <|> chars ['\r', '\n']

/-- A comment, up to the end of its line. -/
def comment : Reader Unit := do
  char '#'
  let _ ← takeWhile fun c => c = '\t' || ' ' ≤ c

/-- Blanks, line ends and comments between the items of an array. -/
def layout : Reader Unit := do
  let _ ← many ((do let _ ← next isBlank) <|> newline <|> comment)

/-- What may stand behind the last part of a line, and the end of the line. -/
def lineEnd : Reader Unit := do
  blanks
  let _ ← optional comment
  newline <|> atEnd

end Reader

end Preferences.Toml
