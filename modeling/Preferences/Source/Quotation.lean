import Preferences.Text.Blank
import Preferences.Text.Identifier

/-! Quoted literals: what stands between the quotes, read one character at a time, and the text
that it means. -/

namespace Preferences.Source

open Preferences.Text

/-- What a quoted literal may hold: any text, ASCII bytes, or text without a null. -/
inductive Dialect where
  | text
  | bytes
  | nonNull
  deriving DecidableEq, Repr

def Dialect.admits (dialect : Dialect) (c : Char) : Bool :=
  match dialect with
  | .text => true
  | .bytes => c.toNat < 128
  | .nonNull => c ≠ '\x00'

def hexDigit? (c : Char) : Option Nat :=
  if '0' ≤ c ∧ c ≤ '9' then some (c.toNat - '0'.toNat)
  else if 'a' ≤ c ∧ c ≤ 'f' then some (c.toNat - 'a'.toNat + 10)
  else if 'A' ≤ c ∧ c ≤ 'F' then some (c.toNat - 'A'.toNat + 10)
  else none

/-- Where the reader stands between the quotes. A continuation is the blank space after a backslash
at the end of a line, which means nothing. -/
inductive Reading where
  | plain
  | carriage
  | escape
  | hexHigh
  | hexLow (high : Nat)
  | codeOpening
  | codeDigits (value count : Nat)
  | continuation
  | continuationCarriage
  deriving DecidableEq, Repr

namespace Reading

/-- The character of a code point, where the dialect admits it as an escape. -/
def escaped (dialect : Dialect) (code : Nat) : Option (Reading × List Char) :=
  if code.isValidChar ∧ (dialect = .nonNull → code ≠ 0) then some (.plain, [Char.ofNat code])
  else none

def stepPlain (dialect : Dialect) (c : Char) : Option (Reading × List Char) :=
  if c = '\r' then some (.carriage, [])
  else if c = '\\' then some (.escape, [])
  else if dialect.admits c then some (.plain, [c])
  else none

/-- The character after a backslash. -/
def stepEscape (dialect : Dialect) (c : Char) : Option (Reading × List Char) :=
  match c with
  | 'n' => some (.plain, ['\n'])
  | 'r' => some (.plain, ['\r'])
  | 't' => some (.plain, ['\t'])
  | '\\' => some (.plain, ['\\'])
  | '\'' => some (.plain, ['\''])
  | '"' => some (.plain, ['"'])
  | '0' => escaped dialect 0
  | 'x' => some (.hexHigh, [])
  | 'u' => if dialect = .bytes then none else some (.codeOpening, [])
  | '\n' => some (.continuation, [])
  | '\r' => some (.continuationCarriage, [])
  | _ => none

/-- The digits of a code point escape: one to six, with underscores after the first. -/
def stepCode (dialect : Dialect) (value count : Nat) (c : Char) :
    Option (Reading × List Char) :=
  match hexDigit? c with
  | some digit =>
    if count = 6 then none else some (.codeDigits (16 * value + digit) (count + 1), [])
  | none =>
    if count = 0 then none
    else if c = '_' then some (.codeDigits value count, [])
    else if c = '\x7d' then escaped dialect value
    else none

/-- Reads one character: where the reader stands after it, and what it adds to the text. -/
def step (dialect : Dialect) (reading : Reading) (c : Char) : Option (Reading × List Char) :=
  match reading with
  | .plain => stepPlain dialect c
  | .carriage => if c = '\n' then some (.plain, ['\n']) else none
  | .escape => stepEscape dialect c
  | .hexHigh => do
    let digit ← hexDigit? c
    if dialect = .text ∧ 8 ≤ digit then none else some (.hexLow digit, [])
  | .hexLow high => do
    let digit ← hexDigit? c
    escaped dialect (16 * high + digit)
  | .codeOpening => if c = '\x7b' then some (.codeDigits 0 0, []) else none
  | .codeDigits value count => stepCode dialect value count c
  | .continuation =>
    if c = '\r' then some (.continuationCarriage, [])
    else if isBlank c && dialect.admits c then some (.continuation, [])
    else stepPlain dialect c
  | .continuationCarriage => if c = '\n' then some (.continuation, []) else none

/-- Whether a quote ends the literal here. -/
def endsAtQuote : Reading → Bool
  | .plain | .continuation => true
  | _ => false

end Reading

/-- The text up to the closing quote, and what follows the quote. -/
def readQuoted (dialect : Dialect) : Reading → List Char → Option (List Char × List Char)
  | _, [] => none
  | reading, c :: rest =>
    if reading.endsAtQuote && c = '"' then some ([], rest)
    else do
      let (next, text) ← reading.step dialect c
      let (more, rest) ← readQuoted dialect next rest
      some (text ++ more, rest)

/-- What follows one escape, read from after its backslash. -/
def escapeRest (dialect : Dialect) : Reading → List Char → Option (List Char)
  | .plain, rest => some rest
  | .continuation, _ | .continuationCarriage, _ | _, [] => none
  | reading, c :: rest => do
    let (next, _) ← reading.step dialect c
    escapeRest dialect next rest

/-- The number of hash marks before the opening quote of a raw literal, and what follows the
quote. -/
def rawOpening : Nat → List Char → Option (Nat × List Char)
  | count, '#' :: rest => rawOpening (count + 1) rest
  | count, '"' :: rest => if count ≤ 255 then some (count, rest) else none
  | _, _ => none

/-- The text of a raw literal up to a quote with as many hash marks as before its opening one. -/
def readRaw (dialect : Dialect) (hashes : Nat) : List Char → Option (List Char × List Char)
  | [] => none
  | '\r' :: '\n' :: rest => do
    let (more, rest) ← readRaw dialect hashes rest
    some ('\r' :: '\n' :: more, rest)
  | '\r' :: _ => none
  | c :: rest =>
    if c = '"' ∧ rest.take hashes = List.replicate hashes '#' then some ([], rest.drop hashes)
    else if dialect.admits c then do
      let (more, rest) ← readRaw dialect hashes rest
      some (c :: more, rest)
    else none

/-- A literal from after its opening `"`, or from after the letter that makes it raw. -/
def readString (dialect : Dialect) (raw : Bool) (rest : List Char) :
    Option (List Char × List Char) :=
  if raw then do
    let (hashes, rest) ← rawOpening 0 rest
    readRaw dialect hashes rest
  else readQuoted dialect .plain rest

/-- The text of the string literal at the start of `s`, and what follows its closing quote. -/
def stringLiteral? : List Char → Option (List Char × List Char)
  | '"' :: rest => readString .text false rest
  | 'r' :: rest => readString .text true rest
  | _ => none

/-- What follows the string literal of another dialect at the start of `s`. -/
def markedStringRest : List Char → Option (List Char)
  | 'b' :: '"' :: rest => (readString .bytes false rest).map (·.2)
  | 'b' :: 'r' :: rest => (readString .bytes true rest).map (·.2)
  | 'c' :: '"' :: rest => (readString .nonNull false rest).map (·.2)
  | 'c' :: 'r' :: rest => (readString .nonNull true rest).map (·.2)
  | _ => none

/-- What follows one character, or one escape, and a closing quote. -/
def quotedCharRest (dialect : Dialect) (s : List Char) : Option (List Char) := do
  let rest ←
    match s with
    | '\\' :: rest => escapeRest dialect .escape rest
    | c :: rest => if dialect.admits c then some rest else none
    | [] => none
  match rest with
  | '\'' :: rest => some rest
  | _ => none

/-- What follows the character or byte literal at the start of `s`. -/
def charLiteralRest : List Char → Option (List Char)
  | 'b' :: '\'' :: rest => quotedCharRest .bytes rest
  | '\'' :: rest => quotedCharRest .text rest
  | _ => none

end Preferences.Source
