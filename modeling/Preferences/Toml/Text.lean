import Preferences.Number.Digits
import Preferences.Toml.Reader

/-! Strings of a document, on one line or on several, with escapes or without. -/

namespace Preferences.Toml

open Preferences.Number Reader

/-- Whether a character stands for itself in strings: a tab, or one that is no control character. -/
def isPlainChar (c : Char) : Bool := c = '\t' || (' ' ≤ c && c ≠ '\x7f')

/-- The character of an escape by code point. -/
def codePoint (digits : Nat) : Reader Char := do
  let n := ofDigits 16 (← exactly (isDigitOf 16) digits)
  if n.isValidChar then return Char.ofNat n else failure

def escape : Reader Char := do
  char '\\'
  match ← next fun _ => true with
  | 'b' => return '\x08'
  | 't' => return '\t'
  | 'n' => return '\n'
  | 'f' => return '\x0c'
  | 'r' => return '\r'
  | '"' => return '"'
  | '\\' => return '\\'
  | 'u' => codePoint 4
  | 'U' => codePoint 8
  | _ => failure

/-- A character of a string with escapes. -/
def escapedChar : Reader Char :=
  next (fun c => isPlainChar c && c ≠ '"' && c ≠ '\\') <|> escape

/-- A character of a string without escapes. -/
def literalChar : Reader Char := next fun c => isPlainChar c && c ≠ '\''

/-- A string on one line. -/
def lineString (quote : Char) (content : Reader Char) : Reader String := do
  char quote
  let cs ← many content
  char quote
  return String.ofList cs

/-- A line end that is escaped, with all blanks and line ends behind it. It stands for nothing. -/
def lineFold : Reader Unit := do
  char '\\'
  blanks
  newline
  let _ ← many ((do let _ ← next isBlank) <|> newline)

/-- A quote that does not begin the end of a string on several lines. -/
def innerQuote (quote : Char) : Reader Char := do
  if ← sees [quote, quote, quote] then failure
  char quote
  return quote

/-- A string on several lines. A line end right after the opening is no part of it. Up to two quotes
may stand directly before the closing ones. -/
def multilineString (quote : Char) (content : Reader (List Char)) : Reader String := do
  chars [quote, quote, quote]
  let _ ← optional newline
  let parts ← many (content <|> (do return [← innerQuote quote]))
  let run ← takeWhile (· = quote)
  if 3 ≤ run.length ∧ run.length ≤ 5 then
    return String.ofList (parts.flatten ++ run.drop 3)
  else failure

/-- A line end inside a string, however it is written. -/
def innerLineEnd : Reader (List Char) := do
  newline
  return ['\n']

def string : Reader String :=
  multilineString '"'
      ((do lineFold; return []) <|> (do return [← escapedChar]) <|> innerLineEnd) <|>
    lineString '"' escapedChar <|>
    multilineString '\'' ((do return [← literalChar]) <|> innerLineEnd) <|>
    lineString '\'' literalChar

end Preferences.Toml
