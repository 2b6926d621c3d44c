import Preferences.Source.Number
import Preferences.Source.Token
import Preferences.Text.Quoted

/-! Lexemes: the smallest parts of a source text, read from its start. -/

namespace Preferences.Source

open Preferences.Text

/-- A lexeme. Blank space and plain comments are blank; a doc comment stands for an attribute. -/
inductive Lexeme where
  | blank
  | doc (inner : Bool) (text : List Char)
  | opening (delimiter : Delimiter)
  | closing (delimiter : Delimiter)
  | literal
  | punct (char : Char) (joint : Bool)
  | name
  deriving Repr

/-- The start of a line up to its end, which a line feed makes, and what follows. -/
def splitLine : List Char → List Char × List Char
  | [] => ([], [])
  | '\n' :: rest => ([], '\n' :: rest)
  | '\r' :: '\n' :: rest => ([], '\n' :: rest)
  | c :: rest => let (line, rest) := splitLine rest; (c :: line, rest)

/-- The inside of a block comment after its opening marks, and what follows the comment. Comments
nest; `depth` counts those open around this one. -/
def splitBlock : Nat → List Char → Option (List Char × List Char)
  | _, [] => none
  | 0, '*' :: '/' :: rest => some ([], rest)
  | depth + 1, '*' :: '/' :: rest => do
    let (inside, rest) ← splitBlock depth rest
    some ('*' :: '/' :: inside, rest)
  | depth, '/' :: '*' :: rest => do
    let (inside, rest) ← splitBlock (depth + 1) rest
    some ('/' :: '*' :: inside, rest)
  | depth, c :: rest => do
    let (inside, rest) ← splitBlock depth rest
    some (c :: inside, rest)

/-- Whether `s` begins with a doc comment, of a line or of a block. -/
def opensDoc : List Char → Bool
  | '/' :: '/' :: '!' :: _ | '/' :: '*' :: '!' :: _ => true
  | '/' :: '/' :: '/' :: rest => rest.head? ≠ some '/'
  | '/' :: '*' :: '*' :: rest => rest.head? ≠ some '*' && rest.head? ≠ some '/'
  | _ => false

/-- Whether a carriage return stands in the text without a line feed after it. -/
def hasBareReturn : List Char → Bool
  | [] => false
  | '\r' :: rest => rest.head? ≠ some '\n' || hasBareReturn rest
  | _ :: rest => hasBareReturn rest

/-- The inside of the comment at the start of `s` after its two opening marks, and what follows. -/
def comment? : List Char → Option (List Char × List Char)
  | '/' :: '/' :: rest => some (splitLine rest)
  | '/' :: '*' :: rest => splitBlock 0 rest
  | _ => none

/-- Blank characters, with the two direction marks. -/
def isSpace (c : Char) : Bool := isBlank c || c = '\u200e' || c = '\u200f'

/-- Blank space or a comment. -/
def spaceOrComment? (s : List Char) : Option (Lexeme × List Char) :=
  match s with
  | c :: rest =>
    if isSpace c then some (.blank, rest)
    else do
      let (inside, rest) ← comment? s
      if opensDoc s then
        let text := inside.drop 1
        if hasBareReturn text then none else some (.doc (inside.head? = some '!') text, rest)
      else some (.blank, rest)
  | [] => none

/-- The spelling of a literal that was never read well; it is one token. -/
def unreadable : List Char := "(/*ERROR*/)".toList

def bracket? : List Char → Option (Lexeme × List Char)
  | '(' :: rest => if unreadable.isPrefixOf ('(' :: rest) then none
      else some (.opening .parenthesis, rest)
  | '[' :: rest => some (.opening .bracket, rest)
  | '\x7b' :: rest => some (.opening .brace, rest)
  | ')' :: rest => some (.closing .parenthesis, rest)
  | ']' :: rest => some (.closing .bracket, rest)
  | '\x7d' :: rest => some (.closing .brace, rest)
  | _ => none

/-- What follows the literal at the start of `s`, its suffix included. -/
def literalRest (s : List Char) : Option (List Char) :=
  (((stringLiteral? s).map (·.2)).or ((markedStringRest s).or (charLiteralRest s))).map dropName
    |>.or (numberRest s)

/-- What follows the name at the start of `s`, raw or not. A few words have no raw form. -/
def nameRest (s : List Char) : Option (List Char) :=
  match s with
  | 'r' :: '#' :: rest =>
    let after := dropName rest
    let name := rest.take (rest.length - after.length)
    if name.isEmpty || ["_", "super", "self", "Self", "crate"].contains (String.ofList name) then
      none
    else some after
  | c :: _ => if isNameStart c then some (dropName s) else none
  | [] => none

/-- Beginnings of literals that are never read as names. -/
def literalOpenings : List (List Char) :=
  ["r\"", "r#\"", "r##", "b\"", "b'", "br\"", "br#", "c\"", "cr\"", "cr#"].map String.toList

/-- Whether `s` begins with a punctuation character, which a comment's first slash is not. -/
def startsPunct (s : List Char) : Bool :=
  match s with
  | '/' :: '/' :: _ | '/' :: '*' :: _ => false
  | c :: _ => "~!@#$%^&*-=+|;:,<.>/?'".toList.contains c
  | [] => false

/-- A punctuation character. A quote is one only in front of the name of a lifetime. -/
def punct? (s : List Char) : Option (Lexeme × List Char) :=
  match s with
  | '\'' :: rest => do
    let after ← nameRest rest
    let raw := match rest with
      | 'r' :: '#' :: _ => true
      | _ => false
    if after.head? = some '\'' || (after.head? = some '#' && !raw) then none
    else some (.punct '\'' true, rest)
  | c :: rest => if startsPunct s then some (.punct c (startsPunct rest), rest) else none
  | [] => none

def name? (s : List Char) : Option (Lexeme × List Char) :=
  if literalOpenings.any (·.isPrefixOf s) then none else (nameRest s).map (.name, ·)

def unreadable? (s : List Char) : Option (Lexeme × List Char) :=
  if unreadable.isPrefixOf s then some (.literal, s.drop unreadable.length) else none

/-- The lexeme at the start of a text, and what follows it. -/
def lexeme? (s : List Char) : Option (Lexeme × List Char) :=
  (spaceOrComment? s).or <| (bracket? s).or <| ((literalRest s).map (.literal, ·)).or <|
    (punct? s).or <| (name? s).or (unreadable? s)

end Preferences.Source
