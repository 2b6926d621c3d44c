import Preferences.Source.Reader
import Preferences.Source.SyntaxError
import Preferences.Source.TextLiteral

/-! Parsers of token trees: the cursor they move, and the small ones that all others are made of. -/

namespace Preferences.Source

/-- The trees still to read, the position of their end, and the first surplus found in a group that
has been read. -/
structure Cursor where
  rest : List Tree
  stop : Position
  surplus : Option SyntaxError
  deriving Repr

abbrev Parser := StateT Cursor (Except SyntaxError)

/-- Words that are no names. -/
def keywords : List String :=
  ["_", "abstract", "as", "async", "await", "become", "box", "break", "const", "continue", "crate",
   "do", "dyn", "else", "enum", "extern", "false", "final", "fn", "for", "if", "impl", "in", "let",
   "loop", "macro", "match", "mod", "move", "mut", "override", "priv", "pub", "ref", "return",
   "Self", "self", "static", "struct", "super", "trait", "true", "try", "type", "typeof", "unsafe",
   "unsized", "use", "virtual", "where", "while", "yield"]

/-! ### What stands next -/

/-- Whether trees begin with a symbol, whose characters stand joined. -/
def startsSymbol : List Char → List Tree → Bool
  | [c], .punct d _ _ :: _ => c = d
  | c :: cs, .punct d joint _ :: rest => c = d && joint && startsSymbol cs rest
  | _, _ => false

def startsWord (word : String) : List Tree → Bool
  | .ident name :: _ => name.text = word
  | _ => false

def startsName : List Tree → Bool
  | .ident name :: _ => !keywords.contains name.text
  | _ => false

def startsAnyName : List Tree → Bool
  | .ident .. :: _ => true
  | _ => false

def startsGroup (delimiter : Delimiter) : List Tree → Bool
  | .group d _ _ _ :: _ => d = delimiter
  | _ => false

def startsLifetime : List Tree → Bool
  | .punct '\'' true _ :: .ident .. :: _ => true
  | _ => false

/-- A literal, a truth value or a negative number. -/
def startsLiteral : List Tree → Bool
  | .literal .. :: _ => true
  | .ident name :: _ => name.text = "true" || name.text = "false"
  | .punct '-' _ _ :: .literal text _ :: _ => text.toList.head?.any Char.isDigit
  | _ => false

/-- A decimal number, which names a field by its place. -/
def startsIndex : List Tree → Bool
  | .literal text _ :: _ => text.toNat?.isSome
  | _ => false

/-- The trees after the first one; a lifetime is one. -/
def afterFirst : List Tree → List Tree
  | .punct '\'' true _ :: .ident .. :: rest => rest
  | _ :: rest => rest
  | [] => []

namespace Parser

def rest : Parser (List Tree) := return (← get).rest

/-- Whether a test holds of the trees to come. -/
def sees (test : List Tree → Bool) : Parser Bool := return test (← get).rest

def seesSymbol (symbol : String) : Parser Bool := sees (startsSymbol symbol.toList)

def seesWord (word : String) : Parser Bool := sees (startsWord word)

def seesGroup (delimiter : Delimiter) : Parser Bool := sees (startsGroup delimiter)

def atEnd : Parser Bool := sees List.isEmpty

/-- Where the next tree stands; at the end, the position of the end. -/
def here : Parser Position := do
  let cursor ← get
  return (cursor.rest.head?.map Tree.pos).getD cursor.stop

/-! ### Failing -/

def failAt (pos : Position) (cause : SyntaxError.Cause) : Parser α := throw ⟨cause, false, pos⟩

/-- Fails at the next tree, or at the end. -/
def fail (cause : SyntaxError.Cause) : Parser α := do throw ⟨cause, ← atEnd, ← here⟩

def failWanting (wanted : List Wanted) : Parser α := fail (.expected wanted)

/-! ### Reading -/

def drop (count : Nat) : Parser Unit := modify fun cursor =>
  { cursor with rest := cursor.rest.drop count }

/-- Reads a symbol. Where another one stands, or the text ends, the symbol alone is named. -/
def symbol (text : String) : Parser Unit := do
  if ← seesSymbol text then drop text.length
  else failAt (← here) (.expected [.symbol text])

/-- Reads a symbol if it stands next. -/
def symbol? (text : String) : Parser Bool := do
  if ← seesSymbol text then drop text.length; return true
  else return false

def word (text : String) : Parser Unit := do
  if ← seesWord text then drop 1 else failWanting [.symbol text]

/-- Reads a word if it stands next, and gives it as code. -/
def word? (text : String) : Parser Code := do
  if ← seesWord text then drop 1; return [.plain text]
  else return []

def anyName : Parser Name := do
  match ← rest with
  | .ident name :: _ => drop 1; return name
  | _ => failWanting [.form "identifier"]

def name : Parser Name := do
  match ← rest with
  | .ident name :: _ =>
    if keywords.contains name.text then fail (.keyword name.text) else drop 1; return name
  | _ => failWanting [.form "identifier"]

/-- The name or the place of a field. -/
def member : Parser Code := do
  match ← rest with
  | .literal text _ :: _ =>
    match text.toNat? with
    | some place => drop 1; return [.plain (toString place)]
    | none => failWanting [.form "identifier", .form "integer"]
  | trees =>
    if startsName trees then return [(← name).piece]
    else failWanting [.form "identifier", .form "integer"]

def stringLiteral : Parser TextLiteral := do
  match ← rest with
  | .literal text pos :: _ =>
    match TextLiteral.ofSpelling? text pos with
    | some lit => drop 1; return lit
    | none => failWanting [.form "string literal"]
  | _ => failWanting [.form "string literal"]

/-- Reads a lifetime as one word. -/
def lifetime : Parser Code := do
  match ← rest with
  | .punct '\'' true _ :: .ident name :: _ => drop 2; return [.plain ("'" ++ name.text)]
  | _ => failWanting [.form "lifetime"]

def lifetime? : Parser Code := do
  if ← sees startsLifetime then lifetime else return []

/-- A literal, a truth value or a negative number, as code. -/
def anyLiteral : Parser Code := do
  match ← rest with
  | .literal text _ :: _ => drop 1; return [.plain text]
  | .ident name :: _ =>
    if name.text = "true" || name.text = "false" then drop 1; return [name.piece]
    else failWanting [.form "literal"]
  | .punct '-' _ _ :: .literal text _ :: _ =>
    if text.toList.head?.any Char.isDigit then drop 2; return Code.words ["-", text]
    else failWanting [.form "literal"]
  | _ => failWanting [.form "literal"]

/-- Reads a group, its content by `content`. What that leaves is a surplus. -/
def group (delimiter : Delimiter) (content : Parser α) : Parser α := do
  match ← get with
  | ⟨.group d body _ closes :: rest, stop, surplus⟩ =>
    if d = delimiter then
      set (Cursor.mk body closes surplus)
      let value ← content
      let inside ← get
      set (Cursor.mk rest stop
        (inside.surplus.or (SyntaxError.ofSurplus? (some delimiter) inside.rest)))
      return value
    else failWanting [delimiter.form]
  | _ => failWanting [delimiter.form]

/-- The trees of a group of any kind, with its kind and the position of its end. -/
def anyGroup : Parser (Delimiter × List Tree × Position) := do
  match ← rest with
  | .group delimiter body _ closes :: _ => drop 1; return (delimiter, body, closes)
  | _ => failWanting [.form "delimiter"]

/-! ### Repeating -/

/-- Repeats a step as long as it gives something, at most `bound` times. -/
def repeatUpTo (step : Parser (Option α)) : Nat → Parser (List α)
  | 0 => return []
  | bound + 1 => do
    match ← step with
    | none => return []
    | some value => return value :: (← repeatUpTo step bound)

/-- Repeats a step as long as it gives something. A step that gives something reads a tree, so the
number of trees bounds the repetitions. -/
def many (step : Parser (Option α)) : Parser (List α) := do
  repeatUpTo step ((← rest).length + 1)

/-- Reads `item` as long as `test` holds of the trees to come. -/
def manyWhile (test : List Tree → Bool) (item : Parser α) : Parser (List α) :=
  many do if ← sees test then some <$> item else return none

/-- Parts between separators, up to where `done` holds of the trees to come: each part, and whether
a separator follows it. -/
def separated (separator : String) (done : List Tree → Bool) (item : Parser α) :
    Parser (List (α × Bool)) :=
  many do
    if ← sees done then return none
    let value ← item
    if ← sees done then return some (value, false)
    symbol separator
    return some (value, true)

/-- Parts between separators; the list ends also where no separator follows a part. -/
def joined (separator : String) (done : List Tree → Bool) (item : Parser α) :
    Parser (List (α × Bool)) := do
  let rec go : Nat → Parser (List (α × Bool))
    | 0 => return []
    | bound + 1 => do
      if ← sees done then return []
      let value ← item
      if ← symbol? separator then return (value, true) :: (← go bound)
      else return [(value, false)]
  go ((← rest).length + 1)

/-- Runs a parser ahead of the text and stays where it was if that fails. -/
def attempt (p : Parser α) : Parser (Option α) := fun cursor =>
  match p cursor with
  | .ok (value, after) => .ok (some value, after)
  | .error _ => .ok (none, cursor)

/-- The code of the trees that a parser reads. -/
def verbatim (p : Parser Unit) : Parser Code := do
  let before ← rest
  p
  return Tree.code (before.take (before.length - (← rest).length))

/-- Parses all trees of a text that ends at `stop`. -/
def parseAll (p : Parser α) (trees : List Tree) (stop : Position) : Except SyntaxError α := do
  let (value, cursor) ← p.run ⟨trees, stop, none⟩
  match cursor.surplus.or (SyntaxError.ofSurplus? none cursor.rest) with
  | some error => throw error
  | none => return value

end Parser

end Preferences.Source
