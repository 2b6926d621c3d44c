import Preferences.Syntax.LocalItem

/-! The grammar of values and of method bodies, which are recognised and printed again. -/

namespace Preferences.Syntax.Value

open Preferences.Source Parser

variable (inner : Inner)

/-- Operators between two values, no one after its own beginning. -/
def operators : List String :=
  ["<<=", ">>=", "&&", "||", "<<", ">>", "==", "!=", "<=", ">=", "+=", "-=", "*=", "/=", "%=",
   "^=", "&=", "|=", "+", "-", "*", "/", "%", "^", "&", "|", "<", ">", "="]

/-- The operator that stands next; the arrow of a match arm is none. -/
def operator? : Parser (Option String) := do
  if ← seesSymbol "=>" then return none
  let trees ← rest
  match operators.find? fun symbol => startsSymbol symbol.toList trees with
  | some symbol => drop symbol.length; return some symbol
  | none => return none

def label : Parser Code := do
  let name ← lifetime
  symbol ":"
  return name ++ [.plain ":"]

/-- Values between commas. -/
def listed : Parser Code :=
  separatedCode "," <$> separated "," List.isEmpty (inner.value true)

/-- Whether no value can stand next. -/
def endsValue (allowStruct : Bool) (trees : List Tree) : Bool :=
  trees.isEmpty || startsAny [",", ";", "=>", "?", "="] trees ||
    (startsSymbol ['.'] trees && !startsSymbol "..".toList trees) ||
    (!allowStruct && startsGroup .brace trees)

def value? (allowStruct : Bool) : Parser Code := do
  if ← sees (endsValue allowStruct) then return [] else inner.value allowStruct

/-! ### Blocks -/

/-- Whether a value that may stand without a semicolon begins here. -/
def startsBlockLike (trees : List Tree) : Bool :=
  startsGroup .brace trees || ["if", "match", "while", "loop", "for"].any (startsWord · trees) ||
    (["unsafe", "const", "try"].any (startsWord · trees) && startsGroup .brace (trees.drop 1)) ||
    (startsLifetime trees && startsSymbol [':'] (afterFirst trees))

def letStatement : Parser Code := do
  word "let"
  let pattern ← Pattern.alternatives inner
  let ty ← if ← symbol? ":" then (.plain ":" :: Ty.code ·) <$> inner.type true else pure []
  let value ←
    if ← symbol? "=" then
      let value ← inner.value true
      let alternative ←
        if ← seesWord "else" then
          drop 1
          (.plain "else" :: ·) <$> inner.block
        else pure []
      pure (.plain "=" :: value ++ alternative)
    else pure []
  symbol ";"
  return .plain "let" :: pattern ++ ty ++ value ++ [.plain ";"]

/-- A macro call with braces that is no part of a longer value. -/
def bracedCall : Parser Code := do
  let path ← plainPath
  symbol "!"
  if ← seesGroup .brace then
    let (delimiter, body, _) ← anyGroup
    if ← sees fun trees => startsSymbol ['?'] trees ||
        (startsSymbol ['.'] trees && !startsSymbol "..".toList trees) then
      fail (.expected [])
    return path.code ++ [.plain "!", .group delimiter (Tree.code body)]
  else failWanting [Delimiter.form .brace]

/-- A statement. All but the last one need a semicolon, unless they end in a block. -/
def statement : Parser Code := do
  if ← symbol? ";" then return [.plain ";"]
  let attrs ← Attribute.codes false <$> Attribute.outer inner
  if ← seesWord "let" then return attrs ++ (← letStatement inner)
  if let some item ← LocalItem.item? inner then return attrs ++ item
  if let some call ← attempt bracedCall then
    return attrs ++ call ++ if ← symbol? ";" then [.plain ";"] else []
  let blockLike ← sees startsBlockLike
  let value ← inner.value true
  if ← symbol? ";" then return attrs ++ value ++ [.plain ";"]
  if (← atEnd) || blockLike then return attrs ++ value
  fail (.rule "unexpected token, expected `;`")

/-- The statements of a body, after the attributes inside it. -/
def statements : Parser Code :=
  List.flatten <$> manyWhile (!·.isEmpty) (statement inner)

def blockRule : Parser Code := do
  let body ← group .brace do
    let attrs ← Attribute.codes true <$> Attribute.inners inner
    return attrs ++ (← statements inner)
  return [.braces body]

/-! ### Values that begin with a keyword -/

def elseBranch? : Parser Code := do
  if ← seesWord "else" then
    drop 1
    if ← seesWord "if" then return .plain "else" :: (← inner.value true)
    else return .plain "else" :: (← blockRule inner)
  else return []

def conditional : Parser Code := do
  word "if"
  let condition ← inner.value false
  let body ← blockRule inner
  return .plain "if" :: condition ++ body ++ (← elseBranch? inner)

def arm : Parser Code := do
  let attrs ← Attribute.codes false <$> Attribute.outer inner
  let pattern ← Pattern.alternatives inner
  let guard ←
    if ← seesWord "if" then
      drop 1
      (.plain "if" :: ·) <$> inner.value true
    else pure []
  symbol "=>"
  let blockLike ← sees startsBlockLike
  let value ← inner.value true
  let comma ←
    if ← symbol? "," then pure [.plain ","]
    else if (← atEnd) || blockLike then pure []
    else
      symbol ","
      pure []
  return attrs ++ pattern ++ guard ++ .plain "=>" :: value ++ comma

def choice : Parser Code := do
  word "match"
  let subject ← inner.value false
  let arms ← group .brace (List.flatten <$> manyWhile (!·.isEmpty) (arm inner))
  return .plain "match" :: subject ++ [.braces arms]

/-- A loop, perhaps behind a label. -/
def repetition : Parser Code := do
  let name ← if ← sees startsLifetime then label else pure []
  if ← seesWord "loop" then
    drop 1
    return name ++ .plain "loop" :: (← blockRule inner)
  if ← seesWord "while" then
    drop 1
    let condition ← inner.value false
    return name ++ .plain "while" :: condition ++ (← blockRule inner)
  if ← seesWord "for" then
    drop 1
    let pattern ← Pattern.alternatives inner
    word "in"
    let subject ← inner.value false
    return name ++ .plain "for" :: pattern ++ .plain "in" :: subject ++ (← blockRule inner)
  return name ++ (← blockRule inner)

/-- A value that ends the run of a body, with what it carries. -/
def jump (allowStruct : Bool) : Parser Code := do
  let keyword ← anyName
  let target ← if keyword.text = "return" then pure [] else lifetime?
  let carried ←
    if keyword.text = "continue" then pure [] else value? inner allowStruct
  return keyword.piece :: target ++ carried

def closureParam : Parser Code := do
  let attrs ← Attribute.codes false <$> Attribute.outer inner
  let pattern ← inner.pattern
  let ty ← if ← symbol? ":" then (.plain ":" :: Ty.code ·) <$> inner.type true else pure []
  return attrs ++ pattern ++ ty

def closure (allowStruct : Bool) : Parser Code := do
  let isAsync ← word? "async"
  let isMove ← word? "move"
  symbol "|"
  let params ← separated "," (startsSymbol ['|']) (closureParam inner)
  symbol "|"
  let opening := isAsync ++ isMove ++ .plain "|" :: separatedCode "," params ++ [.plain "|"]
  if ← symbol? "->" then
    let output ← inner.type false
    return opening ++ .plain "->" :: output.code ++ (← blockRule inner)
  else return opening ++ (← inner.value allowStruct)

def startsClosure (trees : List Tree) : Bool :=
  startsSymbol ['|'] trees ||
    (startsWord "move" trees && startsSymbol ['|'] (trees.drop 1)) ||
    (startsWord "async" trees &&
      (startsSymbol ['|'] (trees.drop 1) ||
        (startsWord "move" (trees.drop 1) && startsSymbol ['|'] (trees.drop 2))))

/-! ### Values -/

/-- A field of a struct literal, or the value that gives the other fields. -/
def structField : Parser Code := do
  let attrs ← Attribute.codes false <$> Attribute.outer inner
  if ← symbol? ".." then
    let base ← if ← atEnd then pure [] else inner.value true
    return attrs ++ .plain ".." :: base
  let isIndex ← sees startsIndex
  let member ← member
  if isIndex || (← seesSymbol ":") then
    symbol ":"
    return attrs ++ member ++ .plain ":" :: (← inner.value true)
  return attrs ++ member

def pathValue (allowStruct : Bool) : Parser Code := do
  let (qualifier, path) ← qualifiedPath inner true
  let code := (Ty.path qualifier path.leading path.segments).code
  if qualifier.isNone && path.isPlain && (← seesSymbol "!") && !(← seesSymbol "!=") then
    symbol "!"
    let (delimiter, body, _) ← anyGroup
    return code ++ [.plain "!", .group delimiter (Tree.code body)]
  if allowStruct && (← seesGroup .brace) then
    let fields ← group .brace (separated "," List.isEmpty (structField inner))
    return code ++ [.braces (separatedCode "," fields)]
  return code

/-- A list, or a value and how often it is repeated. -/
def array : Parser Code := do
  let inside ← group .bracket do
    if ← atEnd then return []
    let first ← inner.value true
    if ← symbol? ";" then return first ++ .plain ";" :: (← inner.value true)
    if ← symbol? "," then return first ++ .plain "," :: (← listed inner)
    return first
  return [.brackets inside]

def atom (allowStruct : Bool) : Parser Code := do
  if ← sees fun trees => startsLiteral trees && !startsSymbol ['-'] trees then
    return ← anyLiteral
  if ← sees startsClosure then return ← closure inner allowStruct
  if ← seesGroup .parenthesis then
    return [.parens (← group .parenthesis (listed inner))]
  if ← seesGroup .bracket then return ← array inner
  if ← seesGroup .brace then return ← blockRule inner
  if ← seesWord "if" then return ← conditional inner
  if ← seesWord "match" then return ← choice inner
  if ← sees fun trees => ["loop", "while", "for"].any (startsWord · trees) || startsLifetime trees
    then return ← repetition inner
  if ← sees fun trees => ["return", "break", "continue"].any (startsWord · trees) then
    return ← jump inner allowStruct
  if ← sees fun trees => ["unsafe", "async", "const", "try"].any (startsWord · trees) then
    let keyword ← anyName
    let isMove ← word? "move"
    return keyword.piece :: isMove ++ (← blockRule inner)
  if ← seesWord "let" then
    drop 1
    let pattern ← Pattern.alternatives inner
    symbol "="
    return .plain "let" :: pattern ++ .plain "=" :: (← inner.value false)
  if ← seesWord "_" then drop 1; return [.plain "_"]
  if ← sees fun trees => startsName trees || startsPathWord trees || startsAny ["::", "<"] trees
    then return ← pathValue inner allowStruct
  failWanting [.form "an expression"]

/-- A field, a method call, an index, a call or a question mark behind a value. -/
def suffix? : Parser (Option Code) := do
  if ← seesGroup .parenthesis then
    return some [.parens (← group .parenthesis (listed inner))]
  if ← seesGroup .bracket then
    return some [.brackets (← group .bracket (inner.value true))]
  if ← symbol? "?" then return some [.plain "?"]
  if (← seesSymbol ".") && !(← seesSymbol "..") then
    symbol "."
    if ← seesWord "await" then drop 1; return some (Code.words [".", "await"])
    match ← rest with
    | .literal text _ :: _ =>
      drop 1
      return some (.plain "." :: Code.separated (.plain ".") ((text.splitOn ".").map ([.plain ·])))
    | _ =>
      let name ← name
      let args ←
        if ← sees (startsAngle true) then Arguments.code <$> angleArguments inner else pure []
      return some (.plain "." :: name.piece :: args)
  return none

/-- What follows a value: a cast, an operator with another value, or the rest of a range. -/
def continuation (allowStruct : Bool) : Parser Code := do
  let casts ← manyWhile (startsWord "as") do
    drop 1
    return .plain "as" :: Ty.code (← inner.type false)
  let rest ←
    if ← symbol? "..=" then (.plain "..=" :: ·) <$> inner.value allowStruct
    else if ← symbol? ".." then (.plain ".." :: ·) <$> value? inner allowStruct
    else
      match ← operator? with
      | some symbol => (.plain symbol :: ·) <$> inner.value allowStruct
      | none => pure []
  return casts.flatten ++ rest

/-- A value that begins with an operator. -/
def prefixed? (allowStruct : Bool) : Parser (Option Code) := do
  if ← symbol? "..=" then return some (.plain "..=" :: (← inner.value allowStruct))
  if ← symbol? ".." then return some (.plain ".." :: (← value? inner allowStruct))
  if ← symbol? "&" then
    let isRaw ← sees fun trees => startsWord "raw" trees &&
      ["const", "mut"].any (startsWord · (trees.drop 1))
    if isRaw then
      let words := [(← anyName).piece, (← anyName).piece]
      return some (.plain "&" :: words ++ (← inner.value allowStruct))
    let isMut ← word? "mut"
    return some (.plain "&" :: isMut ++ (← inner.value allowStruct))
  for symbol in ["*", "!", "-"] do
    if ← symbol? symbol then return some (.plain symbol :: (← inner.value allowStruct))
  return none

def valueRule (allowStruct : Bool) : Parser Code := do
  let attrs ← Attribute.codes false <$> Attribute.outer inner
  match ← prefixed? inner allowStruct with
  | some code => return attrs ++ code
  | none =>
    let head ← atom inner allowStruct
    let suffixes ← many (suffix? inner)
    return attrs ++ head ++ suffixes.flatten ++ (← continuation inner allowStruct)

end Preferences.Syntax.Value
