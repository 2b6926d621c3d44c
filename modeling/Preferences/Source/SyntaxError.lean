import Preferences.Source.Token

/-! Syntax errors: what a grammar wanted, and where it found something else. -/

namespace Preferences.Source

/-- A thing that a grammar wants: a symbol or keyword, shown as it is written, or a form that has a
name. -/
inductive Wanted where
  | symbol (text : String)
  | form (name : String)
  deriving DecidableEq, Repr

def Wanted.text : Wanted → String
  | symbol text => "`" ++ text ++ "`"
  | form name => name

/-- The form of a group. -/
def Delimiter.form : Delimiter → Wanted
  | .parenthesis => .form "parentheses"
  | .bracket => .form "square brackets"
  | .brace => .form "curly braces"

def Delimiter.closing : Delimiter → String
  | .parenthesis => ")"
  | .bracket => "]"
  | .brace => "\x7d"

/-- Why a text is not what its grammar describes. A surplus is left after a complete text, or in a
group after its content; a rule is one of the attribute that is read, in its own words. -/
inductive SyntaxError.Cause where
  | expected (wanted : List Wanted)
  | keyword (word : String)
  | surplus (group : Option Delimiter)
  | unreadable
  | literalSuffix (suffix : String)
  | rule (text : String)
  deriving DecidableEq, Repr

/-- A cause where it was found. At the end of the text, or of the group that is read, the position
is that of the end. -/
structure SyntaxError where
  cause : SyntaxError.Cause
  atEnd : Bool
  pos : Position
  deriving DecidableEq, Repr

namespace SyntaxError

def Cause.message : Cause → String
  | expected [] => "unexpected token"
  | expected [one] => "expected " ++ one.text
  | expected [one, other] => "expected " ++ one.text ++ " or " ++ other.text
  | expected wanted => "expected one of: " ++ ", ".intercalate (wanted.map Wanted.text)
  | keyword word => "expected identifier, found keyword `" ++ word ++ "`"
  | surplus none => "unexpected token"
  | surplus (some group) => "unexpected token, expected `" ++ group.closing ++ "`"
  | unreadable => "cannot parse string into token stream"
  | literalSuffix suffix => "unexpected suffix `" ++ suffix ++ "` on string literal"
  | rule text => text

def message (error : SyntaxError) : String :=
  match error.atEnd, error.cause with
  | true, .expected [] => "unexpected end of input"
  | true, cause => "unexpected end of input, " ++ cause.message
  | false, cause => cause.message

/-- The messages of an error, with their positions. Errors can be combined, but reading stops at the
first one, which has a single message. -/
def messages (error : SyntaxError) : List (Position × String) := [(error.pos, error.message)]

/-- The first of the trees left after a complete content, as an error. -/
def ofSurplus? (group : Option Delimiter) : List Tree → Option SyntaxError
  | [] => none
  | tree :: _ => some ⟨.surplus group, false, tree.pos⟩

end SyntaxError

end Preferences.Source
