import Preferences.Text.Printable

/-! Texts written between double quotes. What would end or hide the text is escaped, and every
other character stands for itself. -/

namespace Preferences.Text

/-- A character as an escape by its code point. -/
def codePointEscape (c : Char) : List Char :=
  ['\\', 'u', '\x7b'] ++ Nat.toDigits 16 c.toNat ++ ['\x7d']

/-- A character as it stands between double quotes. -/
def quotedChar (c : Char) : List Char :=
  if c = '\x00' then ['\\', '0']
  else if c = '\t' then ['\\', 't']
  else if c = '\n' then ['\\', 'n']
  else if c = '\r' then ['\\', 'r']
  else if c = '"' then ['\\', '"']
  else if c = '\\' then ['\\', '\\']
  else if isShown c then [c]
  else codePointEscape c

/-- A text in double quotes, as messages show it. -/
def quoted (text : String) : String :=
  String.ofList ('"' :: text.toList.flatMap quotedChar ++ ['"'])

/-- The characters of a string literal. A null before an octal digit is spelled out, so that the
two are not read as one escape. -/
def literalChars : List Char → List Char
  | [] => []
  | '\x00' :: rest =>
    (match rest with
      | next :: _ => if '0' ≤ next ∧ next ≤ '7' then ['\\', 'x', '0', '0'] else ['\\', '0']
      | [] => ['\\', '0']) ++ literalChars rest
  | c :: rest => quotedChar c ++ literalChars rest

/-- The string literal that a text is written as. -/
def literal (text : String) : String :=
  String.ofList ('"' :: literalChars text.toList ++ ['"'])

end Preferences.Text
