import Preferences.Source.Quotation

/-! Number literals: what follows the one at the start of a text. -/

namespace Preferences.Source

open Preferences.Text

/-- What follows the name at the start of `s`; all of `s` where none stands. -/
def dropName : List Char → List Char
  | c :: rest => if isNameStart c then rest.dropWhile isNameContinue else c :: rest
  | [] => []

/-- What follows the digits of a decimal and at most one point, and whether the point was there.
A point before another point or a name belongs to no number. -/
def mantissaRest (pointed : Bool) : List Char → Option (Bool × List Char)
  | [] => some (pointed, [])
  | '.' :: rest =>
    if pointed then some (true, '.' :: rest)
    else if rest.head?.any fun c => c = '.' || isNameStart c then none
    else mantissaRest true rest
  | c :: rest =>
    if c.isDigit || c = '_' then mantissaRest pointed rest else some (pointed, c :: rest)

/-- What follows an exponent that has a digit and at most one sign, in front of the digits. -/
def exponentRest (signed valued : Bool) : List Char → Option (List Char)
  | [] => if valued then some [] else none
  | c :: rest =>
    if c.isDigit then exponentRest signed true rest
    else if c = '_' then exponentRest signed valued rest
    else if valued then some (c :: rest)
    else if (c = '+' || c = '-') && !signed then exponentRest true valued rest
    else none

/-- What follows a decimal, which has a point or an exponent. An exponent without digits is left
over. -/
def decimalRest (s : List Char) : Option (List Char) := do
  let (pointed, rest) ← mantissaRest false s
  let short := if pointed then some rest else none
  match rest with
  | 'e' :: exponent | 'E' :: exponent => (exponentRest false false exponent).or short
  | _ => short

/-- What follows the digits of an integer, at least one of them. -/
def digitsRest (base : Nat) (empty : Bool) : List Char → Option (List Char)
  | [] => if empty then none else some []
  | c :: rest =>
    if c = '_' then if empty && base = 10 then none else digitsRest base empty rest
    else
      match hexDigit? c with
      | some digit =>
        if digit < base then digitsRest base false rest
        else if c.isDigit || empty then none
        else some (c :: rest)
      | none => if empty then none else some (c :: rest)

def integerRest : List Char → Option (List Char)
  | '0' :: 'x' :: rest => digitsRest 16 true rest
  | '0' :: 'o' :: rest => digitsRest 8 true rest
  | '0' :: 'b' :: rest => digitsRest 2 true rest
  | rest => digitsRest 10 true rest

/-- What follows a suffix, where no part of a name may follow. -/
def suffixedRest (rest : List Char) : Option (List Char) :=
  let rest := dropName rest
  if rest.head?.any isNameContinue then none else some rest

/-- What follows the number at the start of `s`. -/
def numberRest (s : List Char) : Option (List Char) :=
  if s.head?.any Char.isDigit then
    ((decimalRest s).bind suffixedRest).or ((integerRest s).bind suffixedRest)
  else none

end Preferences.Source
