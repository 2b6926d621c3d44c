import Preferences.Number.Digits
import Preferences.Store.Adapter

/-! Written forms of plain values. -/

namespace Preferences.Store

namespace Codec

/-- The number that decimal digits mean. -/
def digits? (cs : List Char) : Option Nat :=
  if cs.isEmpty || !cs.all Char.isDigit then none else some (Number.ofDigits 10 cs)

/-- A whole number, perhaps with a sign in front. -/
def wholeNumber? (text : String) : Option Int :=
  match text.toList with
  | '+' :: rest => (digits? rest).map Int.ofNat
  | '-' :: rest => (digits? rest).map fun n => -Int.ofNat n
  | cs => (digits? cs).map Int.ofNat

/-- Numbers of one byte, which have no minus sign. -/
def byte : Codec UInt8 where
  render n := toString n.toNat
  read? text := do
    let n ← wholeNumber? text
    if text.toList.head? = some '-' ∨ 255 < n then none else some (UInt8.ofNat n.toNat)

def long : Codec Int64 where
  render n := toString n.toInt
  read? text := do
    let n ← wholeNumber? text
    if n < Int64.minValue.toInt ∨ Int64.maxValue.toInt < n then none else some (Int64.ofInt n)

def truth : Codec Bool where
  render b := if b then "true" else "false"
  read?
    | "true" => some true
    | "false" => some false
    | _ => none

def char : Codec Char where
  render := String.singleton
  read? text :=
    match text.toList with
    | [c] => some c
    | _ => none

def text : Codec String where
  render s := s
  read? := some

/-- The same form, for values that are themselves shown in it. -/
def shown (codec : Codec α) : Codec String where
  render s := s
  read? raw := (codec.read? raw).map codec.render

end Codec

end Preferences.Store
