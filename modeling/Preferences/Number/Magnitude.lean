/-! Magnitudes of binary numbers, and rounding to the nearest one of a format. -/

namespace Preferences.Number

/-- The number `significand * 2 ^ exponent`. -/
structure Magnitude where
  significand : Nat
  exponent : Int
  deriving DecidableEq, Repr

/-- A binary format: the bits of its significands, and its least and greatest exponents. -/
structure Format where
  bits : Nat
  least : Int
  greatest : Int
  deriving DecidableEq, Repr

def Format.single : Format := ⟨24, -149, 104⟩

def Format.double : Format := ⟨53, -1074, 971⟩

/-- A quotient rounded to the nearest whole number, halves to the even one. -/
def roundedQuotient (num den : Nat) : Nat :=
  let quotient := num / den
  let twice := 2 * (num % den)
  if twice < den then quotient
  else if den < twice then quotient + 1
  else quotient + quotient % 2

namespace Format

/-- The exponent with which the significand of a quotient has all bits of the format, or the least
exponent if that is greater. -/
def exponentOf (format : Format) (num den : Nat) : Int :=
  let exponent := max format.least ((num.log2 : Int) - den.log2 - format.bits)
  let significand := num * Nat.pow 2 (-exponent).toNat / (den * Nat.pow 2 exponent.toNat)
  if significand < Nat.pow 2 format.bits then exponent else exponent + 1

/-- The magnitude of the format that is nearest to a quotient, halves to the even one. A quotient
that is nearer to what is too large for the format has none. -/
def round (format : Format) (num den : Nat) : Option Magnitude :=
  let exponent := format.exponentOf num den
  let significand :=
    roundedQuotient (num * Nat.pow 2 (-exponent).toNat) (den * Nat.pow 2 exponent.toNat)
  let rounded : Magnitude :=
    if significand < Nat.pow 2 format.bits then ⟨significand, exponent⟩
    else ⟨Nat.pow 2 (format.bits - 1), exponent + 1⟩
  if rounded.exponent ≤ format.greatest then some rounded else none

/-- The magnitude of the format that is nearest to another magnitude. -/
def roundMagnitude (format : Format) (x : Magnitude) : Option Magnitude :=
  format.round (x.significand * Nat.pow 2 x.exponent.toNat) (Nat.pow 2 (-x.exponent).toNat)

end Format

end Preferences.Number
