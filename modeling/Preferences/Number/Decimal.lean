import Preferences.Number.Magnitude

/-! Shortest decimals: the fewest digits that are nearer to a number than to any other one of its
format. -/

namespace Preferences.Number

/-- The number `digits * 10 ^ exponent`. -/
structure Decimal where
  digits : Nat
  exponent : Int
  deriving DecidableEq, Repr

namespace Decimal

/-- The decimal in positional notation, with no more digits than it needs. -/
def text (d : Decimal) : String :=
  let digits := Nat.toDigits 10 d.digits
  if 0 ≤ d.exponent then
    String.ofList (digits ++ List.replicate (if d.digits = 0 then 0 else d.exponent.toNat) '0')
  else
    let places := (-d.exponent).toNat
    let padded := List.replicate (places + 1 - digits.length) '0' ++ digits
    let whole := padded.length - places
    String.ofList (padded.take whole ++ '.' :: padded.drop whole)

end Decimal

section Shortest

variable (format : Format) (x : Magnitude)

/-- Whether the next magnitude below is only half as far as the one above. -/
def isLowestOfBinade : Bool :=
  x.significand = Nat.pow 2 (format.bits - 1) && format.least < x.exponent

/-- The multiple of `10 ^ k` that rounds to the magnitude, if there is one; of two, the nearer one
or the greater. All terms are multiples of one unit, in which `step` is `10 ^ k`. -/
def multiple? (k : Int) : Option Nat :=
  let quarter := x.exponent - 2
  let step := Nat.pow 10 k.toNat * Nat.pow 2 (-quarter).toNat
  let scale := Nat.pow 2 quarter.toNat * Nat.pow 10 (-k).toNat
  let value := 4 * x.significand * scale
  let below := (4 * x.significand - if isLowestOfBinade format x then 1 else 2) * scale
  let above := (4 * x.significand + 2) * scale
  let inside (n : Nat) : Bool :=
    if x.significand % 2 = 0 then below ≤ n * step && n * step ≤ above
    else below < n * step && n * step < above
  let n := value / step
  match inside n, inside (n + 1) with
  | true, true => some (if 2 * (value % step) < step then n else n + 1)
  | true, false => some n
  | false, true => some (n + 1)
  | false, false => none

/-- The first decimal found on grids that get finer from `10 ^ k` on. -/
def decimalFrom (k : Int) : Nat → Decimal
  | 0 => ⟨0, 0⟩
  | bound + 1 =>
    match multiple? format x k with
    | some n => ⟨n, k⟩
    | none => decimalFrom (k - 1) bound

/-- The shortest decimal that rounds to a magnitude. The search begins above the magnitude, and
ends at the latest on the grid of `10 ^ least`, which has all magnitudes of the format. -/
def shortest : Decimal :=
  if x.significand = 0 then ⟨0, 0⟩
  else
    let whole := x.significand * Nat.pow 2 x.exponent.toNat / Nat.pow 2 (-x.exponent).toNat
    let above := (Nat.toDigits 10 whole).length
    decimalFrom format x above (above + format.least.natAbs + 1)

end Shortest

end Preferences.Number
