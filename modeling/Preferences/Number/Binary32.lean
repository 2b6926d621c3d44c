import Preferences.Number.Decimal

/-! Numbers of 32 and of 64 bits. -/

namespace Preferences.Number

/-- A number of 32 bits in binary interchange format: sign, exponent and fraction. -/
structure Binary32 where
  bits : UInt32
  deriving DecidableEq, Repr, Inhabited

/-- A number of 64 bits. The significand of a finite one has 53 bits, unless its exponent is the
least one. -/
inductive Double where
  | nan (negative : Bool)
  | infinite (negative : Bool)
  | finite (negative : Bool) (magnitude : Magnitude)
  deriving DecidableEq, Repr

/-! ### Numbers of 32 bits -/

namespace Binary32

/-- The bits without the sign. -/
def magnitude (x : Binary32) : Nat := x.bits.toNat % Nat.pow 2 31

def isNegative (x : Binary32) : Bool := Nat.pow 2 31 ≤ x.bits.toNat

/-- The magnitude of an infinity; that of a finite number is less. -/
def infinity : Nat := 0xff <<< 23

/-- The magnitude of the NaN that has no payload. -/
def plainNaN : Nat := infinity + Nat.pow 2 22

def isNaN (x : Binary32) : Bool := infinity < x.magnitude

/-- Whether two numbers compare equal: no NaN equals anything, and both zeros are equal. -/
def equals (x y : Binary32) : Bool :=
  !x.isNaN && !y.isNaN && (x.bits = y.bits || (x.magnitude = 0 && y.magnitude = 0))

def ofMagnitude (negative : Bool) (magnitude : Nat) : Binary32 :=
  ⟨UInt32.ofNat (magnitude + if negative then Nat.pow 2 31 else 0)⟩

/-- The bits of a rounded magnitude, or of infinity where there is none. -/
def ofRounded (negative : Bool) (rounded : Option Magnitude) : Binary32 :=
  ofMagnitude negative (match rounded with
    | some x => x.significand + (x.exponent - Format.single.least).toNat * Nat.pow 2 23
    | none => infinity)

def ofInt (n : Int) : Binary32 := ofRounded (n < 0) (Format.single.round n.natAbs 1)

def ofDouble : Double → Binary32
  | .nan negative => ofMagnitude negative plainNaN
  | .infinite negative => ofMagnitude negative infinity
  | .finite negative x => ofRounded negative (Format.single.roundMagnitude x)

end Binary32

/-! ### Numbers of 64 bits -/

namespace Double

def ofRounded (negative : Bool) : Option Magnitude → Double
  | some x => finite negative x
  | none => infinite negative

/-- Decimals with more digits before the point than this are infinite, and with more zeros behind
it they are zero. -/
def range : Int := 400

/-- The number nearest to a decimal. -/
def ofDecimal (negative : Bool) (d : Decimal) : Double :=
  let size := (Nat.toDigits 10 d.digits).length + d.exponent
  if d.digits = 0 ∨ size < -range then finite negative ⟨0, Format.double.least⟩
  else if range < size then infinite negative
  else
    ofRounded negative
      (Format.double.round (d.digits * Nat.pow 10 d.exponent.toNat)
        (Nat.pow 10 (-d.exponent).toNat))

/-- The same number with more bits. -/
def ofBinary32 (x : Binary32) : Double :=
  let field : Nat := x.magnitude / Nat.pow 2 23
  let fraction : Nat := x.magnitude % Nat.pow 2 23
  if field = 255 then
    if fraction = 0 then infinite x.isNegative else nan x.isNegative
  else
    ofRounded x.isNegative (Format.double.roundMagnitude
      (if field = 0 then ⟨fraction, Format.single.least⟩
        else ⟨fraction + Nat.pow 2 23, Format.single.least + field - 1⟩))

/-- The sign, and the shortest decimal in positional notation. -/
def text : Double → String
  | nan _ => "NaN"
  | infinite negative => if negative then "-inf" else "inf"
  | finite negative x => (if negative then "-" else "") ++ (shortest .double x).text

def isFinite : Double → Bool
  | finite .. => true
  | _ => false

/-- The text of a number, with a point in it if the number is finite. -/
def pointText (x : Double) : String :=
  let text := x.text
  if x.isFinite && !text.contains '.' then text ++ ".0" else text

end Double

end Preferences.Number
