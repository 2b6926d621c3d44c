import Preferences.Toml.Text

/-! Numbers, dates and truth values of a document. -/

namespace Preferences.Toml

open Preferences.Number Reader

/-! ### Numbers -/

/-- Digits of a base, with single underscores between them. -/
def digitRun (base : Nat) : Reader (List Char) := do
  let first ← next (isDigitOf base)
  let others ← many (next (isDigitOf base) <|> (do char '_'; next (isDigitOf base)))
  return first :: others

/-- Whether a number is negative. -/
def sign : Reader Bool :=
  (do char '-'; return true) <|> (do char '+'; return false) <|> return false

/-- The digits of a whole number, of which no zero is the first of several. -/
def wholeDigits : Reader (List Char) := do
  if ← sees ['0'] then exactly (· = '0') 1 else digitRun 10

def signed (negative : Bool) (n : Nat) : Int := if negative then -n else n

/-- A number with a point, an exponent or both. One too large is refused, unless it is negative. -/
def decimalFloat : Reader Double := do
  let negative ← sign
  let whole ← wholeDigits
  let fraction ← optional do
    char '.'
    digitRun 10
  let exponent ← optional do
    let _ ← next fun c => c = 'e' || c = 'E'
    let below ← sign
    return signed below (ofDigits 10 (← digitRun 10))
  if fraction.isNone && exponent.isNone then failure
  let places := fraction.getD []
  let x := Double.ofDecimal negative
    ⟨ofDigits 10 (whole ++ places), exponent.getD 0 - places.length⟩
  if x = .infinite false then failure
  return x

def specialFloat : Reader Double := do
  let negative ← sign
  (do chars "inf".toList; return .infinite negative) <|>
    (do chars "nan".toList; return .nan negative)

/-- A whole number in another base, with no sign. -/
def basedInteger (mark : Char) (base : Nat) : Reader Int := do
  chars ['0', mark]
  return ofDigits base (← digitRun base)

/-- A whole number of at most 64 bits. -/
def integer : Reader Int := do
  let n ← basedInteger 'x' 16 <|> basedInteger 'o' 8 <|> basedInteger 'b' 2 <|>
    (do return signed (← sign) (ofDigits 10 (← wholeDigits)))
  if Int64.minValue.toInt ≤ n ∧ n ≤ Int64.maxValue.toInt then return n else failure

/-! ### Dates and times -/

/-- A number of fixed width within bounds, as it is written. -/
def field (width least greatest : Nat) : Reader (List Char) := do
  let digits ← exactly Char.isDigit width
  let n := ofDigits 10 digits
  if least ≤ n ∧ n ≤ greatest then return digits else failure

def isLeapYear (year : Nat) : Bool := year % 4 = 0 && (year % 100 ≠ 0 || year % 400 = 0)

def daysOfMonth (year month : Nat) : Nat :=
  if month = 2 then if isLeapYear year then 29 else 28
  else if [4, 6, 9, 11].contains month then 30
  else 31

def calendarDate : Reader (List Char) := do
  let year ← exactly Char.isDigit 4
  char '-'
  let month ← field 2 1 12
  char '-'
  let day ← field 2 1 (daysOfMonth (ofDigits 10 year) (ofDigits 10 month))
  return year ++ '-' :: month ++ '-' :: day

/-- A fraction of a second, to nine places at most. -/
def secondFraction (digits : List Char) : List Char :=
  match ((digits.take 9).reverse.dropWhile (· = '0')).reverse with
  | [] => []
  | kept => '.' :: kept

def clockTime : Reader (List Char) := do
  let hour ← field 2 0 23
  char ':'
  let minute ← field 2 0 59
  char ':'
  let second ← field 2 0 60
  let fraction ← optional do
    char '.'
    let first ← next Char.isDigit
    return first :: (← takeWhile Char.isDigit)
  return hour ++ ':' :: minute ++ ':' :: second ++ secondFraction (fraction.getD [])

/-- The distance of a clock from universal time. No distance has a plus sign. -/
def timeOffset : Reader (List Char) :=
  (do let _ ← next fun c => c = 'Z' || c = 'z'
      return ['Z']) <|>
  (do let direction ← next fun c => c = '+' || c = '-'
      let hour ← field 2 0 23
      char ':'
      let minute ← field 2 0 59
      let isNone := (hour ++ minute).all (· = '0')
      return (if isNone then '+' else direction) :: hour ++ ':' :: minute)

def date : Reader String :=
  (do
    let day ← calendarDate
    let time ← optional do
      let _ ← next fun c => c = 'T' || c = 't' || c = ' '
      let time ← clockTime
      return 'T' :: time ++ (← optional timeOffset).getD []
    return String.ofList (day ++ time.getD [])) <|>
  String.ofList <$> clockTime

/-! ### Scalars -/

def truth : Reader Bool :=
  (do chars "true".toList; return true) <|> (do chars "false".toList; return false)

/-- A value that holds no other ones, made with its span. -/
def scalar : Reader (Span → Node) :=
  (do let s ← string; return (.string · s)) <|>
  (do let text ← date; return (.date · text)) <|>
  (do let x ← decimalFloat <|> specialFloat; return (.float · x)) <|>
  (do let n ← integer; return (.integer · n)) <|>
  (do let b ← truth; return (.boolean · b))

end Preferences.Toml
