import Preferences.Number.Binary32
import Preferences.Store.Kind

/-! Stored values. A value keeps its kind: an integer is never a long. -/

namespace Preferences.Store

open Preferences.Number

inductive Value where
  | boolean (b : Bool)
  | float (x : Binary32)
  | integer (n : Int32)
  | long (n : Int64)
  | string (s : String)
  deriving DecidableEq, Repr, Inhabited

namespace Value

def kind : Value → Kind
  | boolean _ => .boolean
  | float _ => .float
  | integer _ => .integer
  | long _ => .long
  | string _ => .string

/-- Whether two values compare equal. -/
def equals : Value → Value → Bool
  | boolean a, boolean b => a = b
  | float x, float y => x.equals y
  | integer m, integer n => m = n
  | long m, long n => m = n
  | string s, string t => s = t
  | _, _ => false

/-- The text of a string value. -/
def text : Value → String
  | string s => s
  | _ => ""

theorem kind_eq_of_equals {a b : Value} (h : a.equals b = true) : a.kind = b.kind := by
  cases a <;> cases b <;> simp_all [equals, kind]

end Value

end Preferences.Store
