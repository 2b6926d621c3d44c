/-! The five kinds of stored values. -/

namespace Preferences.Store

inductive Kind where
  | boolean
  | float
  | integer
  | long
  | string
  deriving DecidableEq, Repr, Inhabited

namespace Kind

def all : List Kind := [boolean, float, integer, long, string]

def name : Kind → String
  | boolean => "boolean"
  | float => "float"
  | integer => "integer"
  | long => "long"
  | string => "string"

def ofName? (name : String) : Option Kind := all.find? (·.name = name)

theorem ofName?_name (kind : Kind) : ofName? kind.name = some kind := by
  cases kind <;> rfl

end Kind

end Preferences.Store
