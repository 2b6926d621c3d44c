import Preferences.Text.Lowercase

/-! The ways a method touches its preference, and the keys that names stand for. -/

namespace Preferences.Schema

inductive Access where
  | get
  | set
  | setSync
  | observe
  | contains
  | remove
  | clear
  deriving DecidableEq, Repr, Inhabited

namespace Access

def all : List Access := [get, set, setSync, observe, contains, remove, clear]

/-- The attribute that selects the access. -/
def name : Access → String
  | get => "get"
  | set => "set"
  | setSync => "set_sync"
  | observe => "observe"
  | contains => "contains"
  | remove => "remove"
  | clear => "clear"

def ofName? (name : String) : Option Access := all.find? (·.name = name)

theorem ofName?_name (access : Access) : ofName? access.name = some access := by
  cases access <;> rfl

/-- Whether the access reads or writes a typed value. -/
def isTyped : Access → Bool
  | get | set | setSync | observe => true
  | contains | remove | clear => false

def needsDefault : Access → Bool
  | get | observe => true
  | _ => false

/-- Beginnings of method names that are no part of the key. -/
def keyPrefixes : Access → List String
  | get => ["get_"]
  | observe => ["observe_"]
  | set | setSync => ["set_"]
  | contains => ["has_", "contains_"]
  | remove => ["remove_"]
  | clear => []

end Access

/-- A text without a part, but the whole text where nothing would be left of it. -/
def orWhole (text : List Char) (stripped : Option (List Char)) : List Char :=
  match stripped with
  | some (c :: rest) => c :: rest
  | _ => text

/-- The key that a method's name stands for: what follows the prefix of its access, and for a
synchronous setter without the suffix. -/
def Access.key (access : Access) (method : String) : String :=
  let name := method.toList
  let stripped := orWhole name (access.keyPrefixes.findSome? fun start =>
    start.toList.isPrefixOf? name)
  String.ofList (match access with
    | .setSync => orWhole stripped ("_sync".toList.isSuffixOf? stripped)
    | _ => stripped)

/-- The key that a constant's name stands for: what follows `DEFAULT_`, in lower case. -/
def constKey (name : String) : String :=
  Text.lowercase (String.ofList (orWhole name.toList ("DEFAULT_".toList.isPrefixOf? name.toList)))

end Preferences.Schema
