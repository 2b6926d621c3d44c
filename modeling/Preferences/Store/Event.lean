import Preferences.Store.Kind

/-! The log: what a store tells about its work. -/

namespace Preferences.Store

inductive Level where
  | trace
  | debug
  | warn
  deriving DecidableEq, Repr

def Level.name : Level → String
  | trace => "TRACE"
  | debug => "DEBUG"
  | warn => "WARN"

/-- A field of an event: a count, or a text. -/
inductive Field where
  | number (n : Nat)
  | text (s : String)
  deriving DecidableEq, Repr

inductive Event where
  | registered
  | released
  | subscribed (id subscribers : Nat)
  | unsubscribed (id subscribers : Nat)
  | publishing (subscribers : Nat)
  | storing (key : String) (kind : Kind)
  | removed (key : String)
  | cleared (count : Nat)
  | otherKind (key : String) (stored : Kind)
  | unparsed (key raw : String)
  deriving DecidableEq, Repr

namespace Event

def level : Event → Level
  | registered | released => .debug
  | subscribed .. | unsubscribed .. | publishing _ | storing .. | removed _ | cleared _ => .trace
  | otherKind .. | unparsed .. => .warn

def message : Event → String
  | registered => "registered change listener"
  | released => "released change listener"
  | subscribed .. => "subscribed to changes"
  | unsubscribed .. => "unsubscribed from changes"
  | publishing _ => "publishing change"
  | storing .. => "storing preference"
  | removed _ => "removed preference"
  | cleared _ => "cleared preferences"
  | otherKind .. => "stored preference has another type, using the default"
  | unparsed .. => "stored preference does not parse, using the default"

def fields : Event → List (String × Field)
  | registered | released => []
  | subscribed id subscribers | unsubscribed id subscribers =>
    [("id", .number id), ("subscribers", .number subscribers)]
  | publishing subscribers => [("subscribers", .number subscribers)]
  | storing key kind => [("key", .text key), ("kind", .text kind.name)]
  | removed key => [("key", .text key)]
  | cleared count => [("count", .number count)]
  | otherKind key stored => [("key", .text key), ("stored", .text stored.name)]
  | unparsed key raw => [("key", .text key), ("raw", .text raw)]

end Event

end Preferences.Store
