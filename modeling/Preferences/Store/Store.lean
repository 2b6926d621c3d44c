import Preferences.Store.Entries
import Preferences.Store.Feed
import Preferences.Store.Value

/-! Preference stores: values by key, and a feed of their changes. -/

namespace Preferences.Store

/-- A key and what it holds after the change, which is nothing once it is removed. -/
structure Change where
  key : String
  value : Option Value
  deriving DecidableEq, Repr

end Preferences.Store

namespace Preferences

structure Store where
  values : Store.Entries Store.Value
  feed : Store.Feed Store.Change
  deriving DecidableEq, Repr

end Preferences

namespace Preferences.Store

/-- A stored value as one of the fallback's kind. Nothing, or a value of another kind, is the
fallback. -/
def decode (key : String) (stored : Option Value) (fallback : Value) : Value × List Event :=
  match stored with
  | none => (fallback, [])
  | some value =>
    if value.kind = fallback.kind then (value, []) else (fallback, [.otherKind key value.kind])

def empty : Store := ⟨.empty, .empty⟩

/-- A store that holds `values` from the start. -/
def ofEntries (values : Entries Value) : Store := ⟨values, .empty⟩

def read (store : Store) (key : String) (fallback : Value) : Value × List Event :=
  decode key (store.values.get? key) fallback

def publish (store : Store) (change : Change) : Store × List Event :=
  let (feed, events) := store.feed.publish change
  ({ store with feed }, events)

/-- Stores a value, unless the key holds an equal one. -/
def write (store : Store) (key : String) (value : Value) : Store × List Event :=
  if (store.values.get? key).any (·.equals value) then (store, [])
  else
    let stored := { store with values := store.values.insert key value }
    let (after, events) := stored.publish ⟨key, some value⟩
    (after, .storing key value.kind :: events)

def remove (store : Store) (key : String) : Store × List Event :=
  if store.values.contains key then
    let erased := { store with values := store.values.erase key }
    let (after, events) := erased.publish ⟨key, none⟩
    (after, .removed key :: events)
  else (store, [])

/-- Tells the subscribers that keys are gone, in turn. -/
def publishGone (store : Store) : List String → Store × List Event
  | [] => (store, [])
  | key :: rest =>
    let (store, events) := store.publish ⟨key, none⟩
    let (store, more) := publishGone store rest
    (store, events ++ more)

/-- Removes every key. -/
def clear (store : Store) : Store × List Event :=
  let (after, events) := publishGone { store with values := .empty } store.values.keys
  (after, .cleared store.values.size :: events)

end Preferences.Store
