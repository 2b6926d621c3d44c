import Preferences.Store.Gateway

/-! Adapters: how values are stored that no kind is for. -/

namespace Preferences.Store

/-- The three things that an adapter does with a key of a store, through a gateway with a
permission. Even one that reads has the whole gateway in its hands. -/
structure Adapter (α : Type) where
  observe : Permission → Store → String → α → Stream α × Store × List Event
  get : Permission → Store → String → α → α × Store × List Event
  put : Permission → Store → String → α → Store × List Event

/-- A written form of values, and how it is read. -/
structure Codec (α : Type) where
  render : α → String
  read? : String → Option α

namespace Codec

/-- What a text means, or else the fallback. -/
def readOr (codec : Codec α) (key raw : String) (fallback : α) : α × List Event :=
  match codec.read? raw with
  | some value => (value, [])
  | none => (fallback, [.unparsed key raw])

/-- Stores values as strings in their written form. The fallback goes through that form too. -/
def adapter (codec : Codec α) : Adapter α where
  observe _ store key fallback :=
    let (source, store, events) := store.observe key (.string (codec.render fallback))
    (⟨source, fun value => codec.readOr key value.text fallback⟩, store, events)
  get _ store key fallback :=
    let (stored, events) := store.read key (.string (codec.render fallback))
    let (value, more) := codec.readOr key stored.text fallback
    (value, store, events ++ more)
  put permission store key value := permission.put store key (.string (codec.render value))

end Codec

end Preferences.Store
