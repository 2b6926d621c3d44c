import Preferences.Store.Store

/-! Observables: the value of a key now, and after each of its changes. -/

namespace Preferences.Store

/-- A key that is watched. `first` is the value it had at the start, until that is taken. -/
structure Observable where
  channel : Nat
  key : String
  fallback : Value
  first : Option Value
  deriving DecidableEq, Repr

namespace Observable

/-- The first change of `key` in a queue, and what waits behind it. -/
def nextChange (key : String) : List Change → Option (Change × List Change)
  | [] => none
  | change :: rest => if change.key = key then some (change, rest) else nextChange key rest

/-- Takes the next value. Changes of other keys are passed over. -/
def poll (o : Observable) (store : Store) :
    Polled Value × Observable × Store × List Event :=
  match o.first, store.feed.channel? o.channel with
  | some value, _ => (.item value, { o with first := none }, store, [])
  | none, none => (.ended, o, store, [])
  | none, some channel =>
    let taken := nextChange o.key channel.queue
    let queue := (taken.map (·.2)).getD []
    let after := { store with feed := store.feed.setChannel o.channel { channel with queue } }
    match taken with
    | some (change, _) =>
      let (value, events) := decode change.key change.value o.fallback
      (.item value, o, after, events)
    | none => (if channel.registered then .pending else .ended, o, after, [])

/-- The least number of values to come. -/
def ready (o : Observable) : Nat := if o.first.isSome then 1 else 0

end Observable

/-- Watches a key. The subscription comes before the reading, so no change in between is lost. -/
def observe (store : Store) (key : String) (fallback : Value) :
    Observable × Store × List Event :=
  let (channel, feed, events) := store.feed.subscribe
  let (value, more) := store.read key fallback
  (⟨channel, key, fallback, some value⟩, { store with feed }, events ++ more)

/-- Ends an observable. -/
def drop (store : Store) (o : Observable) : Store × List Event :=
  let (feed, events) := store.feed.close o.channel
  ({ store with feed }, events)

/-- An observable whose values are shown through a view. -/
structure Stream (α : Type) where
  source : Observable
  view : Value → α × List Event

namespace Stream

def map (f : α → β) (stream : Stream α) : Stream β :=
  { source := stream.source
    view := fun value => let (shown, events) := stream.view value; (f shown, events) }

/-- An observable as it is. -/
def plain (source : Observable) : Stream Value := ⟨source, fun value => (value, [])⟩

def poll (stream : Stream α) (store : Store) : Polled α × Stream α × Store × List Event :=
  let (found, source, store, events) := stream.source.poll store
  let after := { stream with source }
  match found with
  | .item value =>
    let (shown, more) := stream.view value
    (.item shown, after, store, events ++ more)
  | .pending => (.pending, after, store, events)
  | .ended => (.ended, after, store, events)

/-- Polls up to `count` times, but not on after something that is no item. -/
def pollUpTo (stream : Stream α) (store : Store) :
    Nat → List (Polled α) × Stream α × Store × List Event
  | 0 => ([], stream, store, [])
  | count + 1 =>
    let (found, stream, store, events) := stream.poll store
    match found with
    | .item value =>
      let (others, stream, store, more) := stream.pollUpTo store count
      (.item value :: others, stream, store, events ++ more)
    | _ => ([found], stream, store, events)

end Stream

end Preferences.Store
