import Preferences.Store.Event

/-! A feed of changes, with a channel for each subscriber.

One listener serves all subscribers. It is registered for the first one and released when a
subscription goes away and none is left. -/

namespace Preferences.Store

/-- A subscriber's channel. While it is registered, changes are sent to it; what was sent waits in
the queue while the receiver is held. -/
structure Channel (α : Type) where
  queue : List α
  registered : Bool
  subscribed : Bool
  receiving : Bool
  deriving DecidableEq, Repr

/-- All channels ever opened, by their number. -/
structure Feed (α : Type) where
  channels : List (Channel α)
  listening : Bool
  deriving DecidableEq, Repr

/-- What a receiver finds: a change, none for now, or none any more. -/
inductive Polled (α : Type) where
  | item (value : α)
  | pending
  | ended
  deriving DecidableEq, Repr

def Polled.map (f : α → β) : Polled α → Polled β
  | item value => item (f value)
  | pending => pending
  | ended => ended

namespace Channel

def fresh : Channel α := ⟨[], true, true, true⟩

/-- The channel after a change. One without a receiver is forgotten. -/
def send (channel : Channel α) (change : α) : Channel α :=
  if channel.registered then
    if channel.receiving then { channel with queue := channel.queue ++ [change] }
    else { channel with registered := false }
  else channel

/-- No change registers a channel. -/
theorem registered_of_send {channel : Channel α} {change : α}
    (h : (channel.send change).registered = true) : channel.registered = true := by
  unfold send at h
  split at h
  · assumption
  · exact h

/-- The next change in the queue; without one, the channel is over once nothing is sent to it. -/
def receive (channel : Channel α) : Polled α × Channel α :=
  match channel.queue with
  | change :: rest => (.item change, { channel with queue := rest })
  | [] => (if channel.registered then .pending else .ended, channel)

end Channel

namespace Feed

def empty : Feed α := ⟨[], false⟩

/-- The number of registered channels. -/
def subscribers (feed : Feed α) : Nat := feed.channels.countP (·.registered)

def channel? (feed : Feed α) (id : Nat) : Option (Channel α) := feed.channels[id]?

def setChannel (feed : Feed α) (id : Nat) (channel : Channel α) : Feed α :=
  { feed with channels := feed.channels.set id channel }

/-- Opens a channel for all later changes. Its number is that of the channels before it. -/
def subscribe (feed : Feed α) : Nat × Feed α × List Event :=
  let id := feed.channels.length
  let after : Feed α := ⟨feed.channels ++ [Channel.fresh], true⟩
  (id, after,
    (if feed.listening then [] else [.registered]) ++ [.subscribed id after.subscribers])

/-- Sends a change to every registered channel. Nothing is sent while no listener is registered. -/
def publish (feed : Feed α) (change : α) : Feed α × List Event :=
  if feed.listening then
    ({ feed with channels := feed.channels.map (·.send change) },
      [.publishing feed.subscribers])
  else (feed, [])

/-- Ends a subscription. The listener is released with the last channel. -/
def unsubscribe (feed : Feed α) (id : Nat) : Feed α × List Event :=
  match feed.channel? id with
  | none => (feed, [])
  | some channel =>
    let after := feed.setChannel id { channel with registered := false, subscribed := false }
    let left := after.subscribers
    let gone := Event.unsubscribed id left
    if left = 0 && after.listening then ({ after with listening := false }, [gone, .released])
    else (after, [gone])

/-- Drops a receiver with what waits for it. -/
def dropReceiver (feed : Feed α) (id : Nat) : Feed α :=
  match feed.channel? id with
  | none => feed
  | some channel => feed.setChannel id { channel with queue := [], receiving := false }

/-- Drops a receiver and then its subscription. -/
def close (feed : Feed α) (id : Nat) : Feed α × List Event := (feed.dropReceiver id).unsubscribe id

/-- The next change that a receiver finds. -/
def receive (feed : Feed α) (id : Nat) : Polled α × Feed α :=
  match feed.channel? id with
  | none => (.ended, feed)
  | some channel =>
    let (found, after) := channel.receive
    (found, feed.setChannel id after)

end Feed

end Preferences.Store
