import Preferences.Store.Feed

/-! Sessions on a feed: subscriptions and their receivers, held apart or together. -/

namespace Preferences.Session

open Preferences.Store

/-- What is held of a channel: its subscription and its receiver, or both in one stream. -/
inductive Holding where
  | apart (subscription receiver : Bool)
  | watched
  | dropped
  deriving DecidableEq, Repr

/-- A feed of texts, unless another type of changes is named. -/
structure FeedSession (α : Type := String) where
  feed : Feed α
  holdings : List Holding
  deriving DecidableEq, Repr

inductive FeedStep (α : Type := String) where
  | subscribe
  | publish (change : α)
  | poll (id count : Nat)
  | dropSubscription (id : Nat)
  | dropReceiver (id : Nat)
  | dropWatched (id : Nat)
  | watch (id : Nat)
  | hint (id : Nat)
  | unknown
  deriving DecidableEq, Repr

inductive FeedAnswer (α : Type := String) where
  | gone
  | badStep
  | subscribed (id : Nat)
  | published
  | polled (found : List (Polled α))
  | dropped
  | watching
  | hint (least : Nat)
  deriving DecidableEq, Repr

namespace FeedSession

def start : FeedSession α := ⟨.empty, []⟩

def holding (session : FeedSession α) (id : Nat) : Holding := session.holdings.getD id .dropped

/-- The session after a change to one channel's feed and holding. -/
def after (session : FeedSession α) (id : Nat) (holding : Holding) (feed : Feed α) :
    FeedSession α :=
  ⟨feed, session.holdings.set id holding⟩

/-- Polls a receiver up to `count` times, but not on after something that is no change. -/
def pollUpTo (feed : Feed α) (id : Nat) : Nat → List (Polled α) × Feed α
  | 0 => ([], feed)
  | count + 1 =>
    let (found, feed) := feed.receive id
    match found with
    | .item _ =>
      let (others, feed) := pollUpTo feed id count
      (found :: others, feed)
    | _ => ([found], feed)

def waiting (feed : Feed α) (id : Nat) : Nat :=
  ((feed.channel? id).map (·.queue.length)).getD 0

/-- Does one step. -/
def step (session : FeedSession α) :
    FeedStep α → FeedAnswer α × FeedSession α × List Event
  | .subscribe =>
    let (id, feed, events) := session.feed.subscribe
    (.subscribed id, ⟨feed, session.holdings ++ [.apart true true]⟩, events)
  | .publish change =>
    let (feed, events) := session.feed.publish change
    (.published, { session with feed }, events)
  | .poll id count =>
    match session.holding id with
    | .apart _ true | .watched =>
      let (found, feed) := pollUpTo session.feed id count
      (.polled found, { session with feed }, [])
    | _ => (.gone, session, [])
  | .dropSubscription id =>
    match session.holding id with
    | .apart true receiver =>
      let (feed, events) := session.feed.unsubscribe id
      (.dropped, session.after id (.apart false receiver) feed, events)
    | _ => (.gone, session, [])
  | .dropReceiver id =>
    match session.holding id with
    | .apart subscription true =>
      (.dropped, session.after id (.apart subscription false) (session.feed.dropReceiver id), [])
    | _ => (.gone, session, [])
  | .dropWatched id =>
    match session.holding id with
    | .watched =>
      let (feed, events) := session.feed.close id
      (.dropped, session.after id .dropped feed, events)
    | _ => (.gone, session, [])
  | .watch id =>
    match session.holding id with
    | .apart true true => (.watching, session.after id .watched session.feed, [])
    | .apart true false =>
      let (feed, events) := session.feed.unsubscribe id
      (.gone, session.after id .dropped feed, events)
    | .apart false true =>
      (.gone, session.after id .dropped (session.feed.dropReceiver id), [])
    | _ => (.gone, session, [])
  | .hint id =>
    match session.holding id with
    | .watched => (.hint (waiting session.feed id), session, [])
    | _ => (.gone, session, [])
  | .unknown => (.badStep, session, [])

end FeedSession

end Preferences.Session
