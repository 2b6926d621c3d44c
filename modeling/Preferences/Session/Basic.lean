import Preferences.Sample.Declarations
import Preferences.Snapshot.Read
import Preferences.Snapshot.Write

/-! Sessions: steps on stores, each of which may have several handles, and on streams of values. -/

namespace Preferences

open Store

/-- All stores ever made, the handles on them, and the streams from them. A handle or a stream that
is dropped leaves its number unused. -/
structure Session where
  stores : List Store
  handles : List (Option Nat)
  streams : List (Option (Nat × Stream Value))

end Preferences

namespace Preferences.Session

open Preferences.Sample Preferences.Schema Preferences.Store

/-- What a step does through a handle. -/
inductive Action where
  | clone
  | close
  | put (key : String) (value : Value)
  | putSync (key : String) (value : Value) (awaited : Bool)
  | get (key : String) (fallback : Value)
  | observe (key : String) (fallback : Value)
  | contains (key : String)
  | remove (key : String)
  | clear
  | adapterGet (codec : Codec String) (key text : String)
  | adapterPut (codec : Codec String) (key text : String)
  | adapterObserve (codec : Codec String) (key text : String)
  | stored (key : String)
  | dump
  | call (declaration : Declaration) (method : String) (passed : Passed Custom) (awaited : Bool)

/-- A step. One on a handle may have an action that is not understood. -/
inductive Step where
  | new
  | load (text : String)
  | poll (stream count : Nat)
  | hint (stream : Nat)
  | drop (stream : Nat)
  | act (handle : Nat) (permission : Permission) (action : Option Action)
  | unknown

inductive Refusal where
  | noHandle
  | noStream
  | badStep
  deriving DecidableEq, Repr

inductive Answer where
  | refused (refusal : Refusal)
  | failed (error : GatewayError)
  | nothing
  | stored
  | dropped
  | handle (number : Nat)
  | stream (number : Nat)
  | value (value : Value)
  | held (value : Option Value)
  | polled (found : List (Polled Value))
  | hint (least : Nat)

/-! ### Values as they are shown -/

/-- A value, or the name of one that an adapter stores. -/
def shownDatum : Datum Custom → Value
  | .native value => value
  | .adapted custom => .string custom.name

def completed (awaited : Bool) : Except GatewayError Unit → Answer
  | .ok _ => if awaited then .stored else .dropped
  | .error error => if awaited then .failed error else .dropped

/-- A session with one empty store. -/
def start : Session := ⟨[.empty], [some 0], []⟩

def storeOf? (session : Session) (handle : Nat) : Option Nat := (session.handles[handle]?).join

def store (session : Session) (number : Nat) : Store := session.stores.getD number .empty

/-- The store that a handle leads to. -/
def status? (session : Session) (handle : Nat) : Option Store :=
  (session.storeOf? handle).map session.store

def setStore (session : Session) (number : Nat) (store : Store) : Session :=
  { session with stores := session.stores.set number store }

def addStore (session : Session) (store : Store) : Answer × Session :=
  (.handle session.handles.length,
    { session with
      stores := session.stores ++ [store]
      handles := session.handles ++ [some session.stores.length] })

def addStream (session : Session) (number : Nat) (stream : Stream Value) : Answer × Session :=
  (.stream session.streams.length,
    { session with streams := session.streams ++ [some (number, stream)] })

def setStream (session : Session) (number : Nat) (stream : Option (Nat × Stream Value)) :
    Session :=
  { session with streams := session.streams.set number stream }

/-- Reads a text with a codec, and goes on with its usual form. -/
def withText (codec : Codec String) (text : String)
    (go : String → Answer × Session × List Event) (session : Session) :
    Answer × Session × List Event :=
  match codec.read? text with
  | some usual => go usual
  | none => (.refused .badStep, session, [])

/-- The answer for what a method gives back. -/
def give (session : Session) (number : Nat) (awaited : Bool) : Given Custom → Answer × Session
  | .nothing => (.nothing, session)
  | .datum datum => (.value (shownDatum datum), session)
  | .stream stream => session.addStream number (stream.map shownDatum)
  | .completion result => (completed awaited result, session)
  | .flag b => (.value (.boolean b), session)
  | .illTyped => (.refused .badStep, session)

/-- Does an action to the store with a number. -/
def act (session : Session) (handle number : Nat) (permission : Permission) (action : Action) :
    Answer × Session × List Event :=
  let store := session.store number
  let writing (result : Store × List Event) : Answer × Session × List Event :=
    (.nothing, session.setStore number result.1, result.2)
  let watching (stream : Stream Value) (result : Store × List Event) :
      Answer × Session × List Event :=
    let (answer, session) := (session.setStore number result.1).addStream number stream
    (answer, session, result.2)
  match action with
  | .clone =>
    (.handle session.handles.length, { session with handles := session.handles ++ [some number] },
      [])
  | .close => (.dropped, { session with handles := session.handles.set handle none }, [])
  | .put key value => writing (permission.put store key value)
  | .putSync key value awaited =>
    let (result, store, events) := permission.putSync store key value
    (completed awaited result, session.setStore number store, events)
  | .get key fallback =>
    let (value, events) := store.read key fallback
    (.value value, session, events)
  | .observe key fallback =>
    let (source, after) := store.observe key fallback
    watching (.plain source) after
  | .contains key => (.value (.boolean (store.values.contains key)), session, [])
  | .remove key => writing (permission.remove store key)
  | .clear => writing (permission.clear store)
  | .adapterGet codec key text =>
    session.withText codec text fun fallback =>
      let (value, store, events) := codec.adapter.get permission store key fallback
      (.value (.string value), session.setStore number store, events)
  | .adapterPut codec key text =>
    session.withText codec text fun value =>
      writing (codec.adapter.put permission store key value)
  | .adapterObserve codec key text =>
    session.withText codec text fun fallback =>
      let (stream, after) := codec.adapter.observe permission store key fallback
      watching (stream.map .string) after
  | .stored key => (.held (store.values.get? key), session, [])
  | .dump => (.value (.string (Snapshot.write store.values)), session, [])
  | .call declaration method passed awaited =>
    let (given, store, events) := declaration.invoke permission passed store method
    let (answer, session) := (session.setStore number store).give number awaited given
    (answer, session, events)

/-- Does one step. -/
def step (session : Session) : Step → Answer × Session × List Event
  | .new =>
    let (answer, session) := session.addStore .empty
    (answer, session, [])
  | .load text =>
    match Snapshot.read text with
    | .ok values =>
      let (answer, session) := session.addStore (.ofEntries values)
      (answer, session, [])
    | .error error => (.failed error, session, [])
  | .poll stream count =>
    match (session.streams[stream]?).join with
    | none => (.refused .noStream, session, [])
    | some (number, source) =>
      let (found, source, store, events) := source.pollUpTo (session.store number) count
      (.polled found, (session.setStore number store).setStream stream (some (number, source)),
        events)
  | .hint stream =>
    match (session.streams[stream]?).join with
    | none => (.refused .noStream, session, [])
    | some (_, source) => (.hint source.source.ready, session, [])
  | .drop stream =>
    match (session.streams[stream]?).join with
    | none => (.refused .noStream, session, [])
    | some (number, source) =>
      let (store, events) := (session.store number).drop source.source
      (.dropped, (session.setStore number store).setStream stream none, events)
  | .act handle permission action =>
    match session.storeOf? handle, action with
    | none, _ => (.refused .noHandle, session, [])
    | some _, none => (.refused .badStep, session, [])
    | some number, some action => session.act handle number permission action
  | .unknown => (.refused .badStep, session, [])

end Preferences.Session
