import Preferences.Schema.Accessor
import Preferences.Store.Adapter

/-! What generated methods do to a store. -/

namespace Preferences.Schema

open Preferences.Store

/-- A value that a method takes or gives: one of the kinds, or one that an adapter stores. -/
inductive Datum (α : Type) where
  | native (value : Value)
  | adapted (value : α)

/-- What the names in a declaration stand for: its constants, and its adapters. -/
structure Meaning (α : Type) where
  constant : DefaultConst → Datum α
  adapter : AdapterBinding → Adapter α

/-- What a caller passes: a key, for methods that take one, and a value, for setters. -/
structure Passed (α : Type) where
  key : String
  value : Datum α

/-- What a method gives back. An ill-typed call, which the compiler of the generated code refuses,
gives nothing. -/
inductive Given (α : Type) where
  | nothing
  | datum (value : Datum α)
  | stream (stream : Stream (Datum α))
  | completion (result : Except GatewayError Unit)
  | flag (b : Bool)
  | illTyped

/-- The key that a call uses. -/
def Key.resolve (key : Key) (passed : String) : String := key.name?.getD passed

/-- A value as one of a kind, if it is. -/
def Datum.ofKind? (kind : Kind) : Datum α → Option Value
  | native value => if value.kind = kind then some value else none
  | adapted _ => none

def Datum.adapted? : Datum α → Option α
  | adapted value => some value
  | native _ => none

section Operations

variable (permission : Permission) (store : Store)

/-- A read of a kind. -/
def runRead (watch : Bool) (kind : Kind) (key : String) (fallback : Datum α) :
    Given α × Store × List Event :=
  match fallback.ofKind? kind with
  | none => (.illTyped, store, [])
  | some fallback =>
    if watch then
      let (source, store, events) := store.observe key fallback
      (.stream ((Stream.plain source).map .native), store, events)
    else
      let (value, events) := store.read key fallback
      (.datum (.native value), store, events)

def runWrite (sync : Bool) (kind : Kind) (key : String) (value : Datum α) :
    Given α × Store × List Event :=
  match value.ofKind? kind with
  | none => (.illTyped, store, [])
  | some value =>
    if sync then
      let (result, store, events) := permission.putSync store key value
      (.completion result, store, events)
    else (.nothing, permission.put store key value)

def runAdapterRead (watch : Bool) (adapter : Adapter α) (key : String) (fallback : Datum α) :
    Given α × Store × List Event :=
  match fallback.adapted? with
  | none => (.illTyped, store, [])
  | some fallback =>
    if watch then
      let (stream, store, events) := adapter.observe permission store key fallback
      (.stream (stream.map .adapted), store, events)
    else
      let (value, store, events) := adapter.get permission store key fallback
      (.datum (.adapted value), store, events)

def runAdapterWrite (adapter : Adapter α) (key : String) (value : Datum α) :
    Given α × Store × List Event :=
  match value.adapted? with
  | none => (.illTyped, store, [])
  | some value => (.nothing, adapter.put permission store key value)

def runContains (key : String) : Given α × Store × List Event :=
  (.flag (store.values.contains key), store, [])

def runRemove (key : String) : Given α × Store × List Event :=
  (.nothing, permission.remove store key)

def runClear : Given α × Store × List Event := (.nothing, permission.clear store)

end Operations

/-- Runs the call of a generated method over a store. -/
def Call.run (meaning : Meaning α) (permission : Permission) (passed : Passed α) (store : Store) :
    Call → Given α × Store × List Event
  | read watch kind key fallback =>
    runRead store watch kind (key.resolve passed.key) (meaning.constant fallback)
  | write sync kind key _ =>
    runWrite permission store sync kind (key.resolve passed.key) passed.value
  | adapterRead watch bound key fallback =>
    runAdapterRead permission store watch (meaning.adapter bound) (key.resolve passed.key)
      (meaning.constant fallback)
  | adapterWrite bound key _ =>
    runAdapterWrite permission store (meaning.adapter bound) (key.resolve passed.key) passed.value
  | contains key => runContains store (key.resolve passed.key)
  | remove key => runRemove permission store (key.resolve passed.key)
  | clear => runClear permission store

end Preferences.Schema
