import Preferences.Store.Observable

/-! Gateways: what a preference may do to a store. A read-only gateway passes reads through and
refuses to write. -/

namespace Preferences.Store

inductive GatewayError where
  | backend (text : String)
  | snapshot (text : String)
  deriving DecidableEq, Repr

def GatewayError.message : GatewayError → String
  | backend text => "preference backend error: " ++ text
  | snapshot text => "invalid preference snapshot: " ++ text

inductive Permission where
  | full
  | readOnly
  deriving DecidableEq, Repr

namespace Permission

def put (permission : Permission) (store : Store) (key : String) (value : Value) :
    Store × List Event :=
  match permission with
  | full => store.write key value
  | readOnly => (store, [])

/-- Writes and tells whether that was done. -/
def putSync (permission : Permission) (store : Store) (key : String) (value : Value) :
    Except GatewayError Unit × Store × List Event :=
  match permission with
  | full =>
    let (store, events) := store.write key value
    (.ok (), store, events)
  | readOnly => (.error (.backend ("`" ++ key ++ "` is read-only")), store, [])

def remove (permission : Permission) (store : Store) (key : String) : Store × List Event :=
  match permission with
  | full => store.remove key
  | readOnly => (store, [])

def clear (permission : Permission) (store : Store) : Store × List Event :=
  match permission with
  | full => store.clear
  | readOnly => (store, [])

end Permission

end Preferences.Store
