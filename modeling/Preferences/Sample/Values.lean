import Preferences.Store.Codecs

/-! Values that no kind stores, and the adapters that store them, for the sample declarations. -/

namespace Preferences.Sample

open Preferences.Store

/-- One of three choices, stored by its number. -/
inductive Choice where
  | one
  | two
  | three
  deriving DecidableEq, Repr

namespace Choice

def all : List Choice := [one, two, three]

def name : Choice → String
  | one => "One"
  | two => "Two"
  | three => "Three"

def ordinal : Choice → Int32
  | one => 0
  | two => 1
  | three => 2

def ofOrdinal? (n : Int32) : Option Choice := all.find? (·.ordinal = n)

/-- The choice with a name. Other names mean the last one. -/
def ofName (name : String) : Choice := (all.find? (·.name = name)).getD three

end Choice

/-- A system of units, stored by its name. -/
inductive Units where
  | metric
  | imperial
  deriving DecidableEq, Repr

namespace Units

def name : Units → String
  | metric => "metric"
  | imperial => "imperial"

def ofName? (name : String) : Option Units := [metric, imperial].find? (·.name = name)

def codec : Codec Units := ⟨name, ofName?⟩

end Units

inductive Custom where
  | choice (c : Choice)
  | units (u : Units)
  deriving DecidableEq, Repr

namespace Custom

def name : Custom → String
  | choice c => c.name
  | units u => u.name

def ordinal : Custom → Int32
  | choice c => c.ordinal
  | units _ => 0

/-- The choice with a stored number, or the fallback for other numbers. -/
def ofStored (stored : Value) (fallback : Custom) : Custom :=
  match stored with
  | .integer n => ((Choice.ofOrdinal? n).map choice).getD fallback
  | _ => fallback

/-- Stores choices by their numbers. -/
def ordinalAdapter : Adapter Custom where
  observe _ store key fallback :=
    let (source, store, events) := store.observe key (.integer fallback.ordinal)
    (⟨source, fun value => (ofStored value fallback, [])⟩, store, events)
  get _ store key fallback :=
    let (stored, events) := store.read key (.integer fallback.ordinal)
    (ofStored stored fallback, store, events)
  put permission store key value := permission.put store key (.integer value.ordinal)

/-- Stores units by their names. -/
def nameAdapter : Adapter Custom :=
  Codec.adapter ⟨name, fun text => (Units.ofName? text).map units⟩

/-- Knows the imperial system alone, whatever is stored. -/
def imperialAdapter : Adapter Custom where
  observe _ store key _ :=
    let (source, store, events) := store.observe key (.string "")
    (⟨source, fun _ => (.units .imperial, [])⟩, store, events)
  get _ store _ _ := (.units .imperial, store, [])
  put permission store key _ := permission.put store key (.string Units.imperial.name)

end Custom

end Preferences.Sample
