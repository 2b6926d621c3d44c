import Mathlib.Data.List.Infix
import Preferences.Schema.Accessor
import Preferences.Schema.Run

/-! Bodies of generated methods, as a compiler reads them: the one call that the tokens of a body
spell, and what it does to a store. No part of the code that writes bodies is used here. -/

namespace Preferences.Schema

open Preferences.Source Preferences.Store Preferences.Syntax

/-! ### Operations -/

/-- The operations of a gateway. -/
inductive Operation where
  | read (watch : Bool) (kind : Kind)
  | write (sync : Bool) (kind : Kind)
  | contains
  | remove
  | clear
  deriving DecidableEq, Repr

/-- The operation of a gateway with a name. -/
def Operation.ofName? : String → Option Operation
  | "observe_boolean" => some (.read true .boolean)
  | "observe_float" => some (.read true .float)
  | "observe_integer" => some (.read true .integer)
  | "observe_long" => some (.read true .long)
  | "observe_string" => some (.read true .string)
  | "get_boolean" => some (.read false .boolean)
  | "get_float" => some (.read false .float)
  | "get_integer" => some (.read false .integer)
  | "get_long" => some (.read false .long)
  | "get_string" => some (.read false .string)
  | "put_boolean" => some (.write false .boolean)
  | "put_float" => some (.write false .float)
  | "put_integer" => some (.write false .integer)
  | "put_long" => some (.write false .long)
  | "put_string" => some (.write false .string)
  | "put_boolean_sync" => some (.write true .boolean)
  | "put_float_sync" => some (.write true .float)
  | "put_integer_sync" => some (.write true .integer)
  | "put_long_sync" => some (.write true .long)
  | "put_string_sync" => some (.write true .string)
  | "contains" => some .contains
  | "remove" => some .remove
  | "clear" => some .clear
  | _ => none

/-- Whether an operation of an adapter watches the key that it reads. -/
def watches? : String → Option Bool
  | "observe" => some true
  | "get" => some false
  | _ => none

/-! ### Calls -/

/-- The call that a body spells, with the tokens of its key and its value, the name of the constant
that it falls back on, and the path of its adapter. -/
inductive BodyCall where
  | read (watch : Bool) (kind : Kind) (key const : String)
  | write (sync : Bool) (kind : Kind) (key value : String)
  | adapterRead (watch : Bool) (path : Code) (key const : String)
  | adapterWrite (path : Code) (key value : String)
  | contains (key : String)
  | remove (key : String)
  | clear

/-- The path `<adapter as runtime::PreferenceAdapter<valueType>>`. -/
def adapterPath (runtime adapter valueType : Code) : Code :=
  .plain "<" :: adapter ++ .plain "as" :: runtime ++
    [.plain "::", .plain "PreferenceAdapter", .plain "<"] ++ valueType ++ [.plain ">>"]

def IsAdapterPath (runtime path : Code) : Prop :=
  ∃ adapter valueType, path = adapterPath runtime adapter valueType

theorem isAdapterPath_iff {runtime path : Code} : IsAdapterPath runtime path ↔
    .plain "<" :: path.tail.dropLast ++ [.plain ">>"] = path ∧
      .plain "as" :: runtime ++ [.plain "::", .plain "PreferenceAdapter", .plain "<"] <:+:
        path.tail.dropLast := by
  constructor
  · rintro ⟨adapter, valueType, rfl⟩
    have htail : (adapterPath runtime adapter valueType).tail =
        adapter ++ (.plain "as" :: runtime ++
          [.plain "::", .plain "PreferenceAdapter", .plain "<"]) ++ valueType ++ [.plain ">>"] := by
      simp [adapterPath]
    rw [htail, List.dropLast_concat]
    exact ⟨by simp [adapterPath], adapter, valueType, rfl⟩
  · rintro ⟨hpath, adapter, valueType, hinside⟩
    exact ⟨adapter, valueType, by rw [← hpath, ← hinside]; simp [adapterPath]⟩

instance (runtime path : Code) : Decidable (IsAdapterPath runtime path) :=
  decidable_of_iff _ isAdapterPath_iff.symm

/-! ### Reading -/

/-- The name of a constant of the trait: `<Self as traitName>::name`. -/
def constant? (traitName : String) : Code → Option String
  | [.plain "<", .plain "Self", .plain "as", .plain self, .plain ">", .plain "::", .plain name] =>
    if self = traitName then some name else none
  | _ => none

/-- What is borrowed as a string: `::core::convert::AsRef::<str>::as_ref(&value)`. -/
def borrowed? : Code → Option Code
  | [.plain "::", .plain "core", .plain "::", .plain "convert", .plain "::", .plain "AsRef",
      .plain "::", .plain "<", .plain "str", .plain ">", .plain "::", .plain "as_ref",
      .parens (.plain "&" :: value)] => some value
  | _ => none

/-- What is passed as a value of a kind. A string is borrowed, any other value stands as it is. -/
def passed? (kind : Kind) (code : Code) : Option Code :=
  if kind = .string then borrowed? code else some code

namespace BodyCall

variable (traitName : String)

/-- The call of a gateway operation with arguments, the first of which is the gateway. -/
def ofGateway? (operation : Operation) : Code → Option BodyCall
  | .plain "&" :: .plain "self" :: .plain "." :: .plain "gateway" :: rest =>
    match operation, rest with
    | .read watch kind, .plain "," :: .plain key :: .plain "," :: fallback => do
      return read watch kind key (← constant? traitName (← passed? kind fallback))
    | .write sync kind, .plain "," :: .plain key :: .plain "," :: value =>
      match passed? kind value with
      | some [.plain name] => some (write sync kind key name)
      | _ => none
    | .contains, [.plain ",", .plain key] => some (contains key)
    | .remove, [.plain ",", .plain key] => some (remove key)
    | .clear, [] => some clear
    | _, _ => none
  | _ => none

/-- The call of an operation of an adapter, which has the gateway as its last argument. -/
def ofAdapter? (path : Code) (operation : String) : Code → Option BodyCall
  | [.plain key, .plain ",", .plain "<", .plain "Self", .plain "as", .plain self, .plain ">",
      .plain "::", .plain name, .plain ",", .plain "&", .plain "self", .plain ".",
      .plain "gateway"] =>
    if self = traitName then (watches? operation).map (adapterRead · path key name) else none
  | [.plain key, .plain ",", .plain value, .plain ",", .plain "&", .plain "self", .plain ".",
      .plain "gateway"] =>
    if operation = "put" then some (adapterWrite path key value) else none
  | _ => none

/-- The call that a body spells: `path::operation(arguments)`, where the path is that of the gateway
or of an adapter. -/
def ofBody? (schema : Schema) (body : Code) : Option BodyCall :=
  match body.reverse with
  | .parens args :: .plain operation :: .plain "::" :: path =>
    if path.reverse = schema.runtime.code ++ [.plain "::", .plain "Gateway"] then do
      ofGateway? schema.decl.name.text (← Operation.ofName? operation) args
    else if IsAdapterPath schema.runtime.code path.reverse then
      ofAdapter? schema.decl.name.text path.reverse operation args
    else none
  | _ => none

end BodyCall

/-! ### Runs -/

/-- What names in generated code stand for: the constants of the trait, and adapters by their
paths. -/
structure Names (α : Type) where
  constant : String → Datum α
  adapter : Code → Adapter α

/-- The names of the parameters of a method, besides `self`. -/
def paramNames (sig : Signature) : List String :=
  sig.params.filterMap fun
    | .typed _ (.binding _ _ _ name _) _ => some name.text
    | .typed _ (.other _ _) _ | .self _ => none

/-- The key that a token stands for: what is passed for it if it names a parameter, and otherwise
the value of a string literal. -/
def keyOf? (params : List String) (passed token : String) : Option String :=
  if token ∈ params then some passed
  else (TextLiteral.ofSpelling? token Position.start).map (·.value)

/-- The key of a setter. The parameter that its value is taken from is used up by that. -/
def setterKey? (params : List String) (passed value token : String) : Option String :=
  if value ∈ params then keyOf? (params.erase value) passed token else none

section Runs

variable (names : Names α) (permission : Permission) (passed : Passed α) (store : Store)

/-- Runs what uses a key, if there is one. -/
def onKey (key : Option String) (run : String → Given α × Store × List Event) :
    Given α × Store × List Event :=
  match key with
  | some key => run key
  | none => (.illTyped, store, [])

/-- Runs the call of a method with parameters `params`. -/
def BodyCall.run (params : List String) : BodyCall → Given α × Store × List Event
  | read watch kind key const =>
    onKey store (keyOf? params passed.key key) fun key =>
      runRead store watch kind key (names.constant const)
  | write sync kind key value =>
    onKey store (setterKey? params passed.key value key) fun key =>
      runWrite permission store sync kind key passed.value
  | adapterRead watch path key const =>
    onKey store (keyOf? params passed.key key) fun key =>
      runAdapterRead permission store watch (names.adapter path) key (names.constant const)
  | adapterWrite path key value =>
    onKey store (setterKey? params passed.key value key) fun key =>
      runAdapterWrite permission store (names.adapter path) key passed.value
  | contains key => onKey store (keyOf? params passed.key key) (runContains store)
  | remove key => onKey store (keyOf? params passed.key key) (runRemove permission store)
  | clear => runClear permission store

/-- The body at the end of a method's code. -/
def bodyOf? (code : Code) : Option Code :=
  match code.getLast? with
  | some (.braces body) => some body
  | _ => none

/-- Runs a method by its code: the call that its body spells. A body that spells none, which the
compiler of the generated code refuses, gives nothing. -/
def Accessor.run (schema : Schema) (method : Accessor) : Given α × Store × List Event :=
  match (bodyOf? (method.code schema)).bind (BodyCall.ofBody? schema) with
  | some call => call.run names permission passed store (paramNames method.signature)
  | none => (.illTyped, store, [])

end Runs

end Preferences.Schema
