import Preferences.Schema.Basic

/-! Generated methods. Each one is the signature that the trait declares, and a single call on a
gateway or on an adapter. -/

namespace Preferences.Schema

open Preferences.Source Preferences.Store Preferences.Syntax Report

/-- What a generated method does. A watching read gives a stream of values, and a synchronous write
a completion. -/
inductive Call where
  | read (watch : Bool) (kind : Kind) (key : Key) (fallback : DefaultConst)
  | write (sync : Bool) (kind : Kind) (key : Key) (value : Name)
  | adapterRead (watch : Bool) (adapter : AdapterBinding) (key : Key) (fallback : DefaultConst)
  | adapterWrite (adapter : AdapterBinding) (key : Key) (value : Name)
  | contains (key : Key)
  | remove (key : Key)
  | clear
  deriving Repr

/-! ### Code -/

section Code

variable (schema : Schema)

/-- The constant of a default, seen from the generated type. -/
def defaultCode (const : DefaultConst) : Code :=
  Code.words ["<", "Self", "as"] ++
    [schema.decl.name.piece, .plain ">", .plain "::", const.name.piece]

/-- The gateway that a generated type wraps. -/
def gatewayCode : Code := Code.words ["&", "self", ".", "gateway"]

/-- A call of a gateway operation. -/
def gatewayCall (operation : String) (args : List Code) : Code :=
  schema.runtime.code ++ Code.words ["::", "Gateway", "::", operation] ++
    [.parens (Code.commaList (gatewayCode :: args) false)]

/-- A call of an adapter operation, which has the gateway last. -/
def adapterCall (bound : AdapterBinding) (operation : String) (args : List Code) : Code :=
  .plain "<" :: bound.adapter.code ++ .plain "as" :: schema.runtime.code ++
    Code.words ["::", "PreferenceAdapter", "<"] ++ bound.valueType.code ++
    Code.words [">>", "::", operation] ++
    [.parens (Code.commaList (args ++ [gatewayCode]) false)]

/-- A value as a gateway operation of a kind takes it. Strings are borrowed. -/
def argumentCode (kind : Kind) (value : Code) : Code :=
  if kind = .string then
    Code.words ["::", "core", "::", "convert", "::", "AsRef", "::", "<", "str", ">", "::",
      "as_ref"] ++ [.parens (.plain "&" :: value)]
  else value

def readVerb (watch : Bool) : String := if watch then "observe" else "get"

/-- The body of a generated method. -/
def Call.code : Call → Code
  | read watch kind key fallback =>
    gatewayCall schema (readVerb watch ++ "_" ++ kind.name)
      [[key.piece], argumentCode kind (defaultCode schema fallback)]
  | write sync kind key value =>
    gatewayCall schema ("put_" ++ kind.name ++ if sync then "_sync" else "")
      [[key.piece], argumentCode kind [value.piece]]
  | adapterRead watch bound key fallback =>
    adapterCall schema bound (readVerb watch) [[key.piece], defaultCode schema fallback]
  | adapterWrite bound key value => adapterCall schema bound "put" [[key.piece], [value.piece]]
  | contains key => gatewayCall schema "contains" [[key.piece]]
  | remove key => gatewayCall schema "remove" [[key.piece]]
  | clear => gatewayCall schema "clear" []

end Code

/-! ### Generation -/

/-- A method of the generated implementation. -/
structure Accessor where
  signature : Signature
  call : Call
  deriving Repr

def Accessor.code (schema : Schema) (accessor : Accessor) : Code :=
  accessor.signature.code ++ [.braces (accessor.call.code schema)]

/-- The default bound to a member. -/
def boundDefault (schema : Schema) (member : Member) : Except Diagnostic DefaultConst :=
  match member.default.bind (schema.defaults[·]?) with
  | some const => .ok const
  | none =>
    .error (.ofProblem member.pos (.missingDefault member.name (member.key.name?.getD "")
      member.shownType ""))

/-- What a typed member delegates to: gateway operations of a kind, or an adapter. -/
def target (member : Member) : Except Diagnostic (Kind ⊕ AdapterBinding) :=
  match member.storage, member.adapter with
  | none, _ =>
    .error (.ofProblem member.pos (.unsupportedType member.name member.shownType
      "no storage kind was resolved"))
  | some (.native kind), _ => .ok (.inl kind)
  | some .adapted, some bound => .ok (.inr bound)
  | some .adapted, none =>
    .error (.ofProblem member.pos (.missingAdapter member.name member.shownType
      "no adapter is bound to this member"))

def valueParam (member : Member) : Except Diagnostic Name :=
  match member.valueParam with
  | some name => .ok name
  | none =>
    .error (.member member.pos member.name "setters take exactly one value parameter")

def readCall (schema : Schema) (watch : Bool) (member : Member) : Except Diagnostic Call := do
  let fallback ← boundDefault schema member
  match ← target member with
  | .inl kind => return .read watch kind member.key fallback
  | .inr bound => return .adapterRead watch bound member.key fallback

def writeCall (sync : Bool) (member : Member) : Except Diagnostic Call := do
  let value ← valueParam member
  match ← target member with
  | .inl kind => return .write sync kind member.key value
  | .inr bound =>
    if sync then
      throw (.ofProblem member.pos (.unsupportedType member.name member.shownType
        "adapters have no synchronous put"))
    else return .adapterWrite bound member.key value

/-- The call of a member that is accessed as `access` says, with all bindings checked that the call
uses. -/
def callFor (schema : Schema) (access : Access) (member : Member) : Except Diagnostic Call :=
  match access with
  | .get => readCall schema false member
  | .observe => readCall schema true member
  | .set => writeCall false member
  | .setSync => writeCall true member
  | .contains => .ok (.contains member.key)
  | .remove => .ok (.remove member.key)
  | .clear => .ok .clear

/-- The method generated for a member that is accessed as `access` says. -/
def accessorFor (schema : Schema) (access : Access) (member : Member) :
    Except Diagnostic Accessor :=
  (callFor schema access member).map (⟨member.signature, ·⟩)

/-- The methods generated for all members, in declaration order. -/
def accessors (schema : Schema) : Report (List Accessor) := do
  let found ← each (fun member => check (accessorFor schema member.access member)) schema.members
  return found.filterMap id

end Preferences.Schema
