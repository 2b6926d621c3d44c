import Preferences.Schema.Basic

/-! Binding the members of a schema: their storage and adapters, their defaults, and the rule that
one key has one type. -/

namespace Preferences.Schema

open Preferences.Source Preferences.Syntax

/-! ### Adapters -/

/-- What is missing where no adapter is bound for a type. -/
def adapterAdvice (ty : Ty) (adapters : List AdapterBinding) : String :=
  if adapters.isEmpty then
    "add #[adapter(" ++ ty.shown ++ " => YourAdapter)] to the trait or method"
  else
    "adapters are only bound for " ++
      ", ".intercalate (adapters.map fun bound => "`" ++ bound.valueType.shown ++ "`")

/-- The adapter of a member whose values have type `ty`: its own one, or else that of the trait. A
type that is stored natively has none, and a synchronous setter cannot have one. -/
def adapterFor (adapters : List AdapterBinding) (member : Member) (storage : Storage) (ty : Ty) :
    Except Diagnostic (Option AdapterBinding) :=
  match storage, member.localAdapter with
  | .native _, none => .ok none
  | .native _, some bound =>
    .error (.member bound.pos member.name
      ("`" ++ ty.shown ++ "` is stored natively, adapters apply to non-scalar types only"))
  | .adapted, own =>
    if member.access = .setSync then
      .error (.ofProblem member.pos (.unsupportedType member.name ty.shown
        "#[set_sync] needs a scalar type, adapters have no synchronous put"))
    else
      match own with
      | some bound =>
        if bound.valueType.same ty then .ok (some bound)
        else
          .error (.ofProblem bound.pos (.missingAdapter member.name ty.shown
            ("the adapter on this method is bound to `" ++ bound.valueType.shown ++ "`")))
      | none =>
        match adapters.find? fun bound => bound.valueType.same ty with
        | some bound => .ok (some bound)
        | none =>
          .error (.ofProblem member.pos (.missingAdapter member.name ty.shown
            (adapterAdvice ty adapters)))

/-- Gives a typed member its storage, and its adapter unless that is wrong. -/
def bindMember (adapters : List AdapterBinding) (member : Member) : Member × Option Diagnostic :=
  match member.valueType with
  | none => (member, none)
  | some ty =>
    let storage := Storage.ofType ty
    let stored := { member with storage := some storage }
    match adapterFor adapters stored storage ty with
    | .ok adapter => ({ stored with adapter }, none)
    | .error d => (stored, some d)

/-! ### Defaults -/

/-- The defaults that satisfy `test`, with their places in the list. -/
def placed (test : DefaultConst → Bool) (defaults : List DefaultConst) :
    List (DefaultConst × Nat) :=
  defaults.zipIdx.filter fun (const, _) => test const

/-- The place of the one default with a member's key and type. -/
def resolveDefault (member : Member) (defaults : List DefaultConst) : Except Diagnostic Nat :=
  match member.key.name?, member.valueType with
  | some key, some ty =>
    let near := placed (·.key = key) defaults
    match near.filter fun (const, _) => const.ty.same ty with
    | [(_, place)] => .ok place
    | [] =>
      let hint :=
        match near with
        | (const, _) :: _ =>
          " (`" ++ const.name.text ++ "` has that key but is declared as `" ++
            const.ty.shown ++ "`)"
        | [] => ""
      .error ⟨.missingDefault member.name key ty.shown hint, member.pos,
        near.map fun (const, _) =>
          (const.name.pos, "`" ++ const.name.text ++ "` declared here")⟩
    | candidates =>
      .error ⟨.ambiguousDefault member.name key ty.shown candidates.length, member.pos,
        candidates.map fun (const, _) =>
          (const.name.pos, "candidate default `" ++ const.name.text ++ "`")⟩
  | _, _ =>
    .error (.member member.pos member.name
      "a default can only be bound to a typed member with a fixed key")

/-- Gives a getter or an observer its default, unless that is wrong. -/
def bindDefault (defaults : List DefaultConst) (member : Member) : Member × Option Diagnostic :=
  if member.access.needsDefault then
    match resolveDefault member defaults with
    | .ok place => ({ member with default := some place }, none)
    | .error d => (member, some d)
  else (member, none)

/-! ### Keys -/

/-- The conflict of a member with the first one before it that has the same key. -/
def conflict? (before : List Member) (member : Member) : Option Diagnostic := do
  let (key, ty) ← member.typedKey?
  let (first, firstTy) ← before.findSome? fun first => do
    let (firstKey, firstTy) ← first.typedKey?
    if firstKey = key then some (first, firstTy) else none
  if firstTy.same ty then none
  else
    some ⟨.conflictingKey key firstTy.shown ty.shown, member.pos,
      [(first.pos, "`" ++ first.name ++ "` uses the key first")]⟩

/-- The conflicts of members that come after those in `before`. -/
def conflictsAfter (before : List Member) : List Member → List Diagnostic
  | [] => []
  | member :: rest => (conflict? before member).toList ++ conflictsAfter (before ++ [member]) rest

/-! ### Stages -/

/-- The stages that resolve a schema after it is parsed. -/
inductive Stage where
  | members
  | defaults
  | keys
  deriving DecidableEq, Repr

namespace Stage

def all : List Stage := [members, defaults, keys]

def name : Stage → String
  | members => "members"
  | defaults => "defaults"
  | keys => "keys"

def ofName? (name : String) : Option Stage := all.find? (·.name = name)

/-- What a stage does to a schema. -/
def run (mode : Mode) (schema : Schema) : Stage → Pass Schema
  | members =>
    (Pass.overList (bindMember schema.adapters) mode schema.members).map
      fun members => { schema with members }
  | defaults =>
    (Pass.overList (bindDefault schema.defaults) mode schema.members).map
      fun members => { schema with members }
  | keys =>
    (Pass.overList (fun d => (d, some d)) mode (conflictsAfter [] schema.members)).map
      fun _ => schema

end Stage

/-- A schema as some stages left it, what they reported, and the stage that was aborted, if any. -/
structure Resolution where
  schema : Schema
  reported : List Diagnostic
  aborted : Option Stage

/-- Runs stages in turn, up to one that is aborted. -/
def resolve (mode : Mode) (schema : Schema) : List Stage → Resolution
  | [] => ⟨schema, [], none⟩
  | stage :: rest =>
    let pass := stage.run mode schema
    if pass.aborted then ⟨pass.value, pass.reported, some stage⟩
    else
      let others := resolve mode pass.value rest
      { others with reported := pass.reported ++ others.reported }

end Preferences.Schema
