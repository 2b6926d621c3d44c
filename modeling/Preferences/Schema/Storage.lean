import Preferences.Store.Kind
import Preferences.Syntax.Type

/-! How a declared type is stored, and when two spellings are the same type.

Parentheses around a whole type never matter, and all spellings of a string are one type. -/

namespace Preferences.Syntax.Ty

open Preferences.Source

/-- A type without the parentheses around it. -/
def peeled : Ty → Ty
  | .paren _ inner => inner.peeled
  | ty => ty

/-- Whether a type is the bare name `name`. -/
def isPlain (ty : Ty) (name : String) : Bool :=
  match ty.peeled with
  | .path none none [.mk only .none] => only.text = name
  | _ => false

def isUnit (ty : Ty) : Bool :=
  match ty.peeled with
  | .tuple _ [] _ => true
  | _ => false

/-- A shared reference to a string slice. -/
def isStringRef (ty : Ty) : Bool :=
  match ty.peeled with
  | .reference _ _ false inner => inner.isPlain "str"
  | _ => false

def isBool (ty : Ty) : Bool := ty.isPlain "bool"

def isReference : Ty → Bool
  | .reference .. => true
  | _ => false

/-- Whether a type's last segment is `name` without arguments. -/
def isNamed (ty : Ty) (name : String) : Bool :=
  match ty.peeled with
  | .path none _ segments =>
    segments.getLast?.any fun last => last.name.text = name && last.args.isNone
  | _ => false

/-- The types among arguments in angle brackets. -/
def argumentTypes : Arguments → List Ty
  | .angle _ args _ => args.filterMap fun
    | .type ty => some ty
    | _ => none
  | _ => []

/-- The only type between the angle brackets of a type whose last segment is `wrapper`. -/
def unwrapped? (ty : Ty) (wrapper : String) : Option Ty :=
  match ty.peeled with
  | .path _ _ segments => do
    let last ← segments.getLast?
    if last.name.text = wrapper then
      match argumentTypes last.args with
      | [only] => some only
      | _ => none
    else none
  | _ => none

/-- Paths of the string type with the crate that defines it. -/
def stringPaths : List (List String) := [["std", "string", "String"], ["alloc", "string", "String"]]

/-- Whether a type is a spelling of the string type. -/
def isString (ty : Ty) : Bool :=
  ty.isPlain "String" || ty.isStringRef ||
    match ty with
    | .path none _ segments =>
      segments.all (·.args.isNone) && stringPaths.contains (segments.map (·.name.text))
    | _ => false

/-- The spelling that identifies a type. -/
def key (ty : Ty) : String :=
  let ty := ty.peeled
  if ty.isString then "String" else Code.text ty.code

def same (a b : Ty) : Bool := a.key = b.key

/-- Spacing that messages leave out of a type, in this order. -/
def tightened : List (String × String) := [(" < ", "<"), (" >", ">"), (" :: ", "::"), ("& ", "&")]

/-- A type as messages show it. -/
def shown (ty : Ty) : String :=
  tightened.foldl (fun text (loose, tight) => text.replace loose tight) (Code.text ty.peeled.code)

end Preferences.Syntax.Ty

namespace Preferences.Schema

open Preferences.Store Preferences.Syntax

/-- How a value is stored: as one of the kinds, or through an adapter. -/
inductive Storage where
  | native (kind : Kind)
  | adapted
  deriving DecidableEq, Repr

/-- The scalar types by the kinds that store them. -/
def scalars : List (String × Kind) :=
  [("bool", .boolean), ("f32", .float), ("i32", .integer), ("i64", .long)]

/-- Only the exact spellings of the scalars are stored natively. -/
def Storage.ofType (ty : Ty) : Storage :=
  let ty := ty.peeled
  if ty.isString then .native .string
  else
    match scalars.find? fun (name, _) => ty.isPlain name with
    | some (_, kind) => .native kind
    | none => .adapted

end Preferences.Schema
