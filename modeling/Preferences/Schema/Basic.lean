import Preferences.Schema.Access
import Preferences.Schema.Diagnostic
import Preferences.Schema.Entries
import Preferences.Schema.Storage

/-! Preference schemas: what a declared trait means. -/

namespace Preferences.Schema

open Preferences.Source Preferences.Syntax

/-- Where a key comes from: fixed by the declaration, or a parameter of the method. -/
inductive Key where
  | fixed (lit : TextLiteral)
  | parameter (name : Name)
  deriving DecidableEq, Repr

namespace Key

def name? : Key → Option String
  | fixed lit => some lit.value
  | parameter _ => none

def piece : Key → Piece
  | fixed lit => lit.piece
  | parameter name => name.piece

end Key

/-- A constant that gives the value of a key nobody has stored. -/
structure DefaultConst where
  name : Name
  key : String
  ty : Ty
  deriving Repr

/-- A required method. The storage, the adapter and the default are bound after parsing. -/
structure Member where
  signature : Signature
  access : Access
  key : Key
  valueType : Option Ty
  valueParam : Option Name
  localAdapter : Option AdapterBinding
  storage : Option Storage
  adapter : Option AdapterBinding
  default : Option Nat
  deriving Repr

namespace Member

def name (member : Member) : String := member.signature.name.text

def pos (member : Member) : Position := member.signature.name.pos

/-- The value type as messages show it. -/
def shownType (member : Member) : String := (member.valueType.map Ty.shown).getD ""

/-- The fixed key and the value type of a typed member. -/
def typedKey? (member : Member) : Option (String × Ty) :=
  if member.access.isTyped then
    match member.key.name?, member.valueType with
    | some key, some ty => some (key, ty)
    | _, _ => none
  else none

end Member

end Preferences.Schema

namespace Preferences

open Source Syntax Schema

/-- A whole declaration; `decl` is the trait without preference attributes. -/
structure Schema where
  namespaceName : TextLiteral
  implName : String
  runtime : Path
  decl : TraitDecl
  members : List Member
  defaults : List DefaultConst
  adapters : List AdapterBinding
  deriving Repr

end Preferences
