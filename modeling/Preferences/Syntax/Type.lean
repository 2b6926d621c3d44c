import Preferences.Source.Parser

/-! Types as they are declared, with the positions that errors point at, and their code.

What no rule looks into is kept as code: array lengths, bounds, function types and macro calls. -/

namespace Preferences.Syntax

open Preferences.Source

mutual

inductive Ty where
  | paren (pos : Position) (inner : Ty)
  | tuple (pos : Position) (elems : List Ty) (trailing : Bool)
  /-- A path, after the part in angle brackets if it begins with one. -/
  | path (qualifier : Option (Position × Code)) (leading : Option Position)
      (segments : List Segment)
  | reference (pos : Position) (lifetime : Code) (isMut : Bool) (inner : Ty)
  | pointer (pos : Position) (isMut : Bool) (inner : Ty)
  /-- A slice, or an array with its length. -/
  | bracketed (pos : Position) (elem : Ty) (length : Option Code)
  | never (pos : Position)
  | infer (pos : Position)
  | function (pos : Position) (qualifiers params output : Code)
  /-- A type behind `dyn`, or behind `impl` if opaque. -/
  | bounded (pos : Position) (isImpl : Bool) (bounds : Code)
  /-- Bounds without a keyword: a sum, one over lifetimes, or one in parentheses. -/
  | sum (pos : Position) (first : Code) (others : List Code) (trailing : Bool)
  | ranked (pos : Position) (lifetimes bound : Code)
  | boundGroup (pos : Position) (bound : Code)
  | call (pos : Position) (path : Code) (delimiter : Delimiter) (body : Code)

inductive Segment where
  | mk (name : Name) (args : Arguments)

inductive Arguments where
  | none
  | angle (turbofish : Bool) (args : List GenericArg) (trailing : Bool)
  | call (inputs output : Code)

inductive GenericArg where
  | lifetime (code : Code)
  | type (ty : Ty)
  | other (code : Code)

end

instance : Inhabited Ty := ⟨.never Position.start⟩

deriving instance Repr for Ty
deriving instance Repr for Segment

namespace Segment

def name : Segment → Name
  | mk name _ => name

def args : Segment → Arguments
  | mk _ args => args

end Segment

def Arguments.isNone : Arguments → Bool
  | none => true
  | _ => false

/-- The arrow and type of a function's result; nothing where none is written. -/
def outputCode (output : Code) : Code := if output.isEmpty then [] else .plain "->" :: output

mutual

def Ty.code : Ty → Code
  | .paren _ inner => [.parens inner.code]
  | .tuple _ elems trailing => [.parens (Code.commaList (Ty.codes elems) trailing)]
  | .path qualifier leading segments =>
    (match qualifier with
      | some (_, code) => .plain "<" :: code ++ Code.words [">", "::"]
      | none => []) ++
    (if leading.isSome then [.plain "::"] else []) ++
    Code.separated (.plain "::") (Segment.codes segments)
  | .reference _ lifetime isMut inner =>
    .plain "&" :: lifetime ++ (if isMut then [.plain "mut"] else []) ++ inner.code
  | .pointer _ isMut inner =>
    Code.words ["*", if isMut then "mut" else "const"] ++ inner.code
  | .bracketed _ elem length =>
    [.brackets (elem.code ++ match length with
      | some length => .plain ";" :: length
      | none => [])]
  | .never _ => [.plain "!"]
  | .infer _ => [.plain "_"]
  | .function _ qualifiers params output =>
    qualifiers ++ .plain "fn" :: .parens params :: outputCode output
  | .bounded _ isImpl bounds => .plain (if isImpl then "impl" else "dyn") :: bounds
  | .sum _ first others trailing =>
    first ++ .plain "+" :: Code.separated (.plain "+") others ++
      if trailing && !others.isEmpty then [.plain "+"] else []
  | .ranked _ lifetimes bound => Code.words ["for", "<"] ++ lifetimes ++ .plain ">" :: bound
  | .boundGroup _ bound => [.parens bound]
  | .call _ path delimiter body => path ++ [.plain "!", .group delimiter body]

def Ty.codes : List Ty → List Code
  | [] => []
  | ty :: rest => ty.code :: Ty.codes rest

def Segment.code : Segment → Code
  | .mk name args => name.piece :: args.code

def Segment.codes : List Segment → List Code
  | [] => []
  | segment :: rest => segment.code :: Segment.codes rest

def Arguments.code : Arguments → Code
  | .none => []
  | .angle turbofish args trailing =>
    (if turbofish then [.plain "::"] else []) ++
      .plain "<" :: Code.commaList (GenericArg.codes args) trailing ++ [.plain ">"]
  | .call inputs output => .parens inputs :: outputCode output

def GenericArg.code : GenericArg → Code
  | .lifetime code | .other code => code
  | .type ty => ty.code

def GenericArg.codes : List GenericArg → List Code
  | [] => []
  | arg :: rest => arg.code :: GenericArg.codes rest

end

/-- Where a path's first token stands. -/
def pathStart (leading : Option Position) (segments : List Segment) : Position :=
  leading.getD ((segments.head?.map (·.name.pos)).getD Position.start)

/-- Where a type's first token stands. -/
def Ty.pos : Ty → Position
  | .path (some (pos, _)) _ _ => pos
  | .path none leading segments => pathStart leading segments
  | .paren pos _ | .tuple pos _ _ | .reference pos _ _ _ | .pointer pos _ _ | .bracketed pos _ _
  | .never pos | .infer pos | .function pos _ _ _ | .bounded pos _ _ | .sum pos _ _ _
  | .ranked pos _ _ | .boundGroup pos _ | .call pos _ _ _ => pos

/-- A path on its own, such as the name of an adapter or of an attribute. -/
structure Path where
  leading : Option Position
  segments : List Segment
  deriving Repr

namespace Path

def code (path : Path) : Code :=
  (if path.leading.isSome then [.plain "::"] else []) ++
    Code.separated (.plain "::") (Segment.codes path.segments)

def pos (path : Path) : Position := pathStart path.leading path.segments

def ofName (name : Name) : Path := ⟨none, [.mk name .none]⟩

/-- Whether the path is the bare name `name`. -/
def isName (path : Path) (name : String) : Bool :=
  match path.leading, path.segments with
  | none, [.mk first .none] => first.text = name
  | _, _ => false

/-- Whether no segment has arguments. -/
def isPlain (path : Path) : Bool := path.segments.all (·.args.isNone)

end Path

end Preferences.Syntax
