import Preferences.Schema.Accessor
import Preferences.Schema.Binding
import Preferences.Schema.Declaration

/-! The compiler of preference traits: all stages, and the code they make. -/

namespace Preferences.Schema

open Preferences.Source Preferences.Syntax Report

/-! ### Generated code -/

/-- A doc comment of the generated code. -/
def docCode (literal : String) : Code :=
  [.plain "#", .brackets (Code.words ["doc", "=", literal])]

/-- A public function of the generated type. -/
def functionCode (visibility : Code) (name : String) (params output body : List String) : Code :=
  visibility ++ Code.words ["fn", name] ++ .parens (Code.words params) ::
    Code.words ("->" :: output) ++ [.braces (Code.words body)]

/-- The struct that wraps a gateway. -/
def structCode (schema : Schema) : Code :=
  docCode (Text.literal
      (" Gateway-backed implementation of [`" ++ schema.decl.name.text ++ "`].")) ++
    [.plain "#", .brackets [.plain "derive", .parens (Code.words ["Debug", ",", "Clone"])]] ++
    schema.decl.visibility ++ Code.words ["struct", schema.implName, "<", "G", ">"] ++
    [.braces (Code.words ["gateway", ":", "G", ","])]

/-- The functions of the struct that belong to no preference. -/
def inherentCode (schema : Schema) : Code :=
  let visibility := schema.decl.visibility
  Code.words ["impl", "<", "G", ">", schema.implName, "<", "G", ">"] ++
    [.braces (
      docCode "r\" Storage namespace declared on the preference trait.\"" ++
      visibility ++
      Code.words ["const", "NAMESPACE", ":", "&", "'static", "str", "="] ++
      [schema.namespaceName.piece, .plain ";"] ++
      docCode "r\" Wraps a gateway already scoped to [`Self::NAMESPACE`].\"" ++
      visibility ++ Code.words ["fn", "new"] ++
      .parens (Code.words ["gateway", ":", "G"]) :: Code.words ["->", "Self"] ++
      [.braces [.plain "Self", .braces [.plain "gateway"]]] ++
      functionCode visibility "gateway" ["&", "self"] ["&", "G"] ["&", "self", ".", "gateway"] ++
      functionCode visibility "into_gateway" ["self"] ["G"] ["self", ".", "gateway"])]

/-- The trait's implementation: a method for each accessor. -/
def implementationCode (schema : Schema) (methods : List Accessor) : Code :=
  Code.words ["impl", "<", "G", ":"] ++ schema.runtime.code ++
    Code.words ["::", "Gateway", ">"] ++ [schema.decl.name.piece] ++
    Code.words ["for", schema.implName, "<", "G", ">"] ++
    [.braces (methods.flatMap (Accessor.code schema))]

/-- A schema with the methods generated for it. -/
structure Compiled where
  schema : Schema
  methods : List Accessor
  deriving Repr

/-- The trait, the struct and their implementations. -/
def Compiled.code (compiled : Compiled) : Code :=
  compiled.schema.decl.code ++ structCode compiled.schema ++ inherentCode compiled.schema ++
    implementationCode compiled.schema compiled.methods

/-! ### The whole pass -/

/-- Parses a declaration and resolves it. -/
def resolved (args item : List Tree) : Report Schema := do
  let schema ← parse args item
  fun mode =>
    let resolution := resolve mode schema Stage.all
    ⟨if resolution.aborted.isSome then none else some resolution.schema, resolution.reported⟩

/-- All stages. Nothing is generated from a schema with a problem. -/
def compiling (args item : List Tree) : Report Compiled := do
  let schema ← clean (resolved args item)
  return ⟨schema, ← accessors schema⟩

/-- The compiled declaration. Any diagnostic discards it. -/
def compile (mode : Mode) (args item : List Tree) : Except (List Diagnostic) Compiled :=
  let outcome := compiling args item mode
  match outcome.value with
  | some compiled =>
    if outcome.reported.isEmpty then .ok compiled else .error outcome.reported
  | none => .error outcome.reported

/-- What a declaration expands to: the generated code, or the failures with its diagnostics. -/
def expand (args item : List Tree) : Code :=
  match compile .failFast args item with
  | .ok compiled => compiled.code
  | .error ds => Diagnostic.failures ds

end Preferences.Schema
