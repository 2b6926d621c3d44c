import Preferences.Proofs.Bodies
import Preferences.Proofs.Documented
import Preferences.Proofs.Implementation

/-! Methods of a compiled declaration, called by their code. The body of each is read as the call
that it was generated from, and runs as this call does. -/

namespace Preferences.Schema

open Preferences.Source Preferences.Store Preferences.Syntax

/-- What names stand for, as the constants and adapters of a declaration. -/
def Names.meaning (names : Names α) (schema : Schema) : Meaning α where
  constant const := names.constant const.name.text
  adapter bound := names.adapter
    (adapterPath schema.runtime.code bound.adapter.code bound.valueType.code)

/-- The body of a method is read as the call that it was generated from. -/
theorem body_read (schema : Schema) (method : Accessor) :
    (bodyOf? (method.code schema)).bind (BodyCall.ofBody? schema) =
      some (method.call.inBody schema) := by
  have hbody : bodyOf? (method.code schema) = some (method.call.code schema) := by
    simp [bodyOf?, Accessor.code]
  rw [hbody, Option.bind_some]
  exact BodyCall.ofBody?_eq_some.2 (method.call.code_written schema)

/-- The token of a key stands for the key, where its parameter is the only one. -/
theorem keyOf?_token {key : Key} (hreads : ∀ lit, key = .fixed lit → lit.ReadsBack)
    (passed : String) : keyOf? key.names passed key.token = some (key.resolve passed) := by
  cases key with
  | fixed lit =>
    obtain ⟨read, hread, hlit⟩ := Option.map_eq_some_iff.1 (hreads lit rfl)
    have hvalue := congrArg TextLiteral.value hlit
    simpa [keyOf?, Key.names, Key.token, Key.resolve, Key.name?, TextLiteral.ofSpelling?, hread]
      using hvalue
  | parameter name => simp [keyOf?, Key.names, Key.token, Key.resolve, Key.name?]

theorem setterKey?_token {lit : TextLiteral} (hreads : lit.ReadsBack) (passed value : String) :
    setterKey? ((Key.fixed lit).names ++ [value]) passed value (Key.fixed lit).token =
      some lit.value := by
  have hkey : keyOf? [] passed (Key.fixed lit).token = some lit.value :=
    keyOf?_token (fun _ h => Key.fixed.inj h ▸ hreads) passed
  simp [setterKey?, Key.names, hkey]

/-- The parameters of a method are those that its scope offers. -/
theorem paramNames_of_scope {access : Access} {sig : Signature} {names : List String}
    (h : Scope access sig ("self" :: names)) : paramNames sig = names := by
  cases h with
  | alone hparams => simp [paramNames, hparams]
  | param hparams hname =>
    cases plainName?_eq_some.1 hname
    simp [paramNames, hparams]

/-- A call that a member delegates to runs as its body spells it. -/
theorem run_inBody {schema : Schema} {member : Member} {call : Call}
    (hreads : ∀ lit, member.key = .fixed lit → lit.ReadsBack)
    (h : Delegates schema.defaults member call) (names : Names α) (permission : Permission)
    (passed : Passed α) (store : Store) :
    (call.inBody schema).run names permission passed store call.names =
      call.run (names.meaning schema) permission passed store := by
  have hkey := keyOf?_token hreads passed.key
  cases h with
  | read watch htyped =>
    rw [htyped.key] at hkey
    simp only [Call.inBody, BodyCall.run, Call.names, hkey]
    rfl
  | write sync htyped =>
    simp only [Call.inBody, BodyCall.run, Call.names, setterKey?_token (hreads _ htyped.key)]
    rfl
  | adapterRead watch htyped =>
    rw [htyped.key] at hkey
    simp only [Call.inBody, BodyCall.run, Call.names, hkey]
    rfl
  | adapterWrite htyped =>
    simp only [Call.inBody, BodyCall.run, Call.names, setterKey?_token (hreads _ htyped.key)]
    rfl
  | contains =>
    simp only [Call.inBody, BodyCall.run, Call.names, hkey]
    rfl
  | remove =>
    simp only [Call.inBody, BodyCall.run, Call.names, hkey]
    rfl
  | clear => rfl

/-- A method of a compiled declaration runs, by its code, as the call that it was generated from. -/
theorem run_method {mode : Mode} {args item : List Tree} {compiled : Compiled}
    (h : compile mode args item = .ok compiled) {place : Nat} {method : Accessor}
    (hmethod : compiled.methods[place]? = some method) (names : Names α) (permission : Permission)
    (passed : Passed α) (store : Store) :
    method.run names permission passed store compiled.schema =
      method.call.run (names.meaning compiled.schema) permission passed store := by
  obtain ⟨decl, -, -, hdeclares⟩ := compile_declares h
  rcases getElem?_of_forall₂ (compile_generated h).1 place with
    ⟨-, hnone⟩ | ⟨member, found, hmember, hfound, hgenerated⟩
  · rw [hmethod] at hnone
    cases hnone
  · obtain rfl := Option.some.inj (hmethod.symm.trans hfound)
    have hmem := List.mem_of_getElem? hmember
    obtain ⟨required, -, hdeclared⟩ := exists_mem_of_forall₂ hdeclares hmem
    obtain ⟨_, _, _, -, -, -, -, -, -, hsig⟩ := declares_ok hdeclared
    have hscope := scope_of_delegates hdeclared hgenerated.call
    rw [← hsig, ← hgenerated.signature] at hscope
    rw [Accessor.run, body_read, paramNames_of_scope hscope]
    exact run_inBody (fun lit => compile_readsBack h hmem) hgenerated.call names permission
      passed store

end Preferences.Schema
