import Preferences.Proofs.Stages
import Preferences.Proofs.Vocabulary

/-! Compilation as a whole: what a compiled declaration went through, that a declaration compiles
or is refused with diagnostics and nothing in between, and that both modes give the same result up
to the first diagnostic. -/

namespace Preferences.Schema

open Preferences.Source Preferences.Syntax Report

/-! ### Compiled declarations -/

theorem compile_eq_ok_iff {mode : Mode} {args item : List Tree} {compiled : Compiled} :
    compile mode args item = .ok compiled ↔ Gives (compiling args item) mode compiled := by
  unfold compile Gives
  obtain ⟨value, reported⟩ := compiling args item mode
  cases value with
  | none => simp
  | some found => cases reported <;> simp

/-- A run with a diagnostic is refused with all that it reported. -/
theorem compile_eq_error {mode : Mode} {args item : List Tree} {d : Diagnostic}
    {ds : List Diagnostic} (h : (compiling args item mode).reported = d :: ds) :
    compile mode args item = .error (d :: ds) := by
  unfold compile
  dsimp only
  split <;> simp [h]

/-- The stages behind a compiled declaration, none of which reported anything. -/
theorem compile_stages {mode : Mode} {args item : List Tree} {compiled : Compiled}
    (h : compile mode args item = .ok compiled) :
    ∃ parsed, Gives (parse args item) mode parsed ∧
      Gives (resolving parsed Stage.all) mode compiled.schema ∧
      Gives (accessors compiled.schema) mode compiled.methods := by
  have hgives := compile_eq_ok_iff.1 h
  simp only [compiling, gives_bind, gives_clean, gives_pure] at hgives
  obtain ⟨schema, hresolved, methods, hmethods, rfl⟩ := hgives
  obtain ⟨parsed, hparsed, hbound⟩ := gives_bind.1 hresolved
  exact ⟨parsed, hparsed, hbound, hmethods⟩

/-- The accesses, keys and storages of a schema's members, and the storages of its defaults. -/
def outline (compiled : Compiled) :
    List (Access × Option String × Option Storage) × List Storage :=
  (compiled.schema.members.map fun member =>
    (member.access, member.key.name?, member.valueType.map Storage.ofType),
    compiled.schema.defaults.map fun const => Storage.ofType const.ty)

/-- A declaration whose outline is known compiles. -/
theorem compile_of_outline {mode : Mode} {args item : List Tree}
    {found : List (Access × Option String × Option Storage) × List Storage}
    (h : (compile mode args item).toOption.map outline = some found) :
    ∃ compiled, compile mode args item = .ok compiled ∧ outline compiled = found := by
  cases hcompile : compile mode args item with
  | ok compiled =>
    rw [hcompile] at h
    exact ⟨compiled, rfl, Option.some.inj h⟩
  | error ds =>
    rw [hcompile] at h
    cases h

/-! ### All or nothing -/

/-- The texts of failures that stand one after another, as the code between their braces. Any other
code has none. -/
def failureTexts? : Code → Option (List Code)
  | [] => some []
  | .word "::" false :: .word "core" false :: .word "::" false :: .word "compile_error" false ::
      .word "!" false :: .group .brace text :: rest => (failureTexts? rest).map (text :: ·)
  | _ => none

theorem failureTexts?_failure_append (text : String) (rest : Code) :
    failureTexts? (Diagnostic.failure text ++ rest) =
      (failureTexts? rest).map ([.plain (Text.literal text)] :: ·) := rfl

theorem failureTexts?_flatMap_failure (texts : List String) :
    failureTexts? (texts.flatMap Diagnostic.failure) =
      some (texts.map fun text => [.plain (Text.literal text)]) := by
  induction texts with
  | nil => rfl
  | cons text rest ih =>
    rw [List.flatMap_cons, failureTexts?_failure_append, ih, List.map_cons, Option.map_some]

/-- A declaration compiles if and only if nothing is reported about it. Otherwise all that was
reported is there, and that is something. So it expands to its trait, the struct and their
implementations, where no `compile_error` stands that the declaration does not have itself, or to
nothing but failures: for each diagnostic in turn one with its message and then one with each of its
notes. -/
theorem expand_all_or_nothing (args item : List Tree) :
    (∀ mode, (∃ compiled, compile mode args item = .ok compiled) ↔
      (compiling args item mode).reported = []) ∧
    (∀ mode ds, compile mode args item = .error ds →
      ds = (compiling args item mode).reported ∧ ds ≠ []) ∧
    ((∃ compiled, compile .failFast args item = .ok compiled ∧
        expand args item = compiled.schema.decl.code ++ structCode compiled.schema ++
          inherentCode compiled.schema ++
          implementationCode compiled.schema compiled.methods ∧
        ("compile_error" ∈ Code.vocabulary (structCode compiled.schema ++
            inherentCode compiled.schema ++
            implementationCode compiled.schema compiled.methods) →
          "compile_error" ∈ Code.vocabulary compiled.repeated)) ∨
      ∃ ds, ds ≠ [] ∧ compile .failFast args item = .error ds ∧
        failureTexts? (expand args item) = some (ds.flatMap fun d =>
          [.plain (Text.literal d.problem.message)] ::
            d.notes.map fun note => [.plain (Text.literal note.2)])) := by
  have hlawful := compiling_lawful args item
  have herror : ∀ mode ds, compile mode args item = .error ds →
      ds = (compiling args item mode).reported ∧ ds ≠ [] := by
    intro mode ds h
    cases hreported : (compiling args item mode).reported with
    | nil =>
      obtain ⟨compiled, hgives⟩ := hlawful.gives_of_reported_nil hreported
      rw [compile_eq_ok_iff.2 hgives] at h
      cases h
    | cons d rest =>
      rw [compile_eq_error hreported] at h
      cases h
      exact ⟨rfl, List.cons_ne_nil d rest⟩
  refine ⟨fun mode => ⟨?_, fun h => ?_⟩, herror, ?_⟩
  · rintro ⟨compiled, h⟩
    exact congrArg Outcome.reported (compile_eq_ok_iff.1 h)
  · obtain ⟨compiled, hgives⟩ := hlawful.gives_of_reported_nil h
    exact ⟨compiled, compile_eq_ok_iff.2 hgives⟩
  · cases h : compile .failFast args item with
    | ok compiled =>
      exact .inl ⟨compiled, rfl, by simp [expand, h, Compiled.code], mem_vocabulary_generated⟩
    | error ds =>
      refine .inr ⟨ds, (herror .failFast ds h).2, rfl, ?_⟩
      simp [expand, h, Diagnostic.failures, failureTexts?_flatMap_failure, Diagnostic.texts,
        List.map_flatMap, Function.comp_def]

/-! ### The two modes -/

/-- Both modes compile the same declarations, to the same result. What a fail-fast run reports of
any other one, which is a single diagnostic, comes first among all that there is to report. -/
theorem compile_modes_agree (args item : List Tree) :
    (∃ compiled, compile .failFast args item = .ok compiled ∧
      compile .collectAll args item = .ok compiled) ∨
    ∃ d rest, compile .failFast args item = .error [d] ∧
      compile .collectAll args item = .error (d :: rest) := by
  have hlawful := compiling_lawful args item
  cases hreported : (compiling args item .collectAll).reported with
  | nil =>
    obtain ⟨compiled, hgives⟩ := hlawful.gives_of_reported_nil hreported
    exact .inl ⟨compiled, compile_eq_ok_iff.2 (hlawful.gives_iff.2 hgives),
      compile_eq_ok_iff.2 hgives⟩
  | cons d rest =>
    have hfirst : (compiling args item .failFast).reported = [d] := by
      rw [hlawful.failFast, Outcome.upToFirst, hreported]
    exact .inr ⟨d, rest, compile_eq_error hfirst, compile_eq_error hreported⟩

end Preferences.Schema
