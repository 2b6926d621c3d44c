import Preferences.Proofs.Report
import Preferences.Schema.Compile

/-! The stages of the compiler as reports: the passes over a schema are computations that go
through its members in turn, and every stage is lawful. -/

namespace Preferences.Schema

open Preferences.Source Preferences.Syntax Report

/-! ### Passes -/

/-- A pass as a computation. -/
def Pass.toReport (pass : Mode → Pass α) : Report α := fun mode =>
  ⟨if (pass mode).aborted then none else some (pass mode).value, (pass mode).reported⟩

/-- An element as a step leaves it, with the step's diagnostic reported. -/
def noted (step : α → α × Option Diagnostic) (a : α) : Report α :=
  match step a with
  | (b, none) => done b
  | (b, some d) => andThen (report d) fun _ => done b

theorem gives_noted {step : α → α × Option Diagnostic} {mode : Mode} {a b : α} :
    Gives (noted step a) mode b ↔ step a = (b, none) := by
  unfold noted
  split
  · rename_i hstep
    simp [gives_done, hstep]
  · rename_i hstep
    simp [gives_andThen, not_gives_report, hstep]

theorem toReport_overList (step : α → α × Option Diagnostic) (as : List α) :
    Pass.toReport (Pass.overList step · as) = each (noted step) as := by
  funext mode
  induction as with
  | nil => rfl
  | cons a as ih =>
    have hrest : each (noted step) as mode = Pass.toReport (Pass.overList step · as) mode :=
      ih.symm
    simp only [Pass.toReport] at hrest
    rcases hstep : step a with ⟨b, note⟩
    cases note with
    | none =>
      simp [Pass.toReport, Pass.overList, each, noted, andThen, done, hstep, hrest]
      split <;> simp
    | some d =>
      cases mode with
      | failFast => simp [Pass.toReport, Pass.overList, each, noted, andThen, report, hstep]
      | collectAll =>
        simp [Pass.toReport, Pass.overList, each, noted, andThen, done, report, hstep, hrest]
        split <;> simp

/-- A pass that collects everything steps through all elements and reports all their diagnostics. -/
theorem overList_collectAll (step : α → α × Option Diagnostic) (as : List α) :
    Pass.overList step .collectAll as =
      ⟨as.map fun a => (step a).1, as.filterMap fun a => (step a).2, false⟩ := by
  induction as with
  | nil => rfl
  | cons a as ih =>
    rcases hstep : step a with ⟨b, note⟩
    cases note <;> simp [Pass.overList, hstep, ih]

theorem toReport_map (f : α → β) (pass : Mode → Pass α) :
    Pass.toReport (fun mode => (pass mode).map f) =
      andThen (Pass.toReport pass) fun a => done (f a) := by
  funext mode
  simp only [Pass.toReport, Pass.map, andThen, done]
  by_cases haborted : (pass mode).aborted = true <;> simp [haborted]

/-! ### Stages -/

/-- Stages that resolve a schema, as one computation. -/
def resolving (schema : Schema) (stages : List Stage) : Report Schema := fun mode =>
  let resolution := resolve mode schema stages
  ⟨if resolution.aborted.isSome then none else some resolution.schema, resolution.reported⟩

theorem resolving_nil (schema : Schema) : resolving schema [] = done schema := rfl

theorem resolving_cons (schema : Schema) (stage : Stage) (rest : List Stage) :
    resolving schema (stage :: rest) =
      andThen (Pass.toReport (stage.run · schema)) fun next => resolving next rest := by
  funext mode
  simp only [resolving, resolve, andThen, Pass.toReport]
  by_cases haborted : (stage.run mode schema).aborted = true <;> simp [haborted]

/-- The members of a schema after a step on each of them. -/
def stepMembers (step : Member → Member × Option Diagnostic) (schema : Schema) : Report Schema :=
  andThen (each (noted step) schema.members) fun members => done { schema with members }

theorem gives_stepMembers {step : Member → Member × Option Diagnostic} {schema next : Schema}
    {mode : Mode} : Gives (stepMembers step schema) mode next ↔
      ∃ members, List.Forall₂ (fun member after => step member = (after, none)) schema.members
        members ∧ { schema with members } = next := by
  simp only [stepMembers, gives_andThen, gives_each, gives_noted, gives_done]

theorem toReport_members (schema : Schema) :
    Pass.toReport (Stage.members.run · schema) =
      stepMembers (bindMember schema.adapters) schema := by
  rw [stepMembers, ← toReport_overList, ← toReport_map]
  rfl

theorem toReport_defaults (schema : Schema) :
    Pass.toReport (Stage.defaults.run · schema) =
      stepMembers (bindDefault schema.defaults) schema := by
  rw [stepMembers, ← toReport_overList, ← toReport_map]
  rfl

/-- The conflicts of a schema's members, reported in turn. -/
theorem toReport_keys (schema : Schema) :
    Pass.toReport (Stage.keys.run · schema) =
      andThen (each (noted fun d => (d, some d)) (conflictsAfter [] schema.members)) fun _ =>
        done schema := by
  rw [← toReport_overList, ← toReport_map]
  rfl

/-- The stage that checks keys changes nothing, and finds nothing where no members conflict. -/
theorem gives_keys {schema next : Schema} {mode : Mode} :
    Gives (Pass.toReport (Stage.keys.run · schema)) mode next ↔
      conflictsAfter [] schema.members = [] ∧ schema = next := by
  simp only [toReport_keys, gives_andThen, gives_each, gives_noted, gives_done]
  cases conflictsAfter [] schema.members with
  | nil => simp
  | cons d ds => simp [List.forall₂_cons_left_iff]

/-- All stages together: the members as each of their two steps leaves them, without a conflict, and
nothing else changed. -/
theorem gives_resolving {mode : Mode} {parsed schema : Schema} :
    Gives (resolving parsed Stage.all) mode schema ↔ ∃ stored members,
      List.Forall₂ (fun member after => bindMember parsed.adapters member = (after, none))
        parsed.members stored ∧
      List.Forall₂ (fun member after => bindDefault parsed.defaults member = (after, none))
        stored members ∧
      conflictsAfter [] members = [] ∧ { parsed with members } = schema := by
  simp only [Stage.all, resolving_cons, resolving_nil, gives_andThen, gives_done,
    toReport_members, toReport_defaults, gives_stepMembers, gives_keys]
  constructor
  · rintro ⟨_, ⟨stored, hstored, rfl⟩, _, ⟨members, hmembers, rfl⟩, _, ⟨hkeys, rfl⟩, rfl⟩
    exact ⟨stored, members, hstored, hmembers, hkeys, rfl⟩
  · rintro ⟨stored, members, hstored, hmembers, hkeys, rfl⟩
    exact ⟨_, ⟨stored, hstored, rfl⟩, _, ⟨members, hmembers, rfl⟩, _, ⟨hkeys, rfl⟩, rfl⟩

/-! ### Every stage is lawful -/

theorem noted_lawful (step : α → α × Option Diagnostic) (a : α) : Lawful (noted step a) := by
  unfold noted
  split
  · exact .done _
  · exact (Lawful.report _).andThen fun _ => .done _

theorem stepMembers_lawful (step : Member → Member × Option Diagnostic) (schema : Schema) :
    Lawful (stepMembers step schema) :=
  (Lawful.each (noted_lawful step) _).andThen fun _ => .done _

theorem stage_lawful (schema : Schema) (stage : Stage) :
    Lawful (Pass.toReport (stage.run · schema)) := by
  cases stage with
  | members => exact toReport_members schema ▸ stepMembers_lawful _ _
  | defaults => exact toReport_defaults schema ▸ stepMembers_lawful _ _
  | keys =>
    rw [toReport_keys]
    exact (Lawful.each (noted_lawful _) _).andThen fun _ => .done _

theorem resolving_lawful (schema : Schema) (stages : List Stage) :
    Lawful (resolving schema stages) := by
  induction stages generalizing schema with
  | nil => exact .done schema
  | cons stage rest ih =>
    rw [resolving_cons]
    exact (stage_lawful schema stage).andThen fun next => ih next

theorem checkProvided_lawful (sig : Signature) (access adapters : List Attribute) :
    Lawful (checkProvided sig access adapters) := by
  unfold checkProvided
  cases access with
  | nil =>
    cases adapters with
    | nil => exact .pure ()
    | cons _ _ => exact .report _
  | cons _ _ =>
    refine (Lawful.report _).bind fun _ => ?_
    cases adapters with
    | nil => exact .pure ()
    | cons _ _ => exact .report _

theorem declaredBy_lawful (item : TraitItem) : Lawful (declaredBy item) := by
  unfold declaredBy
  split
  · exact (Lawful.check _).bind fun _ => .pure _
  · dsimp only
    split
    · exact (checkProvided_lawful _ _ _).bind fun _ => .pure _
    · exact (Lawful.check _).bind fun _ => .pure _
  · exact .pure _

theorem bindAdapters_lawful (bound : List AdapterBinding) (attrs : List Attribute) :
    Lawful (bindAdapters bound attrs) := by
  induction attrs generalizing bound with
  | nil => exact .pure bound
  | cons attr rest ih =>
    unfold bindAdapters
    refine (Lawful.check _).bind fun found => ?_
    cases found with
    | none => exact ih bound
    | some binding =>
      dsimp only
      split
      · exact (Lawful.report _).bind fun _ => ih bound
      · exact ih (bound ++ [binding])

theorem schemaIn_lawful (options : Options) (decl : TraitDecl) (namespaceName : TextLiteral) :
    Lawful (schemaIn options decl namespaceName) :=
  (bindAdapters_lawful _ _).bind fun _ =>
    (Lawful.each declaredBy_lawful _).bind fun _ => .pure _

theorem ofTrait_lawful (options : Options) (decl : TraitDecl) : Lawful (ofTrait options decl) := by
  unfold ofTrait
  split
  · exact .fatal _
  · dsimp only
    split
    · exact (Lawful.report _).bind fun _ => schemaIn_lawful options decl _
    · exact schemaIn_lawful options decl _

/-- A syntax error is one diagnostic. -/
theorem orFatal_lawful (result : Except SyntaxError α) : Lawful (orFatal result) := by
  unfold orFatal
  split
  · exact .done _
  · exact .fatal _

theorem parse_lawful (args item : List Tree) : Lawful (parse args item) :=
  (orFatal_lawful _).bind fun options =>
    (orFatal_lawful _).bind fun decl => ofTrait_lawful options decl

theorem accessors_lawful (schema : Schema) : Lawful (accessors schema) :=
  (Lawful.each (fun _ => Lawful.check _) _).bind fun _ => .pure _

theorem resolved_lawful (args item : List Tree) : Lawful (resolved args item) :=
  (parse_lawful args item).bind fun schema => resolving_lawful schema Stage.all

theorem compiling_lawful (args item : List Tree) : Lawful (compiling args item) :=
  (resolved_lawful args item).clean.bind fun schema =>
    (accessors_lawful schema).bind fun _ => .pure _

end Preferences.Schema
