import Preferences.Proofs.Adapters
import Preferences.Proofs.Conflicts

/-! Independence of the stages that resolve a schema. A stage reads of the members what was declared
of them, and sets fields that no stage reads. So it reports the same and sets the same wherever it
stands among the others, and running it again changes nothing more. -/

namespace Preferences.Schema

open Preferences.Source Preferences.Syntax

/-! ### One stage -/

/-- What a stage does to a member, and what it reports of it alone. -/
def Stage.step (schema : Schema) : Stage → Member → Member × Option Diagnostic
  | members => bindMember schema.adapters
  | defaults => bindDefault schema.defaults
  | keys => fun member => (member, none)

/-- What a stage reports of a schema. -/
def Stage.notes (schema : Schema) : Stage → List Diagnostic
  | keys => conflictsAfter [] schema.members
  | stage => schema.members.filterMap fun member => (stage.step schema member).2

theorem run_collectAll (schema : Schema) (stage : Stage) :
    stage.run .collectAll schema =
      ⟨{ schema with members := schema.members.map fun member => (stage.step schema member).1 },
        stage.notes schema, false⟩ := by
  cases stage <;> simp [Stage.run, Stage.step, Stage.notes, overList_collectAll, Pass.map]

section Members

variable (adapters : List AdapterBinding) (defaults : List DefaultConst) (member : Member)

theorem bindMember_default (default : Option Nat) :
    bindMember adapters { member with default } =
      ({ (bindMember adapters member).1 with default }, (bindMember adapters member).2) := by
  obtain htype | ⟨ty, htype⟩ := Option.eq_none_or_eq_some member.valueType
  · have hsame : ({ member with default } : Member).valueType = none := htype
    rw [bindMember_untyped htype, bindMember_untyped hsame]
  · have hsame : ({ member with default } : Member).valueType = some ty := htype
    have hread : adapterFor adapters { member with default } (Storage.ofType ty) ty =
        adapterFor adapters member (Storage.ofType ty) ty := rfl
    rw [bindMember_typed htype, bindMember_typed hsame, hread]
    cases adapterFor adapters member (Storage.ofType ty) ty <;> rfl

theorem bindMember_twice :
    bindMember adapters (bindMember adapters member).1 = bindMember adapters member := by
  obtain htype | ⟨ty, htype⟩ := Option.eq_none_or_eq_some member.valueType
  · rw [bindMember_untyped htype, bindMember_untyped htype]
  · have hsame (adapter : Option AdapterBinding) :
        ({ member with storage := some (Storage.ofType ty), adapter } : Member).valueType =
          some ty := htype
    have hread (adapter : Option AdapterBinding) :
        adapterFor adapters { member with storage := some (Storage.ofType ty), adapter }
          (Storage.ofType ty) ty = adapterFor adapters member (Storage.ofType ty) ty := rfl
    rw [bindMember_typed htype]
    cases hadapter : adapterFor adapters member (Storage.ofType ty) ty with
    | ok adapter =>
      dsimp only
      rw [bindMember_typed (hsame adapter), hread, hadapter]
    | error d =>
      dsimp only
      rw [bindMember_typed (hsame member.adapter), hread, hadapter]

theorem bindDefault_stored (storage : Option Storage) (adapter : Option AdapterBinding) :
    bindDefault defaults { member with storage, adapter } =
      ({ (bindDefault defaults member).1 with storage, adapter },
        (bindDefault defaults member).2) := by
  have hread : resolveDefault { member with storage, adapter } defaults =
      resolveDefault member defaults := rfl
  unfold bindDefault
  dsimp only
  rw [hread]
  cases member.access.needsDefault with
  | false => rfl
  | true => cases resolveDefault member defaults <;> rfl

theorem bindDefault_twice :
    bindDefault defaults (bindDefault defaults member).1 = bindDefault defaults member := by
  have hread (default : Option Nat) : resolveDefault { member with default } defaults =
      resolveDefault member defaults := rfl
  cases hneeds : member.access.needsDefault with
  | false => simp [bindDefault, hneeds]
  | true =>
    cases hdefault : resolveDefault member defaults with
    | ok place => simp [bindDefault, hneeds, hdefault, hread]
    | error d => simp [bindDefault, hneeds, hdefault]

end Members

/-! ### What was declared of a member -/

/-- A member as it was declared, with nothing bound to it. -/
def Member.unbound (member : Member) : Member :=
  { member with storage := none, adapter := none, default := none }

theorem bindMember_fst (adapters : List AdapterBinding) (member : Member) :
    ∃ storage adapter, (bindMember adapters member).1 = { member with storage, adapter } := by
  obtain htype | ⟨ty, htype⟩ := Option.eq_none_or_eq_some member.valueType
  · exact ⟨_, _, by rw [bindMember_untyped htype]⟩
  · rw [bindMember_typed htype]
    cases adapterFor adapters member (Storage.ofType ty) ty with
    | ok adapter => exact ⟨_, _, rfl⟩
    | error d => exact ⟨_, _, rfl⟩

theorem bindDefault_set (defaults : List DefaultConst) (member : Member) :
    ∃ default, (bindDefault defaults member).1 = { member with default } := by
  unfold bindDefault
  cases member.access.needsDefault with
  | false => exact ⟨_, rfl⟩
  | true => cases resolveDefault member defaults <;> exact ⟨_, rfl⟩

theorem step_unbound (schema : Schema) (stage : Stage) (member : Member) :
    (stage.step schema member).1.unbound = member.unbound := by
  cases stage with
  | members =>
    obtain ⟨storage, adapter, hset⟩ := bindMember_fst schema.adapters member
    exact (congrArg Member.unbound hset :)
  | defaults =>
    obtain ⟨default, hset⟩ := bindDefault_set schema.defaults member
    exact (congrArg Member.unbound hset :)
  | keys => rfl

/-- What a stage reports of a member is the same behind every stage. -/
theorem step_snd (schema : Schema) (stage other : Stage) (member : Member) :
    (stage.step schema (other.step schema member).1).2 = (stage.step schema member).2 := by
  obtain ⟨storage, adapter, hstored⟩ := bindMember_fst schema.adapters member
  obtain ⟨default, hdefault⟩ := bindDefault_set schema.defaults member
  cases stage with
  | members =>
    cases other with
    | members => exact congrArg Prod.snd (bindMember_twice schema.adapters member)
    | defaults => simp only [Stage.step, hdefault, bindMember_default]
    | keys => rfl
  | defaults =>
    cases other with
    | members => simp only [Stage.step, hstored, bindDefault_stored]
    | defaults => exact congrArg Prod.snd (bindDefault_twice schema.defaults member)
    | keys => rfl
  | keys => rfl

/-! ### Conflicts -/

section Conflicts

variable {f : Member → Member} (hf : ∀ member, (f member).unbound = member.unbound)

include hf

theorem typedKey?_unbound (member : Member) : (f member).typedKey? = member.typedKey? :=
  (congrArg Member.typedKey? (hf member) :)

theorem signature_unbound (member : Member) : (f member).signature = member.signature :=
  (congrArg Member.signature (hf member) :)

theorem findSome?_keyedAs?_map (key : String) (members : List Member) :
    (members.map f).findSome? (keyedAs? key) =
      (members.findSome? (keyedAs? key)).map fun found => (f found.1, found.2) := by
  induction members with
  | nil => rfl
  | cons member rest ih =>
    have hmember : keyedAs? key (f member) =
        (keyedAs? key member).map fun found => (f found.1, found.2) := by
      unfold keyedAs?
      rw [typedKey?_unbound hf]
      cases member.typedKey? with
      | none => rfl
      | some entry => by_cases heq : entry.1 = key <;> simp [heq]
    rw [List.map_cons, List.findSome?_cons, List.findSome?_cons, hmember, ih]
    cases keyedAs? key member <;> rfl

theorem conflict?_map (before : List Member) (member : Member) :
    conflict? (before.map f) (f member) = conflict? before member := by
  show ((f member).typedKey?.bind fun entry =>
      ((before.map f).findSome? (keyedAs? entry.1)).bind _) =
    member.typedKey?.bind fun entry => (before.findSome? (keyedAs? entry.1)).bind _
  rw [typedKey?_unbound hf]
  cases member.typedKey? with
  | none => rfl
  | some entry =>
    rw [Option.bind_some, Option.bind_some, findSome?_keyedAs?_map hf]
    cases before.findSome? (keyedAs? entry.1) with
    | none => rfl
    | some found => simp [Member.pos, Member.name, signature_unbound hf]

theorem conflictsAfter_map (members : List Member) :
    conflictsAfter [] (members.map f) = conflictsAfter [] members := by
  simp only [conflictsAfter_eq, List.nil_append, List.filterMap_map, Function.comp_def,
    conflict?_map hf]

end Conflicts

theorem notes_step (schema : Schema) (stage other : Stage) :
    stage.notes { schema with
      members := schema.members.map fun member => (other.step schema member).1 } =
      stage.notes schema := by
  have hsnd (member : Member) := step_snd schema stage other member
  cases stage with
  | members =>
    simp only [Stage.notes, List.filterMap_map]
    exact congrArg (List.filterMap · schema.members) (funext hsnd)
  | defaults =>
    simp only [Stage.notes, List.filterMap_map]
    exact congrArg (List.filterMap · schema.members) (funext hsnd)
  | keys => exact conflictsAfter_map (step_unbound schema other) schema.members

/-! ### Stages in turn -/

/-- A member as stages leave it, whatever their order. -/
def Member.after (schema : Schema) (stages : List Stage) (member : Member) : Member :=
  let stored := if .members ∈ stages then (bindMember schema.adapters member).1 else member
  let settled := if .defaults ∈ stages then (bindDefault schema.defaults member).1 else member
  { member with
    storage := stored.storage, adapter := stored.adapter, default := settled.default }

theorem Member.after_congr {schema : Schema} {stages others : List Stage}
    (h : ∀ stage, stage ∈ others ↔ stage ∈ stages) (member : Member) :
    member.after schema others = member.after schema stages := by
  simp only [Member.after, h]

/-- One stage in front of others. If it is also among them, its second run changes nothing. -/
theorem after_step (schema : Schema) (stage : Stage) (rest : List Stage) (member : Member) :
    (stage.step schema member).1.after schema rest = member.after schema (stage :: rest) := by
  obtain ⟨storage, adapter, hstored⟩ := bindMember_fst schema.adapters member
  obtain ⟨default, hdefault⟩ := bindDefault_set schema.defaults member
  cases stage with
  | members =>
    have htwice := congrArg Prod.fst (bindMember_twice schema.adapters member)
    rw [hstored] at htwice
    by_cases hmem : Stage.defaults ∈ rest
    · simp [Stage.step, Member.after, hstored, htwice, hdefault, bindDefault_stored, hmem]
    · simp [Stage.step, Member.after, hstored, htwice, hmem]
  | defaults =>
    have htwice := congrArg Prod.fst (bindDefault_twice schema.defaults member)
    rw [hdefault] at htwice
    by_cases hmem : Stage.members ∈ rest
    · simp [Stage.step, Member.after, hdefault, htwice, hstored, bindMember_default, hmem]
    · simp [Stage.step, Member.after, hdefault, htwice, hmem]
  | keys => simp [Stage.step, Member.after]

theorem resolve_collectAll (schema : Schema) (stages : List Stage) :
    resolve .collectAll schema stages =
      ⟨{ schema with members := schema.members.map (Member.after schema stages) },
        stages.flatMap (Stage.notes schema), none⟩ := by
  induction stages generalizing schema with
  | nil =>
    have hself : Member.after schema [] = id := by
      funext member
      simp [Member.after]
    rw [hself, List.map_id]
    rfl
  | cons stage rest ih =>
    have hnotes : (fun other : Stage => other.notes { schema with
        members := schema.members.map fun member => (stage.step schema member).1 }) =
          Stage.notes schema := funext fun other => notes_step schema other stage
    have hafter (member : Member) : (stage.step schema member).1.after { schema with
        members := schema.members.map fun member => (stage.step schema member).1 } rest =
          member.after schema (stage :: rest) := after_step schema stage rest member
    simp only [resolve, run_collectAll, Bool.false_eq_true, if_false, ih, hnotes, List.map_map,
      Function.comp_def, hafter, List.flatMap_cons]

/-- What a stage reports of a schema is the same behind any stages. -/
theorem notes_resolve (schema : Schema) (stages : List Stage) (stage : Stage) :
    stage.notes (resolve .collectAll schema stages).schema = stage.notes schema := by
  induction stages generalizing schema with
  | nil => rfl
  | cons other rest ih =>
    have hstep := notes_step schema stage other
    simp only [resolve, run_collectAll, Bool.false_eq_true, if_false, ih, hstep]

/-- Stages that collect everything are independent, whichever there are, in whatever order and
however often. None is aborted. Each reports what it reports of the schema alone, also behind all
the others. Which stages there are settles the schema that they leave: nothing in it has changed
but the storage and the adapter of members, if members were bound, and their default, if defaults
were. -/
theorem stages_independent (schema : Schema) (stages : List Stage) :
    (resolve .collectAll schema stages).aborted = none ∧
    (resolve .collectAll schema stages).reported =
      stages.flatMap (fun stage : Stage => (stage.run .collectAll schema).reported) ∧
    (∀ stage : Stage, let next := stage.run .collectAll (resolve .collectAll schema stages).schema
      next.aborted = false ∧ next.reported = (stage.run .collectAll schema).reported) ∧
    (∀ others, (∀ stage, stage ∈ others ↔ stage ∈ stages) →
      (resolve .collectAll schema others).schema = (resolve .collectAll schema stages).schema) ∧
    ∃ members, (resolve .collectAll schema stages).schema = { schema with members } ∧
      List.Forall₂ (fun before after => ∃ storage adapter default,
        after = { before with storage, adapter, default } ∧
        (.members ∉ stages → storage = before.storage ∧ adapter = before.adapter) ∧
        (.defaults ∉ stages → default = before.default)) schema.members members := by
  have hresolve := resolve_collectAll schema stages
  refine ⟨congrArg Resolution.aborted hresolve, ?_, fun stage => ⟨?_, ?_⟩, ?_, ?_⟩
  · simp only [hresolve, run_collectAll]
  · rw [run_collectAll]
  · rw [run_collectAll, run_collectAll, notes_resolve]
  · intro others hothers
    have hsame : Member.after schema others = Member.after schema stages :=
      funext (Member.after_congr hothers)
    rw [hresolve, resolve_collectAll, hsame]
  · refine ⟨schema.members.map (Member.after schema stages), by rw [hresolve], ?_⟩
    rw [List.forall₂_map_right_iff, List.forall₂_same]
    intro member _
    exact ⟨_, _, _, rfl, fun hnot => by simp [hnot], fun hnot => by simp [hnot]⟩

end Preferences.Schema
