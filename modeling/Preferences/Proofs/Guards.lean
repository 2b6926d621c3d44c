import Preferences.Proofs.Bodies
import Preferences.Proofs.Members

/-! What the generators check by themselves. Whatever is bound to a member, a method is generated if
and only if all is there that its one call uses; the call is then the one that the storage of the
member stands for, and otherwise the only diagnostic names the method. -/

namespace Preferences.Schema

open Preferences.Source Preferences.Store Preferences.Syntax

/-! ### What a call uses -/

/-- A default is bound that the schema has. -/
def Member.HasConst (schema : Schema) (member : Member) : Prop :=
  ∃ place, member.default = some place ∧ place < schema.defaults.length

/-- A storage is bound, with an adapter where values are stored through one. -/
def Member.HasTarget (member : Member) : Prop :=
  ∃ storage, member.storage = some storage ∧
    (storage = .adapted → member.adapter.isSome = true)

/-- All is bound to a member that its method uses, if it is accessed as `access` says. -/
def Member.Provides (schema : Schema) (member : Member) : Access → Prop
  | .get | .observe => member.HasConst schema ∧ member.HasTarget
  | .set => member.valueParam.isSome = true ∧ member.HasTarget
  | .setSync => member.valueParam.isSome = true ∧ ∃ kind, member.storage = some (.native kind)
  | .contains | .remove | .clear => True

/-! ### The one call -/

/-- The bodies of generated methods, each of them written as a single call. The storage alone
decides what is called: operations of its own kind, or those of the adapter for the type that it was
bound with. -/
inductive Spelled (schema : Schema) (member : Member) : Access → Code → Prop where
  | read (watch : Bool) {access kind place const body}
      (haccess : access = if watch then .observe else .get)
      (hkind : member.storage = some (.native kind)) (hplace : member.default = some place)
      (hconst : schema.defaults[place]? = some const)
      (hbody : BodyCall.Written schema (.read watch kind member.key.token const.name.text) body) :
      Spelled schema member access body
  | write (sync : Bool) {access kind name body}
      (haccess : access = if sync then .setSync else .set)
      (hkind : member.storage = some (.native kind)) (hname : member.valueParam = some name)
      (hbody : BodyCall.Written schema (.write sync kind member.key.token name.text) body) :
      Spelled schema member access body
  | adapterRead (watch : Bool) {access bound place const body}
      (haccess : access = if watch then .observe else .get)
      (hadapted : member.storage = some .adapted) (hbound : member.adapter = some bound)
      (hplace : member.default = some place) (hconst : schema.defaults[place]? = some const)
      (hbody : BodyCall.Written schema (.adapterRead watch
        (adapterPath schema.runtime.code bound.adapter.code bound.valueType.code)
        member.key.token const.name.text) body) :
      Spelled schema member access body
  | adapterWrite {bound name body} (hadapted : member.storage = some .adapted)
      (hbound : member.adapter = some bound) (hname : member.valueParam = some name)
      (hbody : BodyCall.Written schema (.adapterWrite
        (adapterPath schema.runtime.code bound.adapter.code bound.valueType.code)
        member.key.token name.text) body) :
      Spelled schema member .set body
  | contains {body} (hbody : BodyCall.Written schema (.contains member.key.token) body) :
      Spelled schema member .contains body
  | remove {body} (hbody : BodyCall.Written schema (.remove member.key.token) body) :
      Spelled schema member .remove body
  | clear {body} (hbody : BodyCall.Written schema .clear body) :
      Spelled schema member .clear body

/-! ### What is shown of a method that is refused -/

/-- The method that a problem is about. -/
def Problem.method? : Problem → Option String
  | .unsupportedType method _ _ | .missingDefault method _ _ _ | .ambiguousDefault method _ _ _
  | .missingAdapter method _ _ | .malformedMember method _ => some method
  | .conflictingKey .. | .malformedDeclaration _ => none

/-- A message about a method shows its name in backticks. -/
theorem Problem.message_shows {problem : Problem} {method : String}
    (h : problem.method? = some method) :
    ∃ before after, problem.message = before ++ ("`" ++ method ++ "`") ++ after := by
  have hclose : "`: " = "`" ++ ": " := by simp
  unfold message
  cases problem with
  | unsupportedType name ty reason =>
    cases h
    have hin : "` in `" = "` in " ++ "`" := by simp
    refine ⟨"unsupported preference type `" ++ ty ++ "` in ", ": " ++ reason, ?_⟩
    simp only [hin, hclose, String.append_assoc]
  | missingDefault name key ty hint =>
    cases h
    have hneeds : "` needs a default for key \"" = "`" ++ " needs a default for key \"" := by simp
    refine ⟨"", " needs a default for key \"" ++ key ++ "\" of type `" ++ ty ++ "`" ++ hint, ?_⟩
    simp only [hneeds, String.empty_append, String.append_assoc]
  | ambiguousDefault name key ty count =>
    cases h
    have hhas : "` has " = "`" ++ " has " := by simp
    refine ⟨"", " has " ++ toString count ++ " candidate defaults for key \"" ++ key ++
      "\" of type `" ++ ty ++ "`, expected exactly one", ?_⟩
    simp only [hhas, String.empty_append, String.append_assoc]
  | missingAdapter name ty reason =>
    cases h
    have hstores : "` stores `" = "`" ++ " stores `" := by simp
    refine ⟨"", " stores `" ++ ty ++ "`, which needs an adapter: " ++ reason, ?_⟩
    simp only [hstores, String.empty_append, String.append_assoc]
  | malformedMember name reason =>
    cases h
    have hopen : "malformed preference method `" = "malformed preference method " ++ "`" := by simp
    refine ⟨"malformed preference method ", ": " ++ reason, ?_⟩
    simp only [hopen, hclose, String.append_assoc]
  | conflictingKey | malformedDeclaration => cases h

/-- A diagnostic of a method: it stands at the method's name and shows it, and has no notes. -/
structure Diagnostic.Names (d : Diagnostic) (member : Member) : Prop where
  pos : d.pos = member.pos
  notes : d.notes = []
  shown : ∃ before after, d.problem.message = before ++ ("`" ++ member.name ++ "`") ++ after

theorem Diagnostic.ofProblem_names {member : Member} {problem : Problem}
    (h : problem.method? = some member.name) : (ofProblem member.pos problem).Names member :=
  ⟨rfl, rfl, problem.message_shows h⟩

section Checks

variable {schema : Schema} {member : Member}

/-! ### Each check -/

theorem boundDefault_eq_ok {const : DefaultConst} :
    boundDefault schema member = .ok const ↔
      ∃ place, member.default = some place ∧ schema.defaults[place]? = some const := by
  unfold boundDefault
  split
  · rename_i found hfound
    rw [Option.bind_eq_some_iff] at hfound
    constructor
    · rintro ⟨⟩
      exact hfound
    · rintro ⟨place, hplace, hconst⟩
      obtain ⟨other, hother, hfound⟩ := hfound
      rw [hplace] at hother
      cases hother
      rw [hconst] at hfound
      cases hfound
      rfl
  · rename_i hnone
    refine ⟨nofun, fun hfound => ?_⟩
    rw [Option.bind_eq_some_iff.2 hfound] at hnone
    cases hnone

theorem exists_boundDefault_iff :
    (∃ const, boundDefault schema member = .ok const) ↔ member.HasConst schema := by
  simp only [boundDefault_eq_ok]
  constructor
  · rintro ⟨const, place, hplace, hconst⟩
    exact ⟨place, hplace, (List.getElem?_eq_some_iff.1 hconst).1⟩
  · rintro ⟨place, hplace, hlt⟩
    exact ⟨_, place, hplace, List.getElem?_eq_getElem hlt⟩

theorem target_eq_inl {kind : Kind} :
    target member = .ok (.inl kind) ↔ member.storage = some (.native kind) := by
  unfold target
  split <;> simp_all [eq_comm]

theorem target_eq_inr {bound : AdapterBinding} :
    target member = .ok (.inr bound) ↔
      member.storage = some .adapted ∧ member.adapter = some bound := by
  unfold target
  split <;> simp_all [eq_comm]

theorem exists_target_iff : (∃ found, target member = .ok found) ↔ member.HasTarget := by
  constructor
  · rintro ⟨kind | bound, hfound⟩
    · exact ⟨_, target_eq_inl.1 hfound, nofun⟩
    · obtain ⟨hadapted, hbound⟩ := target_eq_inr.1 hfound
      exact ⟨_, hadapted, fun _ => by rw [hbound]; rfl⟩
  · rintro ⟨storage, hstorage, hadapter⟩
    cases storage with
    | native kind => exact ⟨_, target_eq_inl.2 hstorage⟩
    | adapted =>
      obtain ⟨bound, hbound⟩ := Option.isSome_iff_exists.1 (hadapter rfl)
      exact ⟨_, target_eq_inr.2 ⟨hstorage, hbound⟩⟩

theorem valueParam_eq_ok {name : Name} :
    valueParam member = .ok name ↔ member.valueParam = some name := by
  unfold valueParam
  split <;> simp_all

/-! ### Failures -/

theorem boundDefault_names {d : Diagnostic} (h : boundDefault schema member = .error d) :
    d.Names member := by
  unfold boundDefault at h
  split at h
  · cases h
  · cases h
    exact Diagnostic.ofProblem_names rfl

theorem target_names {d : Diagnostic} (h : target member = .error d) : d.Names member := by
  unfold target at h
  split at h <;> cases h <;> exact Diagnostic.ofProblem_names rfl

theorem valueParam_names {d : Diagnostic} (h : valueParam member = .error d) :
    d.Names member := by
  unfold valueParam at h
  split at h
  · cases h
  · cases h
    exact Diagnostic.ofProblem_names rfl

/-! ### Calls -/

theorem exists_readCall_iff {watch : Bool} :
    (∃ call, readCall schema watch member = .ok call) ↔
      member.HasConst schema ∧ member.HasTarget := by
  rw [← exists_boundDefault_iff, ← exists_target_iff]
  simp only [readCall, exists_ok_bind]
  constructor
  · rintro ⟨const, hconst, found, hfound, -⟩
    exact ⟨⟨const, hconst⟩, found, hfound⟩
  · rintro ⟨⟨const, hconst⟩, found, hfound⟩
    refine ⟨const, hconst, found, hfound, ?_⟩
    cases found <;> exact ⟨_, rfl⟩

theorem readCall_spelled (watch : Bool) {access : Access} {call : Call}
    (haccess : access = if watch then .observe else .get)
    (h : readCall schema watch member = .ok call) :
    Spelled schema member access (call.code schema) := by
  have hbody := call.code_written schema
  obtain ⟨const, hdefault, h⟩ := ok_of_bind h
  obtain ⟨place, hplace, hconst⟩ := boundDefault_eq_ok.1 hdefault
  obtain ⟨found, hfound, h⟩ := ok_of_bind h
  cases found with
  | inl kind =>
    cases h
    exact .read watch haccess (target_eq_inl.1 hfound) hplace hconst hbody
  | inr bound =>
    cases h
    obtain ⟨hadapted, hbound⟩ := target_eq_inr.1 hfound
    exact .adapterRead watch haccess hadapted hbound hplace hconst hbody

theorem readCall_names {watch : Bool} {d : Diagnostic}
    (h : readCall schema watch member = .error d) : d.Names member := by
  rcases error_of_bind h with hdefault | ⟨const, -, h⟩
  · exact boundDefault_names hdefault
  · rcases error_of_bind h with htarget | ⟨kind | bound, -, h⟩
    · exact target_names htarget
    · cases h
    · cases h

theorem exists_writeCall_iff :
    (∃ call, writeCall false member = .ok call) ↔
      member.valueParam.isSome = true ∧ member.HasTarget := by
  rw [← exists_target_iff, Option.isSome_iff_exists]
  simp only [writeCall, exists_ok_bind, valueParam_eq_ok]
  constructor
  · rintro ⟨name, hname, found, hfound, -⟩
    exact ⟨⟨name, hname⟩, found, hfound⟩
  · rintro ⟨⟨name, hname⟩, found, hfound⟩
    refine ⟨name, hname, found, hfound, ?_⟩
    cases found <;> exact ⟨_, rfl⟩

/-- No adapter has a synchronous operation. -/
theorem exists_writeCall_sync_iff :
    (∃ call, writeCall true member = .ok call) ↔
      member.valueParam.isSome = true ∧ ∃ kind, member.storage = some (.native kind) := by
  rw [Option.isSome_iff_exists]
  simp only [writeCall, exists_ok_bind, valueParam_eq_ok]
  constructor
  · rintro ⟨name, hname, kind | bound, hfound, _, h⟩
    · exact ⟨⟨name, hname⟩, kind, target_eq_inl.1 hfound⟩
    · cases h
  · rintro ⟨⟨name, hname⟩, kind, hkind⟩
    exact ⟨name, hname, .inl kind, target_eq_inl.2 hkind, _, rfl⟩

theorem writeCall_spelled (sync : Bool) {access : Access} {call : Call}
    (haccess : access = if sync then .setSync else .set) (h : writeCall sync member = .ok call) :
    Spelled schema member access (call.code schema) := by
  have hbody := call.code_written schema
  obtain ⟨name, hname, h⟩ := ok_of_bind h
  rw [valueParam_eq_ok] at hname
  obtain ⟨found, hfound, h⟩ := ok_of_bind h
  cases found with
  | inl kind =>
    cases h
    exact .write sync haccess (target_eq_inl.1 hfound) hname hbody
  | inr bound =>
    obtain ⟨hadapted, hbound⟩ := target_eq_inr.1 hfound
    cases sync with
    | true => cases h
    | false =>
      cases h
      cases haccess
      exact .adapterWrite hadapted hbound hname hbody

theorem writeCall_names {sync : Bool} {d : Diagnostic} (h : writeCall sync member = .error d) :
    d.Names member := by
  rcases error_of_bind h with hname | ⟨name, -, h⟩
  · exact valueParam_names hname
  · rcases error_of_bind h with htarget | ⟨kind | bound, -, h⟩
    · exact target_names htarget
    · cases h
    · cases sync with
      | true =>
        cases h
        exact Diagnostic.ofProblem_names rfl
      | false => cases h

theorem exists_callFor_iff {access : Access} :
    (∃ call, callFor schema access member = .ok call) ↔ member.Provides schema access := by
  cases access with
  | get | observe => exact exists_readCall_iff
  | set => exact exists_writeCall_iff
  | setSync => exact exists_writeCall_sync_iff
  | contains | remove | clear => exact ⟨fun _ => trivial, fun _ => ⟨_, rfl⟩⟩

theorem callFor_spelled {access : Access} {call : Call}
    (h : callFor schema access member = .ok call) :
    Spelled schema member access (call.code schema) := by
  have hbody := call.code_written schema
  cases access with
  | get => exact readCall_spelled false rfl h
  | observe => exact readCall_spelled true rfl h
  | set => exact writeCall_spelled false rfl h
  | setSync => exact writeCall_spelled true rfl h
  | contains =>
    cases h
    exact .contains hbody
  | remove =>
    cases h
    exact .remove hbody
  | clear =>
    cases h
    exact .clear hbody

theorem callFor_names {access : Access} {d : Diagnostic}
    (h : callFor schema access member = .error d) : d.Names member := by
  cases access with
  | get | observe => exact readCall_names h
  | set | setSync => exact writeCall_names h
  | contains | remove | clear => cases h

/-! ### Methods -/

theorem accessorFor_eq_ok {access : Access} {method : Accessor} :
    accessorFor schema access member = .ok method ↔
      ∃ call, callFor schema access member = .ok call ∧ method = ⟨member.signature, call⟩ := by
  unfold accessorFor
  cases callFor schema access member with
  | error d => simp [Except.map]
  | ok call => simp [Except.map, eq_comm]

theorem accessorFor_eq_error {access : Access} {d : Diagnostic} :
    accessorFor schema access member = .error d ↔ callFor schema access member = .error d := by
  unfold accessorFor
  cases callFor schema access member <;> simp [Except.map]

end Checks

/-- For every access, a member has a method if and only if all is bound to it that the method uses,
whatever else is bound to it or not. The method has the signature of the member and the one call
that its storage stands for; a member without a method has the one diagnostic, which names it. -/
theorem accessorFor_guarded (schema : Schema) (member : Member) (access : Access) :
    ((∃ method, accessorFor schema access member = .ok method) ↔
      member.Provides schema access) ∧
    (∀ method, accessorFor schema access member = .ok method →
      ∃ body, method.code schema = member.signature.code ++ [.braces body] ∧
        method.signature = member.signature ∧ Spelled schema member access body) ∧
    ∀ d, accessorFor schema access member = .error d → d.Names member := by
  refine ⟨?_, fun method h => ?_, fun d h => callFor_names (accessorFor_eq_error.1 h)⟩
  · rw [← exists_callFor_iff]
    simp only [accessorFor_eq_ok]
    constructor
    · rintro ⟨_, call, hcall, -⟩
      exact ⟨call, hcall⟩
    · rintro ⟨call, hcall⟩
      exact ⟨_, call, hcall, rfl⟩
  · obtain ⟨call, hcall, rfl⟩ := accessorFor_eq_ok.1 h
    exact ⟨_, rfl, rfl, callFor_spelled hcall⟩

end Preferences.Schema
