import Preferences.Proofs.Binding
import Preferences.Proofs.Compilation
import Preferences.Proofs.Members

/-! What the methods of a compiled declaration delegate to. All stages together resolve every
member; the method generated for a resolved member is the one call that its access, its key and its
type spell, with the only default that has this key and this type. -/

namespace Preferences.Schema

open Preferences.Source Preferences.Syntax Report

/-! ### Resolved members -/

/-- A member as all stages leave it. -/
structure Member.Resolved (defaults : List DefaultConst) (member : Member) : Prop
    extends member.Bound where
  shape : Shape.Fits member.access ⟨member.key, member.valueType, member.valueParam⟩
  default : member.access.needsDefault = true → member.HasDefault defaults

/-- Binding all members and then their defaults resolves members as the parser makes them. -/
theorem resolved_of_bound {adapters : List AdapterBinding} {defaults : List DefaultConst}
    {parsed bound member : Member} (hparsed : parsed.Parsed)
    (hbound : bindMember adapters parsed = (bound, none))
    (hdefault : bindDefault defaults bound = (member, none)) : member.Resolved defaults := by
  obtain ⟨hstored, _, _, rfl⟩ := bindMember_bound hparsed.storage hbound
  obtain ⟨hneeds, _, rfl⟩ := bindDefault_bound hdefault
  exact ⟨⟨hstored.storage, hstored.adapter⟩, hparsed.shape, hneeds⟩

/-- What all stages together promise of the members of a schema that nothing is reported of. -/
theorem resolved_members {mode : Mode} {parsed schema : Schema}
    (hparsed : ∀ member ∈ parsed.members, member.Parsed)
    (h : Gives (resolving parsed Stage.all) mode schema) :
    (∀ member ∈ schema.members, member.Resolved schema.defaults) ∧ OneType schema.members := by
  obtain ⟨stored, members, hstored, hmembers, hconflicts, rfl⟩ := gives_resolving.1 h
  refine ⟨fun member hmember => ?_, oneType_of_no_conflict hconflicts⟩
  obtain ⟨before, hbefore, hdefault⟩ := exists_mem_of_forall₂ hmembers hmember
  obtain ⟨first, hfirst, hbind⟩ := exists_mem_of_forall₂ hstored hbefore
  exact resolved_of_bound (hparsed first hfirst) hbind hdefault

/-! ### Calls -/

/-- A typed member with its key and its type. -/
structure Member.Typed (member : Member) (access : Access) (key : TextLiteral) (ty : Ty) :
    Prop where
  access : member.access = access
  key : member.key = .fixed key
  valueType : member.valueType = some ty

/-- The call that a member stands for: an operation of the kind that stores its type, or of an
adapter for that type, on its own key and with the only default that has this key and this type. -/
inductive Delegates (defaults : List DefaultConst) (member : Member) : Call → Prop where
  | read (watch : Bool) {key ty kind const}
      (htyped : member.Typed (if watch then .observe else .get) key ty)
      (hkind : Storage.ofType ty = .native kind)
      (hdefault : selected defaults key.value ty = [const]) :
      Delegates defaults member (.read watch kind (.fixed key) const)
  | write (sync : Bool) {key ty kind name}
      (htyped : member.Typed (if sync then .setSync else .set) key ty)
      (hkind : Storage.ofType ty = .native kind) (hname : member.valueParam = some name) :
      Delegates defaults member (.write sync kind (.fixed key) name)
  | adapterRead (watch : Bool) {key ty bound const}
      (htyped : member.Typed (if watch then .observe else .get) key ty)
      (hadapted : Storage.ofType ty = .adapted) (hsame : bound.valueType.same ty = true)
      (hdefault : selected defaults key.value ty = [const]) :
      Delegates defaults member (.adapterRead watch bound (.fixed key) const)
  | adapterWrite {key ty bound name} (htyped : member.Typed .set key ty)
      (hadapted : Storage.ofType ty = .adapted) (hsame : bound.valueType.same ty = true)
      (hname : member.valueParam = some name) :
      Delegates defaults member (.adapterWrite bound (.fixed key) name)
  | contains (haccess : member.access = .contains) :
      Delegates defaults member (.contains member.key)
  | remove (haccess : member.access = .remove) : Delegates defaults member (.remove member.key)
  | clear (haccess : member.access = .clear) : Delegates defaults member .clear

section Calls

variable {schema : Schema} {member : Member}

theorem Member.Resolved.typed (h : member.Resolved schema.defaults)
    (htyped : member.access.isTyped = true) : ∃ key ty, member.Typed member.access key ty := by
  obtain ⟨key, hkey⟩ := h.shape.fixed htyped
  have htype := h.shape.valueType
  rw [htyped, Option.isSome_iff_exists] at htype
  obtain ⟨ty, hty⟩ := htype
  exact ⟨key, ty, rfl, hkey, hty⟩

theorem Member.Resolved.boundDefault_eq (h : member.Resolved schema.defaults)
    {access : Access} {key : TextLiteral} {ty : Ty} (htyped : member.Typed access key ty)
    (hneeds : access.needsDefault = true) :
    ∃ const, boundDefault schema member = .ok const ∧
      selected schema.defaults key.value ty = [const] := by
  rw [← htyped.access] at hneeds
  obtain ⟨key', ty', const, hkey, htype, hconst, hselected⟩ := h.default hneeds
  rw [htyped.key] at hkey
  rw [htyped.valueType] at htype
  cases hkey
  cases htype
  exact ⟨const, by simp [boundDefault, hconst], hselected⟩

theorem Member.Resolved.target_native (h : member.Resolved schema.defaults)
    {access : Access} {key : TextLiteral} {ty : Ty} {kind : Store.Kind}
    (htyped : member.Typed access key ty) (hkind : Storage.ofType ty = .native kind) :
    target member = .ok (.inl kind) := by
  have hstorage := h.storage
  rw [htyped.valueType, Option.map_some, hkind] at hstorage
  rw [target, hstorage]

theorem Member.Resolved.target_adapted (h : member.Resolved schema.defaults)
    {access : Access} {key : TextLiteral} {ty : Ty} (htyped : member.Typed access key ty)
    (hadapted : Storage.ofType ty = .adapted) :
    ∃ bound, target member = .ok (.inr bound) ∧ bound.valueType.same ty = true ∧
      access ≠ .setSync := by
  have hstorage := h.storage
  rw [htyped.valueType, Option.map_some, hadapted] at hstorage
  have hfits := h.adapter ty htyped.valueType
  rw [hadapted] at hfits
  rcases hadapter : member.adapter with _ | bound
  · rw [hadapter] at hfits
    cases hfits
  · rw [hadapter] at hfits
    cases hfits with
    | adapted _ hsync hsame =>
      refine ⟨bound, ?_, hsame, htyped.access ▸ hsync⟩
      rw [target, hstorage, hadapter]

theorem Member.Resolved.valueParam_eq (h : member.Resolved schema.defaults)
    (hsetter : member.access.isSetter = true) : ∃ name, member.valueParam = some name := by
  have hparam := h.shape.valueParam
  rwa [hsetter, Option.isSome_iff_exists] at hparam

theorem readCall_resolved (h : member.Resolved schema.defaults) (watch : Bool)
    (haccess : member.access = if watch then .observe else .get) :
    ∃ call, readCall schema watch member = .ok call ∧ Delegates schema.defaults member call := by
  have hneeds : member.access.needsDefault = true := by rw [haccess]; cases watch <;> rfl
  have hread : member.access.isTyped = true := by rw [haccess]; cases watch <;> rfl
  obtain ⟨key, ty, htyped⟩ := h.typed hread
  obtain ⟨const, hconst, hselected⟩ := h.boundDefault_eq htyped hneeds
  rw [haccess] at htyped
  cases hstorage : Storage.ofType ty with
  | native kind =>
    refine ⟨_, ?_, .read watch htyped hstorage hselected⟩
    rw [readCall, hconst, h.target_native htyped hstorage, htyped.key]
    rfl
  | adapted =>
    obtain ⟨bound, htarget, hsame, -⟩ := h.target_adapted htyped hstorage
    refine ⟨_, ?_, .adapterRead watch htyped hstorage hsame hselected⟩
    rw [readCall, hconst, htarget, htyped.key]
    rfl

theorem writeCall_resolved (h : member.Resolved schema.defaults) (sync : Bool)
    (haccess : member.access = if sync then .setSync else .set) :
    ∃ call, writeCall sync member = .ok call ∧ Delegates schema.defaults member call := by
  have hsetter : member.access.isSetter = true := by rw [haccess]; cases sync <;> rfl
  have hwrite : member.access.isTyped = true := by rw [haccess]; cases sync <;> rfl
  obtain ⟨key, ty, htyped⟩ := h.typed hwrite
  obtain ⟨name, hname⟩ := h.valueParam_eq hsetter
  rw [haccess] at htyped
  cases hstorage : Storage.ofType ty with
  | native kind =>
    refine ⟨_, ?_, .write sync htyped hstorage hname⟩
    rw [writeCall, valueParam, hname, h.target_native htyped hstorage, htyped.key]
    rfl
  | adapted =>
    obtain ⟨bound, htarget, hsame, hsync⟩ := h.target_adapted htyped hstorage
    cases sync with
    | true => exact absurd rfl hsync
    | false =>
      refine ⟨_, ?_, .adapterWrite htyped hstorage hsame hname⟩
      rw [writeCall, valueParam, hname, htarget, htyped.key]
      rfl

/-- A resolved member has a call: none of the checks of its generator fails. -/
theorem callFor_resolved (h : member.Resolved schema.defaults) :
    ∃ call, callFor schema member.access member = .ok call ∧
      Delegates schema.defaults member call := by
  cases haccess : member.access with
  | get => exact readCall_resolved h false haccess
  | observe => exact readCall_resolved h true haccess
  | set => exact writeCall_resolved h false haccess
  | setSync => exact writeCall_resolved h true haccess
  | contains => exact ⟨_, rfl, .contains haccess⟩
  | remove => exact ⟨_, rfl, .remove haccess⟩
  | clear => exact ⟨_, rfl, .clear haccess⟩

end Calls

/-! ### Compiled declarations -/

theorem gives_accessors {schema : Schema} {mode : Mode} {methods : List Accessor} :
    Gives (accessors schema) mode methods ↔
      List.Forall₂ (fun member method => accessorFor schema member.access member = .ok method)
        schema.members methods := by
  simp only [accessors, gives_bind, gives_pure, gives_each, gives_check]
  generalize schema.members = members
  constructor
  · rintro ⟨found, hfound, rfl⟩
    induction hfound with
    | nil => exact .nil
    | cons hfirst _ ih =>
      obtain ⟨method, hmethod, rfl⟩ := hfirst
      exact .cons hmethod ih
  · intro h
    refine ⟨methods.map some, ?_, by simp⟩
    induction h with
    | nil => exact .nil
    | cons hfirst _ ih => exact .cons ⟨_, hfirst, rfl⟩ ih

/-- A method generated for a member: its own signature, and the call that it stands for. -/
structure Generated (defaults : List DefaultConst) (member : Member) (method : Accessor) :
    Prop where
  signature : method.signature = member.signature
  call : Delegates defaults member method.call

theorem accessorFor_generated {schema : Schema} {member : Member} {method : Accessor}
    (hresolved : member.Resolved schema.defaults)
    (h : accessorFor schema member.access member = .ok method) :
    Generated schema.defaults member method := by
  obtain ⟨call, hcall, hdelegates⟩ := callFor_resolved hresolved
  rw [accessorFor, hcall] at h
  cases h
  exact ⟨rfl, hdelegates⟩

/-- The members of a compiled declaration are resolved, and have one type for each key. -/
theorem compile_resolved {mode : Mode} {args item : List Tree} {compiled : Compiled}
    (h : compile mode args item = .ok compiled) :
    (∀ member ∈ compiled.schema.members, member.Resolved compiled.schema.defaults) ∧
      OneType compiled.schema.members := by
  obtain ⟨parsed, hparsed, hresolving, -⟩ := compile_stages h
  exact resolved_members (parse_parsed hparsed.returns) hresolving

/-- The methods of a compiled declaration are generated for its members one by one, and its typed
members have one type for each key. -/
theorem compile_generated {mode : Mode} {args item : List Tree} {compiled : Compiled}
    (h : compile mode args item = .ok compiled) :
    List.Forall₂ (Generated compiled.schema.defaults) compiled.schema.members compiled.methods ∧
      OneType compiled.schema.members := by
  obtain ⟨hresolved, hone⟩ := compile_resolved h
  obtain ⟨_, -, -, hmethods⟩ := compile_stages h
  refine ⟨?_, hone⟩
  have hall := List.forall₂_and_left _ _ |>.2 ⟨hresolved, gives_accessors.1 hmethods⟩
  exact hall.imp fun member method ⟨hmember, hmethod⟩ => accessorFor_generated hmember hmethod

end Preferences.Schema
