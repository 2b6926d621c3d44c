import Preferences.Proofs.Collecting
import Preferences.Proofs.Reordering

/-! Adapters of a trait and of its members. The first attribute that names a type binds its adapter;
every later one for that type is reported and dropped. What a typed member is bound to follows from
its type, its access, its own adapter, and the one adapter of the trait for its type, wherever that
stands among the others. -/

namespace Preferences.Schema

open Preferences.Source Preferences.Syntax Report

/-! ### Adapters of a trait -/

/-- The complaint about an adapter for a type that has one. -/
def alreadyBound (binding : AdapterBinding) : Diagnostic :=
  .declaration binding.pos ("`" ++ binding.valueType.shown ++ "` already has an adapter")

/-- The adapters that attributes bind, and what is reported of the attributes, both in turn. -/
inductive Gathers : List Attribute → List AdapterBinding → List Diagnostic → Prop where
  | nil : Gathers [] [] []
  | refused {attrs bound notes attr d} (before : Gathers attrs bound notes)
      (hattr : adapterOf attr = .error d) : Gathers (attrs ++ [attr]) bound (notes ++ [d])
  | repeated {attrs bound notes attr earlier binding} (before : Gathers attrs bound notes)
      (hattr : adapterOf attr = .ok binding) (hearlier : earlier ∈ bound)
      (hsame : earlier.valueType.same binding.valueType = true) :
      Gathers (attrs ++ [attr]) bound (notes ++ [alreadyBound binding])
  | first {attrs bound notes attr binding} (before : Gathers attrs bound notes)
      (hattr : adapterOf attr = .ok binding) (hnew : ∀ earlier ∈ bound, earlier.Apart binding) :
      Gathers (attrs ++ [attr]) (bound ++ [binding]) notes

theorem any_same_eq_false {bound : List AdapterBinding} {binding : AdapterBinding} :
    (bound.any fun earlier => earlier.valueType.same binding.valueType) = false ↔
      ∀ earlier ∈ bound, earlier.Apart binding := by
  simp [AdapterBinding.Apart]

/-- By induction on the attributes to come, with those before them already gathered. -/
theorem bindAdapters_gathers {before : List Attribute} {bound : List AdapterBinding}
    {notes : List Diagnostic} (h : Gathers before bound notes) (attrs : List Attribute) :
    ∃ all more, Collects (bindAdapters bound attrs) all more ∧
      Gathers (before ++ attrs) all (notes ++ more) := by
  induction attrs generalizing before bound notes with
  | nil => exact ⟨bound, [], collects_done bound, by simpa using h⟩
  | cons attr rest ih =>
    rw [List.append_cons, bindAdapters]
    have hcheck := collects_check (adapterOf attr)
    cases hattr : adapterOf attr with
    | error d =>
      rw [hattr] at hcheck
      obtain ⟨all, more, hrest, hall⟩ := ih (.refused h hattr)
      exact ⟨all, d :: more, collects_bind hcheck hrest, by simpa using hall⟩
    | ok binding =>
      rw [hattr] at hcheck
      cases hsame : bound.any fun earlier => earlier.valueType.same binding.valueType with
      | true =>
        obtain ⟨earlier, hearlier, htype⟩ := List.any_eq_true.1 hsame
        obtain ⟨all, more, hrest, hall⟩ := ih (.repeated h hattr hearlier htype)
        refine ⟨all, alreadyBound binding :: more, collects_bind hcheck ?_, by simpa using hall⟩
        rw [Except.toOption]
        dsimp only
        rw [if_pos hsame]
        exact collects_bind (collects_report _) hrest
      | false =>
        obtain ⟨all, more, hrest, hall⟩ := ih (.first h hattr (any_same_eq_false.1 hsame))
        refine ⟨all, more, collects_bind hcheck ?_, hall⟩
        rw [Except.toOption]
        dsimp only
        rw [if_neg (Bool.eq_false_iff.1 hsame)]
        exact hrest

/-! ### Adapters of members -/

/-- The complaint about an adapter for values that are stored natively. -/
def superfluousAdapter (member : Member) (own : AdapterBinding) (ty : Ty) : Diagnostic :=
  .member own.pos member.name
    ("`" ++ ty.shown ++ "` is stored natively, adapters apply to non-scalar types only")

/-- The complaint about a synchronous setter of values that need an adapter. -/
def unsupportedSetter (member : Member) (ty : Ty) : Diagnostic :=
  .ofProblem member.pos (.unsupportedType member.name ty.shown
    "#[set_sync] needs a scalar type, adapters have no synchronous put")

/-- The complaint about a method's own adapter that is for another type. -/
def mismatchedAdapter (member : Member) (own : AdapterBinding) (ty : Ty) : Diagnostic :=
  .ofProblem own.pos (.missingAdapter member.name ty.shown
    ("the adapter on this method is bound to `" ++ own.valueType.shown ++ "`"))

/-- The complaint about values that no adapter of the trait is for. -/
def missingAdapter (adapters : List AdapterBinding) (member : Member) (ty : Ty) : Diagnostic :=
  .ofProblem member.pos (.missingAdapter member.name ty.shown (adapterAdvice ty adapters))

/-- What a member with values of type `ty` is bound to, and what is reported of it, if anything. -/
inductive Binds (adapters : List AdapterBinding) (member : Member) (ty : Ty) :
    Option AdapterBinding → Option Diagnostic → Prop where
  | native {kind} (hkind : Storage.ofType ty = .native kind) (hown : member.localAdapter = none) :
      Binds adapters member ty none none
  | superfluous {kind own} (hkind : Storage.ofType ty = .native kind)
      (hown : member.localAdapter = some own) :
      Binds adapters member ty none (some (superfluousAdapter member own ty))
  | unsupported (hadapted : Storage.ofType ty = .adapted) (hsync : member.access = .setSync) :
      Binds adapters member ty none (some (unsupportedSetter member ty))
  | own {own} (hadapted : Storage.ofType ty = .adapted) (hsync : member.access ≠ .setSync)
      (hown : member.localAdapter = some own) (hsame : own.valueType.same ty = true) :
      Binds adapters member ty (some own) none
  | mismatched {own} (hadapted : Storage.ofType ty = .adapted) (hsync : member.access ≠ .setSync)
      (hown : member.localAdapter = some own) (hsame : own.valueType.same ty = false) :
      Binds adapters member ty none (some (mismatchedAdapter member own ty))
  | shared {bound} (hadapted : Storage.ofType ty = .adapted) (hsync : member.access ≠ .setSync)
      (hown : member.localAdapter = none) (hbound : bound ∈ adapters)
      (hsame : bound.valueType.same ty = true)
      (honly : ∀ other ∈ adapters, other.valueType.same ty = true → other = bound) :
      Binds adapters member ty (some bound) none
  | missing (hadapted : Storage.ofType ty = .adapted) (hsync : member.access ≠ .setSync)
      (hown : member.localAdapter = none)
      (hnone : ∀ bound ∈ adapters, bound.valueType.same ty = false) :
      Binds adapters member ty none (some (missingAdapter adapters member ty))

/-- What a member is bound to is settled in any case, if no type has two adapters. -/
theorem exists_binds {adapters : List AdapterBinding} (hdistinct : Distinct adapters)
    (member : Member) (ty : Ty) : ∃ adapter note, Binds adapters member ty adapter note := by
  cases hstorage : Storage.ofType ty with
  | native kind =>
    cases hown : member.localAdapter with
    | none => exact ⟨_, _, .native hstorage hown⟩
    | some own => exact ⟨_, _, .superfluous hstorage hown⟩
  | adapted =>
    by_cases hsync : member.access = .setSync
    · exact ⟨_, _, .unsupported hstorage hsync⟩
    · cases hown : member.localAdapter with
      | some own =>
        cases hsame : own.valueType.same ty with
        | true => exact ⟨_, _, .own hstorage hsync hown hsame⟩
        | false => exact ⟨_, _, .mismatched hstorage hsync hown hsame⟩
      | none =>
        by_cases hbound : ∃ bound ∈ adapters, bound.valueType.same ty = true
        · obtain ⟨bound, hbound, hsame⟩ := hbound
          exact ⟨_, _, .shared hstorage hsync hown hbound hsame fun other hother hsame' =>
            hdistinct.eq_of_same hbound hother hsame hsame'⟩
        · refine ⟨_, _, .missing hstorage hsync hown fun bound hbound' => ?_⟩
          exact Bool.eq_false_iff.2 fun hsame => hbound ⟨bound, hbound', hsame⟩

/-- The same complaint, but for the order in which its advice names the adapters of the trait. -/
inductive Reworded (adapters others : List AdapterBinding) : Diagnostic → Diagnostic → Prop where
  | same {d} : Reworded adapters others d d
  | advice {member ty} :
      Reworded adapters others (missingAdapter adapters member ty) (missingAdapter others member ty)

section Members

variable {adapters others : List AdapterBinding} {member : Member} {ty : Ty}
  {adapter adapter' : Option AdapterBinding} {note note' : Option Diagnostic}

theorem bindMember_typed (htype : member.valueType = some ty) :
    bindMember adapters member =
      match adapterFor adapters member (Storage.ofType ty) ty with
      | .ok adapter => ({ member with storage := some (Storage.ofType ty), adapter }, none)
      | .error d => ({ member with storage := some (Storage.ofType ty) }, some d) := by
  cases member
  cases htype
  rfl

theorem bindMember_untyped (htype : member.valueType = none) :
    bindMember adapters member = (member, none) := by
  simp [bindMember, htype]

/-- The only adapter for a type is the first one that is found. -/
theorem find?_of_only {bound : AdapterBinding} (hbound : bound ∈ adapters)
    (hsame : bound.valueType.same ty = true)
    (honly : ∀ other ∈ adapters, other.valueType.same ty = true → other = bound) :
    adapters.find? (fun bound => bound.valueType.same ty) = some bound := by
  cases hfind : adapters.find? fun bound => bound.valueType.same ty with
  | none => exact absurd hsame (List.find?_eq_none.1 hfind bound hbound)
  | some found =>
    have hfound : found.valueType.same ty = true :=
      List.find?_some (p := fun bound : AdapterBinding => bound.valueType.same ty) hfind
    rw [honly found (List.mem_of_find?_eq_some hfind) hfound]

theorem adapterFor_of_binds (h : Binds adapters member ty adapter note) :
    adapterFor adapters member (Storage.ofType ty) ty = note.elim (.ok adapter) .error := by
  cases h with
  | native hkind hown => simp [adapterFor, hkind, hown]
  | superfluous hkind hown => simp [adapterFor, hkind, hown, superfluousAdapter]
  | unsupported hadapted hsync => simp [adapterFor, hadapted, hsync, unsupportedSetter]
  | own hadapted hsync hown hsame => simp [adapterFor, hadapted, hsync, hown, hsame]
  | mismatched hadapted hsync hown hsame =>
    simp [adapterFor, hadapted, hsync, hown, hsame, mismatchedAdapter]
  | shared hadapted hsync hown hbound hsame honly =>
    simp [adapterFor, hadapted, hsync, hown, find?_of_only hbound hsame honly]
  | missing hadapted hsync hown hnone =>
    have hfind : adapters.find? (fun bound => bound.valueType.same ty) = none := by
      simpa using hnone
    simp [adapterFor, hadapted, hsync, hown, hfind, missingAdapter]

theorem Binds.adapter_eq_none {d : Diagnostic} (h : Binds adapters member ty adapter (some d)) :
    adapter = none := by
  cases h <;> rfl

/-- The cases exclude one another. -/
theorem Binds.unique (h : Binds adapters member ty adapter note)
    (h' : Binds adapters member ty adapter' note') : adapter = adapter' ∧ note = note' := by
  have hsame := (adapterFor_of_binds h).symm.trans (adapterFor_of_binds h')
  cases note with
  | some d =>
    cases note' with
    | some d' => exact ⟨h.adapter_eq_none.trans h'.adapter_eq_none.symm, by simpa using hsame⟩
    | none => cases hsame
  | none =>
    cases note' with
    | some d' => cases hsame
    | none => exact ⟨by simpa using hsame, rfl⟩

/-- A member to which no adapter was bound so far is bound as its case says. -/
theorem bindMember_of_binds (htype : member.valueType = some ty) (hnone : member.adapter = none)
    (h : Binds adapters member ty adapter note) :
    bindMember adapters member =
      ({ member with storage := some (Storage.ofType ty), adapter }, note) := by
  rw [bindMember_typed htype, adapterFor_of_binds h]
  cases note with
  | some d =>
    rw [h.adapter_eq_none, ← hnone]
    rfl
  | none => rfl

/-- The order of the trait's adapters only shows where advice names them. -/
theorem Binds.perm (hperm : adapters.Perm others) (h : Binds adapters member ty adapter note) :
    ∃ note', Binds others member ty adapter note' ∧
      Option.Rel (Reworded adapters others) note note' := by
  cases h with
  | native hkind hown => exact ⟨_, .native hkind hown, .none⟩
  | superfluous hkind hown => exact ⟨_, .superfluous hkind hown, .some .same⟩
  | unsupported hadapted hsync => exact ⟨_, .unsupported hadapted hsync, .some .same⟩
  | own hadapted hsync hown hsame => exact ⟨_, .own hadapted hsync hown hsame, .none⟩
  | mismatched hadapted hsync hown hsame =>
    exact ⟨_, .mismatched hadapted hsync hown hsame, .some .same⟩
  | shared hadapted hsync hown hbound hsame honly =>
    exact ⟨_, .shared hadapted hsync hown (hperm.mem_iff.1 hbound) hsame fun other hother =>
      honly other (hperm.mem_iff.2 hother), .none⟩
  | missing hadapted hsync hown hnone =>
    exact ⟨_, .missing hadapted hsync hown fun bound hbound =>
      hnone bound (hperm.mem_iff.2 hbound), .some .advice⟩

end Members

/-- A member as binding leaves it, with what is reported of it. -/
inductive BoundAs (adapters : List AdapterBinding) (member : Member) :
    Member × Option Diagnostic → Prop where
  | untyped (huntyped : member.access.isTyped = false) : BoundAs adapters member (member, none)
  | typed {ty adapter note} (htyped : member.access.isTyped = true)
      (htype : member.valueType = some ty) (hbinds : Binds adapters member ty adapter note) :
      BoundAs adapters member
        ({ member with storage := some (Storage.ofType ty), adapter }, note)

section Parsed

variable {adapters others : List AdapterBinding} {member : Member}

theorem BoundAs.eq_bindMember (hparsed : member.Parsed) {after : Member × Option Diagnostic}
    (h : BoundAs adapters member after) : after = bindMember adapters member := by
  cases h with
  | untyped huntyped =>
    have hfits := hparsed.shape.valueType
    rw [huntyped, Option.isSome_eq_false_iff, Option.isNone_iff_eq_none] at hfits
    exact (bindMember_untyped hfits).symm
  | typed _ htype hbinds => exact (bindMember_of_binds htype hparsed.adapter hbinds).symm

theorem boundAs_bindMember (hdistinct : Distinct adapters) (hparsed : member.Parsed) :
    BoundAs adapters member (bindMember adapters member) := by
  have hfits := hparsed.shape.valueType
  cases htyped : member.access.isTyped with
  | false =>
    rw [htyped, Option.isSome_eq_false_iff, Option.isNone_iff_eq_none] at hfits
    rw [bindMember_untyped hfits]
    exact .untyped htyped
  | true =>
    rw [htyped, Option.isSome_iff_exists] at hfits
    obtain ⟨ty, hty⟩ := hfits
    obtain ⟨adapter, note, hbinds⟩ := exists_binds hdistinct member ty
    rw [bindMember_of_binds hty hparsed.adapter hbinds]
    exact .typed htyped hty hbinds

theorem bindMember_reordered (hdistinct : Distinct adapters) (hperm : adapters.Perm others)
    (hparsed : member.Parsed) :
    (bindMember others member).1 = (bindMember adapters member).1 ∧
      Option.Rel (Reworded adapters others) (bindMember adapters member).2
        (bindMember others member).2 := by
  have hbound := boundAs_bindMember hdistinct hparsed
  generalize hafter : bindMember adapters member = after at hbound
  cases hbound with
  | untyped huntyped =>
    rw [← BoundAs.eq_bindMember hparsed (.untyped huntyped)]
    exact ⟨rfl, .none⟩
  | typed htyped htype hbinds =>
    obtain ⟨note', hbinds', hrel⟩ := hbinds.perm hperm
    rw [bindMember_of_binds htype hparsed.adapter hbinds']
    exact ⟨rfl, hrel⟩

end Parsed

theorem eq_map_of_forall₂ {R : α → β → Prop} {f : α → β} {as : List α} {bs : List β}
    (h : List.Forall₂ R as bs) (hf : ∀ a ∈ as, ∀ b, R a b → b = f a) : bs = as.map f := by
  induction h with
  | nil => rfl
  | cons hab _ ih =>
    rw [List.map_cons, hf _ List.mem_cons_self _ hab,
      ih fun a ha => hf a (List.mem_cons_of_mem _ ha)]

/-- Binding is exact. The adapters of a parsed trait are those of the attributes, without the later
ones for a type, which were reported. The stage that binds members then does to each of them in turn
what its case says, and reports what that says. With the adapters of the trait in another order it
binds the same ones and reports the same, but that advice names the adapters in their order. -/
theorem adapter_binding_exact {args item : List Tree} {schema : Schema}
    (h : Returns (parse args item) .collectAll schema) :
    (∃ decl front notes back, Parser.parseAll TraitDecl.parser item Position.start = .ok decl ∧
      (parse args item .collectAll).reported = front ++ (notes ++ back) ∧
      Gathers (decl.attrs.filter isAdapterAttr) schema.adapters notes ∧
      Distinct schema.adapters) ∧
    (∃ bound, List.Forall₂ (BoundAs schema.adapters) schema.members bound ∧
      (∀ others, List.Forall₂ (BoundAs schema.adapters) schema.members others → others = bound) ∧
      Stage.members.run .collectAll schema =
        ⟨{ schema with members := bound.map (·.1) }, bound.filterMap (·.2), false⟩) ∧
    ∀ others, schema.adapters.Perm others →
      (Stage.members.run .collectAll { schema with adapters := others }).value =
        { (Stage.members.run .collectAll schema).value with adapters := others } ∧
      List.Forall₂ (Reworded schema.adapters others)
        (Stage.members.run .collectAll schema).reported
        (Stage.members.run .collectAll { schema with adapters := others }).reported := by
  have hparsed := parse_parsed h
  obtain ⟨options, decl, -, hdecl, hparse⟩ := parse_parts h
  rw [hparse] at h ⊢
  obtain ⟨notes, hadapters, -, hall⟩ := collects_ofTrait h
  obtain ⟨all, more, hcollects, hgathers⟩ :=
    bindAdapters_gathers .nil (decl.attrs.filter isAdapterAttr)
  obtain ⟨rfl, rfl⟩ : all = schema.adapters ∧ more = notes := by
    have hsame := hcollects.symm.trans hadapters
    simpa using hsame
  have hdistinct := distinct_of_bindAdapters .nil hadapters.returns
  refine ⟨⟨decl, _, _, _, hdecl, (hall decl.items).reported, hgathers, hdistinct⟩, ?_, ?_⟩
  · refine ⟨schema.members.map (bindMember schema.adapters), ?_, ?_, ?_⟩
    · rw [List.forall₂_map_right_iff, List.forall₂_same]
      exact fun member hmember => boundAs_bindMember hdistinct (hparsed member hmember)
    · intro others hothers
      exact eq_map_of_forall₂ hothers fun member hmember after hafter =>
        hafter.eq_bindMember (hparsed member hmember)
    · simp [Stage.run, overList_collectAll, Pass.map, Function.comp_def]
  · intro others hperm
    have hother (member : Member) (hmember : member ∈ schema.members) :=
      bindMember_reordered hdistinct hperm (hparsed member hmember)
    have hmembers : schema.members.map (fun member => (bindMember others member).1) =
        schema.members.map fun member => (bindMember schema.adapters member).1 :=
      List.map_congr_left fun member hmember => (hother member hmember).1
    constructor
    · simp only [Stage.run, overList_collectAll, Pass.map, hmembers]
    · simp only [Stage.run, overList_collectAll, Pass.map]
      have hself : List.Forall₂ (fun member other => member ∈ schema.members ∧ member = other)
          schema.members schema.members :=
        List.forall₂_same.2 fun member hmember => ⟨hmember, rfl⟩
      refine List.rel_filterMap ?_ hself
      rintro member _ ⟨hmember, rfl⟩
      exact (hother member hmember).2

/-! ### A clash -/

/-- A declaration with two adapters for one type, and with methods that all have values of it: one
that has no adapter of its own, a synchronous one, and one with an adapter for another type. -/
def clashItem : List Tree :=
  (Tree.ofText? ("#[adapter(U => A)] #[adapter((U) => B)] trait P \x7b " ++
    "#[set] fn plain(&self, v: U); #[set_sync] fn sync(&self, v: U) -> Completion; " ++
    "#[set] #[adapter(V => C)] fn own(&self, v: U); #[clear] fn clear(&self); \x7d")).getD []

/-- The adapters of a schema, and of its members behind the stage that binds them. -/
def bindings (schema : Schema) : List String × List (Option String) :=
  let shown (binding : AdapterBinding) := Code.text binding.adapter.code
  let bound := (Stage.members.run .collectAll schema).value
  (schema.adapters.map shown, bound.members.map fun member => member.adapter.map shown)

theorem clash_outcome :
    (parse draftArgs clashItem .collectAll).value.map bindings =
        some (["A"], [some "A", none, none, none]) ∧
      (parse draftArgs clashItem .collectAll).reported.length = 1 := by
  decide +kernel

/-- The second adapter is reported and dropped. Of the members only the first one gets the other:
the next two are refused, and the last one has no values. -/
theorem adapter_binding_exact_clash : ∃ schema,
    Returns (parse draftArgs clashItem) .collectAll schema ∧
      (parse draftArgs clashItem .collectAll).reported.length = 1 ∧
      bindings schema = (["A"], [some "A", none, none, none]) ∧
      Distinct schema.adapters ∧
      ∃ bound, List.Forall₂ (BoundAs schema.adapters) schema.members bound ∧
        (Stage.members.run .collectAll schema).reported = bound.filterMap (·.2) := by
  obtain ⟨schema, hschema, hbindings⟩ := Option.map_eq_some_iff.1 clash_outcome.1
  obtain ⟨⟨_, _, _, _, _, _, _, hdistinct⟩, ⟨bound, hbound, -, hrun⟩, -⟩ :=
    adapter_binding_exact hschema
  exact ⟨schema, hschema, clash_outcome.2, hbindings, hdistinct, bound, hbound,
    congrArg Pass.reported hrun⟩

end Preferences.Schema
