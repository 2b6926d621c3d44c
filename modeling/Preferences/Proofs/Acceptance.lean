import Mathlib.Data.List.Pairwise
import Preferences.Proofs.Delegation
import Preferences.Proofs.Required

/-! What it takes for a trait to compile, without the order in which the stages find it: a namespace
and no generics, attributes that bind at most one adapter for each type, items that all declare
something sound, a method made of every member by itself, and one type for each key. -/

namespace Preferences.Schema

open Preferences.Source Preferences.Syntax Report

/-! ### Lists side by side -/

/-- What a composed relation goes through. -/
theorem exists_of_forall₂_comp {R : α → β → Prop} {S : β → γ → Prop} {as : List α} {cs : List γ}
    (h : List.Forall₂ (fun a c => ∃ b, R a b ∧ S b c) as cs) :
    ∃ bs, List.Forall₂ R as bs ∧ List.Forall₂ S bs cs := by
  induction h with
  | nil => exact ⟨[], .nil, .nil⟩
  | cons hfirst _ ih =>
    obtain ⟨b, hR, hS⟩ := hfirst
    obtain ⟨bs, hRs, hSs⟩ := ih
    exact ⟨b :: bs, .cons hR hRs, .cons hS hSs⟩

theorem map_eq_of_forall₂ {f : α → γ} {g : β → γ} {as : List α} {bs : List β}
    (h : List.Forall₂ (fun a b => f a = g b) as bs) : as.map f = bs.map g := by
  induction h with
  | nil => rfl
  | cons hfirst _ ih => rw [List.map_cons, List.map_cons, hfirst, ih]

/-! ### Adapters -/

/-- Two adapters for different types. -/
def AdapterBinding.Apart (a b : AdapterBinding) : Prop := a.valueType.same b.valueType = false

instance : Std.Symm AdapterBinding.Apart where
  symm a b h := by
    have hsymm : b.valueType.same a.valueType = a.valueType.same b.valueType := by
      rw [Bool.eq_iff_iff, Ty.same_iff, Ty.same_iff, eq_comm]
    exact hsymm.trans h

/-- No type has two adapters. -/
def Distinct (bound : List AdapterBinding) : Prop := bound.Pairwise AdapterBinding.Apart

theorem distinct_concat {bound : List AdapterBinding} {binding : AdapterBinding} :
    Distinct (bound ++ [binding]) ↔ Distinct bound ∧
      (bound.any fun earlier => earlier.valueType.same binding.valueType) = false := by
  simp [Distinct, AdapterBinding.Apart, List.pairwise_append]

/-- No other adapter is for the type that one adapter is for. -/
theorem Distinct.eq_of_same {adapters : List AdapterBinding} (h : Distinct adapters)
    {bound other : AdapterBinding} (hbound : bound ∈ adapters) (hother : other ∈ adapters) {ty : Ty}
    (hsame : bound.valueType.same ty = true) (hsame' : other.valueType.same ty = true) :
    other = bound := by
  by_contra hne
  have hapart : other.Apart bound := List.Pairwise.forall h hother hbound hne
  have htogether : other.valueType.same bound.valueType = true :=
    Ty.same_iff.2 ((Ty.same_iff.1 hsame').trans (Ty.same_iff.1 hsame).symm)
  exact Bool.false_ne_true (hapart.symm.trans htogether)

theorem Distinct.of_append {bound others : List AdapterBinding}
    (h : Distinct (bound ++ others)) : Distinct bound := (List.pairwise_append.1 h).1

/-- No type has two adapters, whatever is reported of the attributes. -/
theorem distinct_of_bindAdapters {mode : Mode} {attrs : List Attribute}
    {bound all : List AdapterBinding} (hbound : Distinct bound)
    (h : Returns (bindAdapters bound attrs) mode all) : Distinct all := by
  induction attrs generalizing bound with
  | nil =>
    cases returns_pure.1 h
    exact hbound
  | cons attr rest ih =>
    obtain ⟨found, -, h⟩ := returns_bind.1 h
    cases found with
    | none => exact ih hbound h
    | some binding =>
      dsimp only at h
      split at h
      · obtain ⟨_, -, h⟩ := returns_bind.1 h
        exact ih hbound h
      · rename_i hnew
        exact ih (distinct_concat.2 ⟨hbound, Bool.eq_false_iff.2 hnew⟩) h

/-- Adapters are bound without a diagnostic if every attribute makes one and no type gets two. -/
theorem gives_bindAdapters {mode : Mode} {attrs : List Attribute}
    {bound all : List AdapterBinding} (hbound : Distinct bound) :
    Gives (bindAdapters bound attrs) mode all ↔ ∃ found,
      List.Forall₂ (fun attr binding => adapterOf attr = .ok binding) attrs found ∧
        all = bound ++ found ∧ Distinct all := by
  induction attrs generalizing bound with
  | nil =>
    rw [bindAdapters, gives_pure]
    constructor
    · rintro rfl
      exact ⟨[], .nil, (List.append_nil _).symm, hbound⟩
    · rintro ⟨found, hfound, rfl, -⟩
      cases hfound
      exact (List.append_nil _).symm
  | cons attr rest ih =>
    rw [bindAdapters, gives_bind]
    constructor
    · rintro ⟨made, hmade, hrest⟩
      obtain ⟨binding, hbinding, rfl⟩ := gives_check.1 hmade
      dsimp only at hrest
      split at hrest
      · obtain ⟨_, hreport, -⟩ := gives_bind.1 hrest
        exact absurd hreport not_gives_report
      · rename_i hnew
        have hconcat := distinct_concat.2 ⟨hbound, Bool.eq_false_iff.2 hnew⟩
        obtain ⟨found, hfound, rfl, hall⟩ := (ih hconcat).1 hrest
        exact ⟨binding :: found, .cons hbinding hfound, by simp, hall⟩
    · rintro ⟨found, hfound, rfl, hall⟩
      obtain ⟨binding, others, hbinding, hothers, rfl⟩ := List.forall₂_cons_left_iff.1 hfound
      have hsplit : Distinct (bound ++ [binding] ++ others) :=
        List.append_cons bound binding others ▸ hall
      have hconcat := hsplit.of_append
      have hnew := (distinct_concat.1 hconcat).2
      refine ⟨some binding, gives_check.2 ⟨binding, hbinding, rfl⟩, ?_⟩
      dsimp only
      rw [if_neg (Bool.eq_false_iff.1 hnew)]
      exact (ih hconcat).2 ⟨others, hothers, List.append_cons bound binding others, hall⟩

/-! ### Parsed traits -/

/-- What makes a parsed schema: the adapters that the attributes bind, and what each item
declares. -/
structure Parts (mode : Mode) (options : Options) (decl : TraitDecl) (schema : Schema)
    (declared : List (Option DefaultConst × Option Member)) : Prop where
  named : options.namespaceName = some schema.namespaceName
  plain : decl.generics.isEmpty = true
  adapters : List.Forall₂ (fun attr binding => adapterOf attr = .ok binding)
    (decl.attrs.filter isAdapterAttr) schema.adapters
  distinct : Distinct schema.adapters
  items : List.Forall₂ (fun item found => Gives (declaredBy item) mode found) decl.items declared
  schema_eq : schema = {
    namespaceName := schema.namespaceName
    implName := (options.implName.map (·.text)).getD (bareName decl.name.text ++ "Impl")
    runtime := options.runtime.getD defaultRuntime
    decl := cleaned decl
    members := declared.filterMap (·.2)
    defaults := declared.filterMap (·.1)
    adapters := schema.adapters }

theorem gives_ofTrait_iff {mode : Mode} {options : Options} {decl : TraitDecl} {schema : Schema} :
    Gives (ofTrait options decl) mode schema ↔
      ∃ declared, Parts mode options decl schema declared := by
  unfold ofTrait
  cases hname : options.namespaceName with
  | none =>
    constructor
    · intro h
      cases h
    · rintro ⟨declared, hparts⟩
      cases hname.symm.trans hparts.named
  | some namespaceName =>
    cases hplain : decl.generics.isEmpty with
    | false =>
      constructor
      · intro h
        obtain ⟨_, hreport, -⟩ := gives_bind.1 h
        exact absurd hreport not_gives_report
      · rintro ⟨declared, hparts⟩
        cases hplain.symm.trans hparts.plain
    | true =>
      have hempty : Distinct [] := .nil
      show Gives (schemaIn options decl namespaceName) mode schema ↔ _
      simp only [schemaIn, gives_bind, gives_pure, gives_bindAdapters hempty, gives_each]
      constructor
      · rintro ⟨adapters, ⟨found, hfound, rfl, hdistinct⟩, declared, hdeclared, rfl⟩
        exact ⟨declared, hname, hplain, hfound, hdistinct, hdeclared, rfl⟩
      · rintro ⟨declared, hparts⟩
        refine ⟨schema.adapters, ⟨_, hparts.adapters, rfl, hparts.distinct⟩, declared,
          hparts.items, ?_⟩
        have hnamed := Option.some.inj (hname.symm.trans hparts.named)
        rw [hnamed]
        exact hparts.schema_eq.symm

/-! ### One type for each key -/

theorem bindMember_typedKey? (adapters : List AdapterBinding) (member : Member) :
    (bindMember adapters member).1.typedKey? = member.typedKey? := by
  unfold bindMember
  split
  · rfl
  · dsimp only
    split <;> rfl

theorem bindDefault_typedKey? (defaults : List DefaultConst) (member : Member) :
    (bindDefault defaults member).1.typedKey? = member.typedKey? := by
  unfold bindDefault
  split
  · split <;> rfl
  · rfl

/-- What a schema promises of keys concerns the keys and types that its members have, in any
order. -/
theorem oneType_iff {members : List Member} :
    OneType members ↔ ∀ key ty ty', some (key, ty) ∈ members.map Member.typedKey? →
      some (key, ty') ∈ members.map Member.typedKey? → ty.same ty' = true := by
  constructor
  · intro h key ty ty' hmem hmem'
    obtain ⟨m, hm, hkey⟩ := List.mem_map.1 hmem
    obtain ⟨n, hn, hkey'⟩ := List.mem_map.1 hmem'
    exact h m hm n hn key ty ty' hkey hkey'
  · intro h m hm n hn key ty ty' hkey hkey'
    exact h key ty ty' (List.mem_map.2 ⟨m, hm, hkey⟩) (List.mem_map.2 ⟨n, hn, hkey'⟩)

theorem OneType.congr {members others : List Member}
    (h : members.map Member.typedKey? = others.map Member.typedKey?) :
    OneType members ↔ OneType others := by
  rw [oneType_iff, oneType_iff, h]

theorem OneType.perm {members others : List Member} (h : OneType members)
    (hperm : members.Perm others) : OneType others := by
  intro m hm n hn
  exact h m (hperm.mem_iff.2 hm) n (hperm.mem_iff.2 hn)

/-- A member whose key has one type has no conflict with the first member of that key. -/
theorem conflict?_eq_none {before : List Member} {member : Member}
    (h : ∀ first ∈ before, ∀ key ty ty', first.typedKey? = some (key, ty) →
      member.typedKey? = some (key, ty') → ty.same ty' = true) :
    conflict? before member = none := by
  unfold conflict?
  cases hkey : member.typedKey? with
  | none => rfl
  | some entry =>
    obtain ⟨key, ty⟩ := entry
    simp only [Option.bind_eq_bind, Option.bind_some]
    generalize hfind : before.findSome? _ = found
    cases found with
    | none => rfl
    | some found =>
      obtain ⟨first, hmem, hfirst⟩ := List.exists_of_findSome?_eq_some hfind
      obtain ⟨⟨firstKey, firstTy⟩, htyped, hfound⟩ := Option.bind_eq_some_iff.1 hfirst
      by_cases heq : firstKey = key
      · subst heq
        simp only [if_pos] at hfound
        cases hfound
        have hsame := h first hmem firstKey firstTy ty htyped hkey
        simp [hsame]
      · simp [heq] at hfound

theorem conflictsAfter_eq_nil {before members : List Member} (h : OneType (before ++ members)) :
    conflictsAfter before members = [] := by
  induction members generalizing before with
  | nil => rfl
  | cons member rest ih =>
    have hfirst : conflict? before member = none :=
      conflict?_eq_none fun first hfirst => h first (List.mem_append_left _ hfirst) member
        (List.mem_append_right _ List.mem_cons_self)
    rw [List.append_cons] at h
    rw [conflictsAfter, hfirst, ih h]
    rfl

/-- Keys have no conflicts if and only if each has one type. -/
theorem conflictsAfter_eq_nil_iff {members : List Member} :
    conflictsAfter [] members = [] ↔ OneType members :=
  ⟨oneType_of_no_conflict, fun h => conflictsAfter_eq_nil h⟩

/-! ### Methods one by one -/

/-- The method that a schema makes of a declared member, by itself: its storage and its adapter are
bound, then its default, and its call is generated. -/
def made? (schema : Schema) (declared : Member) : Option Accessor :=
  match bindMember schema.adapters declared with
  | (stored, none) =>
    match bindDefault schema.defaults stored with
    | (member, none) => (accessorFor schema member.access member).toOption
    | (_, some _) => none
  | (_, some _) => none

theorem made?_eq_some {schema : Schema} {declared : Member} {accessor : Accessor} :
    made? schema declared = some accessor ↔ ∃ stored,
      bindMember schema.adapters declared = (stored, none) ∧ ∃ member,
        bindDefault schema.defaults stored = (member, none) ∧
          accessorFor schema member.access member = .ok accessor := by
  unfold made?
  rcases hbind : bindMember schema.adapters declared with ⟨stored, _ | _⟩
  · rcases hdefault : bindDefault schema.defaults stored with ⟨member, _ | _⟩
    · cases haccessor : accessorFor schema member.access member <;>
        simp [hdefault, haccessor, Except.toOption]
    · simp [hdefault]
  · simp

theorem accessorFor_members (schema : Schema) (members : List Member) (access : Access)
    (member : Member) :
    accessorFor { schema with members } access member = accessorFor schema access member := by
  cases access <;> rfl

/-- Binding changes no keys and no types. -/
theorem typedKeys_bound {adapters : List AdapterBinding} {defaults : List DefaultConst}
    {declared stored members : List Member}
    (hstored : List.Forall₂ (fun member after => bindMember adapters member = (after, none))
      declared stored)
    (hmembers : List.Forall₂ (fun member after => bindDefault defaults member = (after, none))
      stored members) :
    members.map Member.typedKey? = declared.map Member.typedKey? := by
  have hfirst : declared.map Member.typedKey? = stored.map Member.typedKey? := by
    refine map_eq_of_forall₂ (hstored.imp fun member after hbind => ?_)
    rw [← bindMember_typedKey? adapters member, hbind]
  have hsecond : stored.map Member.typedKey? = members.map Member.typedKey? := by
    refine map_eq_of_forall₂ (hmembers.imp fun member after hdefault => ?_)
    rw [← bindDefault_typedKey? defaults member, hdefault]
  exact (hfirst.trans hsecond).symm

/-- A parsed schema gets through all later stages if and only if a method is made of every member
by itself and each key has one type. -/
theorem gives_methods_iff {mode : Mode} {parsed : Schema} {methods : List Accessor} :
    (∃ schema, Gives (resolving parsed Stage.all) mode schema ∧
      Gives (accessors schema) mode methods) ↔
    List.Forall₂ (fun declared accessor => made? parsed declared = some accessor) parsed.members
      methods ∧ OneType parsed.members := by
  simp only [gives_resolving, gives_accessors, conflictsAfter_eq_nil_iff, made?_eq_some]
  constructor
  · rintro ⟨_, ⟨stored, members, hstored, hmembers, hone, rfl⟩, hmethods⟩
    refine ⟨?_, (OneType.congr (typedKeys_bound hstored hmembers)).1 hone⟩
    have hrest : List.Forall₂ (fun stored accessor => ∃ member,
        bindDefault parsed.defaults stored = (member, none) ∧
          accessorFor parsed member.access member = .ok accessor) stored methods :=
      forall₂_comp_of_mem hmembers hmethods fun _ _ member accessor hdefault hmade =>
        ⟨member, hdefault, accessorFor_members parsed members member.access member ▸ hmade⟩
    exact forall₂_comp_of_mem hstored hrest fun _ _ stored accessor hbind hmade =>
      ⟨stored, hbind, hmade⟩
  · rintro ⟨hmade, hone⟩
    obtain ⟨stored, hstored, hrest⟩ := exists_of_forall₂_comp hmade
    obtain ⟨members, hmembers, hmethods⟩ := exists_of_forall₂_comp hrest
    refine ⟨{ parsed with members }, ⟨stored, members, hstored, hmembers, ?_, rfl⟩, ?_⟩
    · exact (OneType.congr (typedKeys_bound hstored hmembers)).2 hone
    · exact hmethods.imp fun member accessor hmade =>
        (accessorFor_members parsed members member.access member).trans hmade

end Preferences.Schema
