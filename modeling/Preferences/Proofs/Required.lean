import Preferences.Proofs.Binding
import Preferences.Proofs.Compilation
import Preferences.Proofs.Literals

/-! The required methods of a trait, and the members that they declare. A compiled declaration has
one member for each required method, in turn, and none for anything else that the trait holds. What
the stages behind the parser give a member is its storage, its adapter and its default. -/

namespace Preferences.Schema

open Preferences.Source Preferences.Syntax Report

/-! ### Required methods -/

/-- The method that an item asks of an implementation, which is one without a body. What is kept as
code asks for none: types, macro calls, and items with a visibility or a `default` mark, which no
trait may have. -/
def requiredMethod? : TraitItem → Option Method
  | .method item => if item.body.isSome then none else some item
  | .const _ | .other _ => none

/-- The methods of a trait without a body. -/
def requiredMethods (decl : TraitDecl) : List Method := decl.items.filterMap requiredMethod?

theorem requiredMethod?_withoutMarks (item : TraitItem) :
    (requiredMethod? (withoutMarks item)).map (·.signature) =
      (requiredMethod? item).map (·.signature) := by
  cases item with
  | method item =>
    simp only [withoutMarks, requiredMethod?]
    split <;> rfl
  | const | other => rfl

/-- A trait without preference attributes asks for the same methods. -/
theorem requiredMethods_cleaned (decl : TraitDecl) :
    (requiredMethods (cleaned decl)).map (·.signature) =
      (requiredMethods decl).map (·.signature) := by
  simp only [requiredMethods, cleaned, List.map_filterMap, List.filterMap_map,
    Function.comp_def, requiredMethod?_withoutMarks]

/-! ### Declared members -/

/-- The member that a required method's signature and attributes make. -/
def declaredMember (method : Method) : Except Diagnostic Member :=
  memberOf method.signature (method.attrs.filter isAccessAttr) (method.attrs.filter isAdapterAttr)

/-- An item without a diagnostic declares a member if and only if it is a required method. -/
theorem gives_declaredBy {mode : Mode} {item : TraitItem}
    {found : Option DefaultConst × Option Member} (h : Gives (declaredBy item) mode found) :
    Option.Rel (fun method member => declaredMember method = .ok member) (requiredMethod? item)
      found.2 := by
  unfold declaredBy at h
  split at h
  · obtain ⟨const, -, h⟩ := gives_bind.1 h
    cases gives_pure.1 h
    exact .none
  · rename_i item
    dsimp only at h
    split at h
    · rename_i hbody
      obtain ⟨_, -, h⟩ := gives_bind.1 h
      cases gives_pure.1 h
      rw [requiredMethod?, if_pos hbody]
      exact .none
    · rename_i hbody
      obtain ⟨found, hfound, h⟩ := gives_bind.1 h
      cases gives_pure.1 h
      obtain ⟨member, hmember, rfl⟩ := gives_check.1 hfound
      rw [requiredMethod?, if_neg hbody]
      exact .some hmember
  · cases gives_pure.1 h
    exact .none

theorem gives_orFatal {mode : Mode} {result : Except SyntaxError α} {a : α} :
    Gives (orFatal result) mode a ↔ result = .ok a := by
  cases result with
  | ok b => simp [orFatal, gives_done]
  | error error => simp [orFatal, Gives, fatal]

theorem gives_schemaIn {mode : Mode} {options : Options} {decl : TraitDecl}
    {namespaceName : TextLiteral} {schema : Schema}
    (h : Gives (schemaIn options decl namespaceName) mode schema) :
    schema.decl = cleaned decl ∧ List.Forall₂ (fun method member =>
      declaredMember method = .ok member) (requiredMethods decl) schema.members := by
  obtain ⟨adapters, -, h⟩ := gives_bind.1 h
  obtain ⟨declared, hdeclared, h⟩ := gives_bind.1 h
  cases gives_pure.1 h
  exact ⟨rfl, List.rel_filterMap (fun _ _ h => gives_declaredBy h) (gives_each.1 hdeclared)⟩

theorem gives_ofTrait {mode : Mode} {options : Options} {decl : TraitDecl} {schema : Schema}
    (h : Gives (ofTrait options decl) mode schema) :
    ∃ namespaceName, Gives (schemaIn options decl namespaceName) mode schema := by
  unfold ofTrait at h
  split at h
  · cases h
  · dsimp only at h
    split at h
    · obtain ⟨_, hreport, -⟩ := gives_bind.1 h
      exact absurd hreport not_gives_report
    · exact ⟨_, h⟩

/-- A declaration that is parsed without a diagnostic: its trait, and a member for each method that
the trait requires. -/
theorem gives_parse {mode : Mode} {args item : List Tree} {schema : Schema}
    (h : Gives (parse args item) mode schema) :
    ∃ decl, Parser.parseAll TraitDecl.parser item Position.start = .ok decl ∧
      schema.decl = cleaned decl ∧ List.Forall₂ (fun method member =>
        declaredMember method = .ok member) (requiredMethods decl) schema.members := by
  obtain ⟨options, -, h⟩ := gives_bind.1 h
  obtain ⟨decl, hdecl, h⟩ := gives_bind.1 h
  obtain ⟨namespaceName, h⟩ := gives_ofTrait h
  exact ⟨decl, gives_orFatal.1 hdecl, gives_schemaIn h⟩

/-! ### Compiled members -/

/-- The member is the one that the method declares, with what was bound to it since. -/
def Declares (method : Method) (member : Member) : Prop :=
  ∃ declared storage adapter default, declaredMember method = .ok declared ∧
    member = { declared with storage, adapter, default }

/-- All that makes a member of a compiled declaration, as the method that declares it has it. -/
theorem declares_ok {method : Method} {member : Member} (h : Declares method member) :
    ∃ mark explicit params, method.attrs.filter isAccessAttr = [mark] ∧
      Access.ofPath? mark.path = some member.access ∧ keyName mark = .ok explicit ∧
      checkModifiers method.signature = .ok () ∧
      paramsAfterSelf method.signature = .ok params ∧
      shapeOf method.signature member.access explicit params =
        .ok ⟨member.key, member.valueType, member.valueParam⟩ ∧
      member.signature = method.signature := by
  obtain ⟨declared, storage, adapter, default, hdeclared, rfl⟩ := h
  have hparts := memberOf_ok hdeclared
  exact hparts

/-- A step that keeps a property of each member before it relates the members around it as `R` does,
and so do two such steps after one another. -/
theorem forall₂_comp_of_mem {R : α → β → Prop} {S : β → γ → Prop} {T : α → γ → Prop}
    {as : List α} {bs : List β} {cs : List γ} (hR : List.Forall₂ R as bs)
    (hS : List.Forall₂ S bs cs) (h : ∀ a ∈ as, ∀ b c, R a b → S b c → T a c) :
    List.Forall₂ T as cs := by
  induction hR generalizing cs with
  | nil =>
    cases hS
    exact .nil
  | @cons a b as bs hab _ ih =>
    obtain ⟨c, rest, hbc, hrest, rfl⟩ := List.forall₂_cons_left_iff.1 hS
    exact .cons (h a List.mem_cons_self b c hab hbc)
      (ih hrest fun a ha => h a (List.mem_cons_of_mem _ ha))

/-- Behind the parser only what is bound to the members changes. -/
theorem resolving_members {mode : Mode} {parsed schema : Schema}
    (hparsed : ∀ member ∈ parsed.members, member.Parsed)
    (h : Gives (resolving parsed Stage.all) mode schema) :
    schema.decl = parsed.decl ∧ List.Forall₂ (fun before after => ∃ storage adapter default,
      after = { before with storage, adapter, default }) parsed.members schema.members := by
  obtain ⟨stored, members, hstored, hmembers, -, rfl⟩ := gives_resolving.1 h
  refine ⟨rfl, forall₂_comp_of_mem hstored hmembers ?_⟩
  intro first hfirst before member hbind hdefault
  obtain ⟨-, storage, adapter, rfl⟩ := bindMember_bound (hparsed first hfirst).storage hbind
  obtain ⟨-, default, rfl⟩ := bindDefault_bound hdefault
  exact ⟨storage, adapter, default, rfl⟩

/-- The members of a compiled declaration, one for each method that its trait requires. -/
theorem compile_declares {mode : Mode} {args item : List Tree} {compiled : Compiled}
    (h : compile mode args item = .ok compiled) :
    ∃ decl, Parser.parseAll TraitDecl.parser item Position.start = .ok decl ∧
      compiled.schema.decl = cleaned decl ∧
      List.Forall₂ Declares (requiredMethods decl) compiled.schema.members := by
  obtain ⟨parsed, hparsed, hresolving, -⟩ := compile_stages h
  obtain ⟨decl, hdecl, hcleaned, hdeclared⟩ := gives_parse hparsed
  obtain ⟨hsame, hmembers⟩ := resolving_members (parse_parsed hparsed.returns) hresolving
  refine ⟨decl, hdecl, hsame.trans hcleaned, ?_⟩
  refine forall₂_comp_of_mem hdeclared hmembers fun method _ before member hbefore hafter => ?_
  obtain ⟨storage, adapter, default, hafter⟩ := hafter
  exact ⟨before, storage, adapter, default, hbefore, hafter⟩

/-- Every fixed key of a compiled declaration reads back. -/
theorem compile_readsBack {mode : Mode} {args item : List Tree} {compiled : Compiled}
    (h : compile mode args item = .ok compiled) {member : Member}
    (hmember : member ∈ compiled.schema.members) {lit : TextLiteral}
    (hkey : member.key = .fixed lit) : lit.ReadsBack := by
  obtain ⟨decl, -, -, hmembers⟩ := compile_declares h
  obtain ⟨method, -, declared, _, _, _, hdeclared, rfl⟩ := exists_mem_of_forall₂ hmembers hmember
  exact memberOf_readsBack hdeclared hkey

end Preferences.Schema
