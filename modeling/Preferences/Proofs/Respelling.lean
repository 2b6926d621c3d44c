import Preferences.Proofs.Parentheses

/-! Traits with other parentheses around types. As long as each required method reads a reference
written directly in both or in neither, the two traits compile to the same: in either mode both
compile or none does, and what is bound to their members is the same. -/

namespace Preferences.Schema

open Preferences.Source Preferences.Syntax Report

/-! ### Items -/

theorem declaration_of_collects {item : TraitItem} {found : Option DefaultConst × Option Member}
    {ds : List Diagnostic} (h : Collects (declaredBy item) found ds) :
    declaration item = found ∧ complaints item = ds := by
  rw [declaration, complaints, h]
  exact ⟨rfl, rfl⟩

theorem declaration_const (item : ConstItem) :
    declaration (.const item) = ((defaultOf item).toOption.join, none) ∧
      complaints (.const item) = (refusal? (defaultOf item)).toList := by
  apply declaration_of_collects
  rw [← List.append_nil (refusal? _).toList]
  exact collects_bind (collects_check _) (collects_done _)

theorem requiredMethod?_required {method : Method} (h : method.body = none) :
    requiredMethod? (.method method) = some method := by
  rw [requiredMethod?, h]
  rfl

theorem declaration_required {method : Method} (h : method.body = none) :
    declaration (.method method) = (none, (declaredMember method).toOption) ∧
      complaints (.method method) = (refusal? (declaredMember method)).toList :=
  declaration_of_collects (collects_required h)

/-- A provided method declares nothing, and may have no attribute that selects an access or binds an
adapter. -/
theorem declaration_provided {method : Method} (h : method.body.isSome = true) :
    declaration (.method method) = (none, none) ∧ (complaints (.method method) = [] ↔
      method.attrs.filter isAccessAttr = [] ∧ method.attrs.filter isAdapterAttr = []) := by
  have hchecked (access adapters : List Attribute) : ∃ ds,
      Collects (checkProvided method.signature access adapters) () ds ∧
        (ds = [] ↔ access = [] ∧ adapters = []) := by
    cases access with
    | nil =>
      cases adapters with
      | nil => exact ⟨[], rfl, by simp⟩
      | cons => exact ⟨[_], rfl, by simp⟩
    | cons =>
      cases adapters with
      | nil => exact ⟨[_], rfl, by simp⟩
      | cons => exact ⟨[_, _], rfl, by simp⟩
  obtain ⟨ds, hds, hnil⟩ := hchecked (method.attrs.filter isAccessAttr)
    (method.attrs.filter isAdapterAttr)
  have hitem : Collects (declaredBy (.method method)) (none, none) (ds ++ []) := by
    rw [declaredBy, if_pos h]
    exact collects_bind hds (collects_done _)
  obtain ⟨hfound, hcomplaints⟩ := declaration_of_collects hitem
  rw [hcomplaints, List.append_nil]
  exact ⟨hfound, hnil⟩

theorem refusals_of_rel {R : α → β → Prop} {x : Except Diagnostic α} {y : Except Diagnostic β}
    (h : Option.Rel R x.toOption y.toOption) :
    (refusal? x).toList = [] ↔ (refusal? y).toList = [] := by
  cases x <;> cases y <;> cases h <;> simp [refusal?]

theorem defaultOf_alike {a b : ConstItem} (h : a.Alike b) :
    Option.Rel (Option.Rel DefaultConst.Alike) (defaultOf a).toOption (defaultOf b).toOption := by
  cases h with
  | mk hty =>
    unfold defaultOf
    dsimp only
    split
    · exact .some .none
    · rename_i mark _
      split
      · exact .none
      · cases keyName mark with
        | error => exact .none
        | ok lit => exact .some (.some ⟨rfl, rfl, hty⟩)
    · exact .none

/-- Both methods read a reference or neither does. -/
def SameReference (a b : Method) : Prop := ReadsReference a ↔ ReadsReference b

theorem declaredMember_rel {a b : Method} (h : a.Alike b) (hsame : SameReference a b) :
    Option.Rel Member.Alike (declaredMember a).toOption (declaredMember b).toOption := by
  cases hm : declaredMember a with
  | ok m =>
    obtain ⟨n, hn, halike⟩ := declaredMember_alike h hm (mt hsame.2 (not_readsReference hm))
    rw [hn]
    exact .some halike
  | error d =>
    cases hn : declaredMember b with
    | error => exact .none
    | ok n =>
      obtain ⟨m, hm', -⟩ := declaredMember_alike h.symm hn (mt hsame.1 (not_readsReference hn))
      rw [hm'] at hm
      cases hm

/-- Items that declare the same but for parentheses, with complaints about both or neither. -/
structure DeclareAlike (item other : TraitItem) : Prop where
  default : Option.Rel DefaultConst.Alike (declaration item).1 (declaration other).1
  member : Option.Rel Member.Alike (declaration item).2 (declaration other).2
  complaints : complaints item = [] ↔ complaints other = []

theorem declareAlike_const {a b : ConstItem} (h : a.Alike b) :
    DeclareAlike (.const a) (.const b) := by
  obtain ⟨hfound, hcomplaints⟩ := declaration_const a
  obtain ⟨hfound', hcomplaints'⟩ := declaration_const b
  have hrel := defaultOf_alike h
  refine ⟨?_, ?_, ?_⟩
  · rw [hfound, hfound']
    generalize (defaultOf a).toOption = found at hrel
    generalize (defaultOf b).toOption = found' at hrel
    cases hrel with
    | none => exact .none
    | some h => exact h
  · rw [hfound, hfound']
    exact .none
  · rw [hcomplaints, hcomplaints']
    exact refusals_of_rel hrel

theorem declareAlike_provided {a b : Method} (h : a.Alike b) (hbody : a.body.isSome = true) :
    DeclareAlike (.method a) (.method b) := by
  obtain ⟨hfound, hcomplaints⟩ := declaration_provided hbody
  obtain ⟨hfound', hcomplaints'⟩ := declaration_provided (h.body ▸ hbody)
  have hadapters : a.attrs.filter isAdapterAttr = [] ↔ b.attrs.filter isAdapterAttr = [] := by
    rw [← List.length_eq_zero_iff, (adapterMarks_alike h.attrs).length_eq,
      List.length_eq_zero_iff]
  refine ⟨?_, ?_, ?_⟩
  · rw [hfound, hfound']
    exact .none
  · rw [hfound, hfound']
    exact .none
  · rw [hcomplaints, hcomplaints', accessMarks_alike h.attrs, hadapters]

theorem declareAlike_required {a b : Method} (h : a.Alike b) (hbody : a.body = none)
    (hsame : SameReference a b) : DeclareAlike (.method a) (.method b) := by
  obtain ⟨hfound, hcomplaints⟩ := declaration_required hbody
  obtain ⟨hfound', hcomplaints'⟩ := declaration_required (h.body.trans hbody)
  have hrel := declaredMember_rel h hsame
  refine ⟨?_, ?_, ?_⟩
  · rw [hfound, hfound']
    exact .none
  · rw [hfound, hfound']
    exact hrel
  · rw [hcomplaints, hcomplaints']
    exact refusals_of_rel hrel

theorem declareAlike_of_alike {item other : TraitItem} (h : item.Alike other)
    (hsame : Option.Rel SameReference (requiredMethod? item) (requiredMethod? other)) :
    DeclareAlike item other := by
  cases h with
  | const h => exact declareAlike_const h
  | other => exact ⟨.none, .none, .rfl⟩
  | @method a b h =>
    cases hbody : a.body with
    | some body => exact declareAlike_provided h (by rw [hbody]; rfl)
    | none =>
      rw [requiredMethod?_required hbody, requiredMethod?_required (h.body.trans hbody)] at hsame
      cases hsame with
      | some hsame => exact declareAlike_required h hbody hsame

/-! ### Traits -/

/-- Each required method reads a reference, written directly, in both traits or in neither. -/
def SameReferences (decl other : TraitDecl) : Prop :=
  List.Forall₂ SameReference (requiredMethods decl) (requiredMethods other)

theorem requiredMethod?_alike {item other : TraitItem} (h : item.Alike other) :
    (requiredMethod? item).isSome = (requiredMethod? other).isSome := by
  cases h with
  | const => rfl
  | other => rfl
  | method h =>
    cases h with
    | mk => rw [requiredMethod?, requiredMethod?]; split <;> rfl

theorem items_alike {items others : List TraitItem}
    (h : List.Forall₂ TraitItem.Alike items others)
    (hsame : List.Forall₂ SameReference (items.filterMap requiredMethod?)
      (others.filterMap requiredMethod?)) :
    List.Forall₂ DeclareAlike items others := by
  induction h with
  | nil => exact .nil
  | @cons item other _ _ hitem _ ih =>
    have hrequired := requiredMethod?_alike hitem
    have hdeclare := declareAlike_of_alike hitem
    rw [List.filterMap_cons, List.filterMap_cons] at hsame
    generalize requiredMethod? item = found at hsame hrequired hdeclare
    generalize requiredMethod? other = found' at hsame hrequired hdeclare
    cases found with
    | none =>
      cases found' with
      | none => exact .cons (hdeclare .none) (ih hsame)
      | some method' => cases hrequired
    | some method =>
      cases found' with
      | none => cases hrequired
      | some method' =>
        obtain ⟨hfirst, hrest⟩ := List.forall₂_cons.1 hsame
        exact .cons (hdeclare (.some hfirst)) (ih hrest)

theorem any_same_alike {bound bound' : List AdapterBinding} {binding binding' : AdapterBinding}
    (hbound : List.Forall₂ AdapterBinding.Alike bound bound') (h : binding.Alike binding') :
    (bound.any fun earlier => earlier.valueType.same binding.valueType) =
      bound'.any fun earlier => earlier.valueType.same binding'.valueType := by
  induction hbound with
  | nil => rfl
  | cons hfirst _ ih =>
    rw [List.any_cons, List.any_cons, hfirst.valueType.same h.valueType, ih]

/-- Attributes side by side bind adapters side by side. -/
theorem bindAdapters_alike {attrs others : List Attribute} {bound bound' : List AdapterBinding}
    (hattrs : List.Forall₂ Attribute.Alike attrs others)
    (hbound : List.Forall₂ AdapterBinding.Alike bound bound') :
    ∃ all notes all' notes', Collects (bindAdapters bound attrs) all notes ∧
      Collects (bindAdapters bound' others) all' notes' ∧
      List.Forall₂ AdapterBinding.Alike all all' ∧ (notes = [] ↔ notes' = []) := by
  induction hattrs generalizing bound bound' with
  | nil => exact ⟨bound, [], bound', [], collects_done _, collects_done _, hbound, .rfl⟩
  | @cons attr attr' rest rest' hattr _ ih =>
    have hmade := adapterOf_alike hattr
    have hcheck := collects_check (adapterOf attr)
    have hcheck' := collects_check (adapterOf attr')
    have hnotes := refusals_of_rel hmade
    rw [bindAdapters, bindAdapters]
    generalize (adapterOf attr).toOption = found at hmade hcheck
    generalize (adapterOf attr').toOption = found' at hmade hcheck'
    cases hmade with
    | none =>
      obtain ⟨all, notes, all', notes', hall, hall', halike, hnil⟩ := ih hbound
      refine ⟨all, _, all', _, collects_bind hcheck hall, collects_bind hcheck' hall', halike, ?_⟩
      rw [List.append_eq_nil_iff, List.append_eq_nil_iff, hnotes, hnil]
    | @some binding binding' hbinding =>
      have hany := any_same_alike hbound hbinding
      cases hsame : bound'.any fun earlier => earlier.valueType.same binding'.valueType with
      | true =>
        obtain ⟨all, notes, all', notes', hall, hall', halike, hnil⟩ := ih hbound
        refine ⟨all, _ ++ ([alreadyBound binding] ++ notes), all',
          _ ++ ([alreadyBound binding'] ++ notes'), collects_bind hcheck ?_,
          collects_bind hcheck' ?_, halike, by simp⟩
        · dsimp only
          rw [hany, if_pos hsame]
          exact collects_bind (collects_report _) hall
        · dsimp only
          rw [if_pos hsame]
          exact collects_bind (collects_report _) hall'
      | false =>
        obtain ⟨all, notes, all', notes', hall, hall', halike, hnil⟩ :=
          ih (List.rel_append hbound (.cons hbinding .nil))
        refine ⟨all, _ ++ notes, all', _ ++ notes', collects_bind hcheck ?_,
          collects_bind hcheck' ?_, halike, ?_⟩
        · dsimp only
          rw [hany, if_neg (Bool.eq_false_iff.1 hsame)]
          exact hall
        · dsimp only
          rw [if_neg (Bool.eq_false_iff.1 hsame)]
          exact hall'
        · rw [List.append_eq_nil_iff, List.append_eq_nil_iff, hnotes, hnil]

/-- A trait with a namespace is read item by item, behind its adapters. -/
theorem collects_named {options : Options} {decl : TraitDecl} {namespaceName : TextLiteral}
    {adapters : List AdapterBinding} {notes : List Diagnostic}
    (hname : options.namespaceName = some namespaceName)
    (h : Collects (bindAdapters [] (decl.attrs.filter isAdapterAttr)) adapters notes) :
    ∃ schema, schema.adapters = adapters ∧
      schema.members = decl.items.filterMap (fun item => (declaration item).2) ∧
      schema.defaults = decl.items.filterMap (fun item => (declaration item).1) ∧
      Collects (ofTrait options decl) schema
        (genericComplaints decl ++ (notes ++ decl.items.flatMap complaints)) := by
  have hall := collects_generic decl (@collects_schemaIn options decl namespaceName _ _ h)
  unfold ofTrait
  rw [hname]
  refine ⟨_, ?_, ?_, ?_, hall⟩ <;> rfl

theorem ofTrait_alike {options : Options} {decl other : TraitDecl} {schema : Schema}
    {ds : List Diagnostic} (h : decl.Alike other) (hsame : SameReferences decl other)
    (hcollects : Collects (ofTrait options decl) schema ds) :
    ∃ next es, Collects (ofTrait options other) next es ∧ schema.Alike next ∧
      (ds = [] ↔ es = []) := by
  obtain ⟨namespaceName, hname, -⟩ := returns_ofTrait hcollects.returns
  cases h with
  | @mk attrs items hattrs hitems =>
    have hdeclare := items_alike hitems hsame
    obtain ⟨all, notes, all', notes', hall, hall', hadapters, hnotes⟩ :=
      bindAdapters_alike (adapterMarks_alike hattrs) .nil
    obtain ⟨found, hfound, hmembers, hdefaults, hcollected⟩ := collects_named hname hall
    have hother := @collects_named options { decl with attrs, items } _ _ _ hname hall'
    obtain ⟨next, hnext, hmembers', hdefaults', hcollected'⟩ := hother
    obtain ⟨rfl, rfl⟩ : schema = found ∧ ds = _ := by
      have hboth := hcollects.symm.trans hcollected
      simpa using hboth
    refine ⟨next, _, hcollected', ⟨?_, ?_, ?_⟩, ?_⟩
    · rw [hmembers, hmembers']
      exact List.rel_filterMap (fun _ _ hitem => hitem.member) hdeclare
    · rw [hdefaults, hdefaults']
      exact List.rel_filterMap (fun _ _ hitem => hitem.default) hdeclare
    · rw [hfound, hnext]
      exact hadapters
    · have hcomplaints : decl.items.flatMap complaints = [] ↔ items.flatMap complaints = [] := by
        rw [List.flatMap_eq_nil_iff, List.flatMap_eq_nil_iff]
        exact forall_mem_of_forall₂ hdeclare fun _ _ hitem => hitem.complaints
      rw [List.append_eq_nil_iff, List.append_eq_nil_iff, List.append_eq_nil_iff,
        List.append_eq_nil_iff, hnotes, hcomplaints]
      rfl

/-! ### Compilation -/

theorem ofTrait_parsed {mode : Mode} {options : Options} {decl : TraitDecl} {schema : Schema}
    (h : Returns (ofTrait options decl) mode schema) :
    ∀ member ∈ schema.members, member.Parsed := by
  obtain ⟨_, -, h⟩ := returns_ofTrait h
  intro member hmember
  obtain ⟨_, _, _, hmade⟩ := schemaIn_member h hmember
  exact memberOf_parsed hmade

/-- A run without a diagnostic is the same in both modes. -/
theorem gives_iff_collects {r : Report α} (hr : Lawful r) {mode : Mode} {a : α} :
    Gives r mode a ↔ Collects r a [] := by
  cases mode with
  | failFast => exact hr.gives_iff
  | collectAll => exact .rfl

theorem collects_resolving_iff {parsed schema : Schema} :
    Collects (resolving parsed Stage.all) schema [] ↔
      laterNotes parsed = [] ∧ (resolve .collectAll parsed Stage.all).schema = schema := by
  unfold Collects resolving laterNotes
  rw [resolve_collectAll]
  simp [and_comm]

/-- A trait compiles, in either mode, if and only if neither its parser nor a later stage reports
anything when all is collected. -/
theorem compileTrait_iff {mode : Mode} {args : List Tree} {decl : TraitDecl} {schema : Schema} :
    (∃ compiled, compileTrait mode args decl = .ok compiled ∧ compiled.schema = schema) ↔
      ∃ options parsed, Options.ofTrees args = .ok options ∧
        Collects (ofTrait options decl) parsed [] ∧ laterNotes parsed = [] ∧
        (resolve .collectAll parsed Stage.all).schema = schema := by
  simp only [compileTrait_eq_ok_iff, ← collects_resolving_iff,
    gives_iff_collects (ofTrait_lawful _ _), gives_iff_collects (resolving_lawful _ _)]
  constructor
  · rintro ⟨compiled, ⟨options, parsed, hoptions, hparsed, hresolving, -⟩, rfl⟩
    exact ⟨options, parsed, hoptions, hparsed, hresolving⟩
  · rintro ⟨options, parsed, hoptions, hparsed, hresolving⟩
    have hmembers := ofTrait_parsed hparsed.returns
    obtain ⟨methods, hmethods⟩ :=
      gives_accessors_of_resolved (resolved_members hmembers hresolving).1
    exact ⟨⟨schema, methods⟩, ⟨options, parsed, hoptions, hparsed, hresolving, hmethods mode⟩, rfl⟩

theorem SameReferences.symm {decl other : TraitDecl} (h : SameReferences decl other) :
    SameReferences other decl := forall₂_symm (fun _ _ => Iff.symm) h

/-- A trait that compiles still does so with other parentheses, to a schema that is alike. -/
theorem compileTrait_alike {mode : Mode} {args : List Tree} {decl other : TraitDecl}
    {compiled : Compiled} (h : decl.Alike other) (hsame : SameReferences decl other)
    (hcompile : compileTrait mode args decl = .ok compiled) :
    ∃ respelled, compileTrait mode args other = .ok respelled ∧
      compiled.schema.Alike respelled.schema := by
  obtain ⟨options, parsed, hoptions, hparsed, hlater, hschema⟩ :=
    compileTrait_iff.1 ⟨compiled, hcompile, rfl⟩
  obtain ⟨next, es, hnext, halike, hnil⟩ := ofTrait_alike h hsame hparsed
  obtain rfl := hnil.1 rfl
  obtain ⟨respelled, hrespelled, hschema'⟩ := (@compileTrait_iff mode args other _).2
    ⟨options, next, hoptions, hnext, halike.laterNotes.1 hlater, rfl⟩
  refine ⟨respelled, hrespelled, ?_⟩
  rw [← hschema, hschema']
  exact halike.resolved

/-- Parentheses do not matter, as long as each required method reads a reference written directly in
both traits or in neither. In either mode a trait compiles if and only if it does with other
parentheses, and the two schemas are alike then: so are their members, with the same storage, the
same place of the default and the same path of the adapter, and their defaults. Also where something
is reported, the same is declared, and the same is bound when all is collected. -/
theorem compile_parenthesized {args item : List Tree} {decl other : TraitDecl}
    (hparse : Parser.parseAll TraitDecl.parser item Position.start = .ok decl)
    (halike : decl.Alike other) (hsame : SameReferences decl other) :
    (∀ tokens, Parser.parseAll TraitDecl.parser tokens Position.start = .ok other →
      parse args tokens = parsedTrait args other ∧
        ∀ mode, compile mode args tokens = compileTrait mode args other) ∧
    (∀ mode, (∃ compiled, compile mode args item = .ok compiled) ↔
      ∃ respelled, compileTrait mode args other = .ok respelled) ∧
    (∀ mode compiled respelled, compile mode args item = .ok compiled →
      compileTrait mode args other = .ok respelled → compiled.schema.Alike respelled.schema) ∧
    ∀ schema, Returns (parse args item) .collectAll schema → ∃ next,
      Returns (parsedTrait args other) .collectAll next ∧ schema.Alike next ∧
      (resolve .collectAll schema Stage.all).schema.Alike
        (resolve .collectAll next Stage.all).schema := by
  simp only [compile_eq_compileTrait hparse, parse_eq_parsedTrait hparse]
  refine ⟨fun tokens htokens => ⟨parse_eq_parsedTrait htokens, compile_eq_compileTrait htokens⟩,
    fun mode => ⟨?_, ?_⟩, ?_, ?_⟩
  · rintro ⟨compiled, hcompile⟩
    obtain ⟨respelled, hrespelled, -⟩ := compileTrait_alike halike hsame hcompile
    exact ⟨respelled, hrespelled⟩
  · rintro ⟨respelled, hrespelled⟩
    obtain ⟨compiled, hcompile, -⟩ := compileTrait_alike halike.symm hsame.symm hrespelled
    exact ⟨compiled, hcompile⟩
  · intro mode compiled respelled hcompile hrespelled
    obtain ⟨found, hfound, hschema⟩ := compileTrait_alike halike hsame hcompile
    rw [hrespelled] at hfound
    cases hfound
    exact hschema
  · intro schema hschema
    obtain ⟨options, hoptions, hdeclared⟩ := returns_bind.1 hschema
    obtain ⟨next, es, hnext, hnextAlike, -⟩ :=
      ofTrait_alike halike hsame (collects_of_returns hdeclared)
    exact ⟨next, returns_bind.2 ⟨options, hoptions, hnext.returns⟩, hnextAlike,
      hnextAlike.resolved⟩

end Preferences.Schema

namespace Preferences.Syntax

/-! ### One more pair of parentheses -/

def Param.parenthesized : Param → Param
  | .self receiver => .self receiver
  | .typed attrs pattern ty => .typed attrs pattern (.paren ty.pos ty)

def Method.parenthesized (method : Method) : Method :=
  { method with signature := { method.signature with
      params := method.signature.params.map Param.parenthesized
      output := method.signature.output.map fun ty => .paren ty.pos ty } }

def TraitItem.parenthesized : TraitItem → TraitItem
  | .const item => .const { item with ty := .paren item.ty.pos item.ty }
  | .method item => .method item.parenthesized
  | .other code => .other code

/-- A trait with parentheses around the types of its constants, parameters and results. -/
def TraitDecl.parenthesized (decl : TraitDecl) : TraitDecl :=
  { decl with items := decl.items.map TraitItem.parenthesized }

theorem Method.alike_parenthesized (method : Method) : method.Alike method.parenthesized := by
  refine .mk (List.forall₂_same.2 fun _ _ => .same) (.mk ?_ ?_)
  · rw [List.forall₂_map_right_iff, List.forall₂_same]
    intro param _
    cases param with
    | self => exact .self
    | typed => exact .typed rfl
  · cases method.signature.output with
    | none => exact .none
    | some ty => exact .some (.same rfl)

theorem TraitDecl.alike_parenthesized (decl : TraitDecl) : decl.Alike decl.parenthesized := by
  refine .mk (List.forall₂_same.2 fun _ _ => .same) ?_
  rw [List.forall₂_map_right_iff, List.forall₂_same]
  intro item _
  cases item with
  | const => exact .const (.mk rfl)
  | method item => exact .method item.alike_parenthesized
  | other => exact .other

end Preferences.Syntax

namespace Preferences.Schema

open Preferences.Source Preferences.Syntax

theorem requiredMethods_parenthesized (decl : TraitDecl) :
    requiredMethods decl.parenthesized = (requiredMethods decl).map Method.parenthesized := by
  have hitem (item : TraitItem) : requiredMethod? item.parenthesized =
      (requiredMethod? item).map Method.parenthesized := by
    cases item with
    | const | other => rfl
    | method item =>
      rw [TraitItem.parenthesized, requiredMethod?, requiredMethod?]
      show (if item.body.isSome then none else some item.parenthesized) = _
      split <;> rfl
  simp only [requiredMethods, TraitDecl.parenthesized, List.filterMap_map, List.map_filterMap,
    Function.comp_def, hitem]

/-- Parentheses around a result write no reference in it directly. -/
theorem readsReference_of_parenthesized {method : Method}
    (h : ReadsReference method.parenthesized) : ReadsReference method := by
  obtain ⟨mark, hmark, access, hselects, hreference⟩ := h
  refine ⟨mark, hmark, access, hselects, ?_⟩
  simp only [Method.parenthesized] at hreference
  generalize method.signature.output = output at hreference ⊢
  cases output with
  | none => cases hreference
  | some ty =>
    cases hreference with
    | get hreference => cases hreference
    | observe hobservable hreference =>
      cases hobservable with
      | bare hform => cases hform
      | paren hobservable => exact .observe hobservable hreference

theorem sameReferences_parenthesized {decl : TraitDecl}
    (h : ∀ method ∈ requiredMethods decl, ¬ReadsReference method) :
    SameReferences decl decl.parenthesized := by
  unfold SameReferences
  rw [requiredMethods_parenthesized, List.forall₂_map_right_iff, List.forall₂_same]
  intro method hmethod
  exact iff_of_false (h method hmethod) fun hreads =>
    h method hmethod (readsReference_of_parenthesized hreads)

/-- No required method of a compiled declaration reads a reference that is written directly. -/
theorem compile_owned {mode : Mode} {args item : List Tree} {compiled : Compiled}
    (h : compile mode args item = .ok compiled) :
    ∃ decl, Parser.parseAll TraitDecl.parser item Position.start = .ok decl ∧
      ∀ method ∈ requiredMethods decl, ¬ReadsReference method := by
  obtain ⟨decl, hparse, -, hdeclares⟩ := compile_declares h
  refine ⟨decl, hparse, fun method hmethod => ?_⟩
  obtain ⟨_, -, _, _, _, _, hdeclared, -⟩ :=
    exists_mem_of_forall₂ (List.Forall₂.flip hdeclares) hmethod
  exact not_readsReference hdeclared

/-- The declaration of the label with all types in parentheses, some of which had some before,
compiles to a schema that is alike. -/
theorem compile_parenthesized_label : ∃ decl compiled respelled,
    Parser.parseAll TraitDecl.parser labelItem Position.start = .ok decl ∧
      decl.Alike decl.parenthesized ∧ SameReferences decl decl.parenthesized ∧
      compile .failFast labelArgs labelItem = .ok compiled ∧
      compileTrait .failFast labelArgs decl.parenthesized = .ok respelled ∧
      compiled.schema.Alike respelled.schema := by
  obtain ⟨compiled, hcompile, -⟩ := compile_of_outline label_outline
  obtain ⟨decl, hparse, howned⟩ := compile_owned hcompile
  have halike := decl.alike_parenthesized
  have hsame := sameReferences_parenthesized howned
  obtain ⟨-, hiff, hschemas, -⟩ := compile_parenthesized hparse halike hsame
  obtain ⟨respelled, hrespelled⟩ := (hiff .failFast).1 ⟨compiled, hcompile⟩
  exact ⟨decl, compiled, respelled, hparse, halike, hsame, hcompile, hrespelled,
    hschemas .failFast compiled respelled hcompile hrespelled⟩

/-! ### A reference in parentheses -/

/-- A declaration of a name whose getter has a result of the given spelling. -/
def nameItem (result : String) : List Tree :=
  (Tree.ofText? ("trait P \x7b #[default] const DEFAULT_NAME: &'static str = \"x\"; " ++
    "#[get] fn get_name(&self) -> " ++ result ++ "; \x7d")).getD []

theorem name_outcomes :
    (compile .failFast labelArgs (nameItem "&'static str")).toOption.isSome = false ∧
      (compile .failFast labelArgs (nameItem "(&'static str)")).toOption.map outline =
        some ([(.get, some "name", some (.native .string))], [.native .string]) ∧
      (Parser.parseAll TraitDecl.parser (nameItem "&'static str") Position.start).toOption.map
        (fun decl => (compileTrait .failFast labelArgs decl.parenthesized).toOption.isSome) =
          some true := by
  refine ⟨?_, ?_, ?_⟩ <;> decide +kernel

/-- A getter's result that is a reference is refused, and with parentheses around it, it is
accepted: the test for references is the only one that does not look through them. -/
theorem parenthesized_reference_compiles : ∃ decl respelled compiled,
    Parser.parseAll TraitDecl.parser (nameItem "&'static str") Position.start = .ok decl ∧
      decl.Alike decl.parenthesized ∧
      (∀ found, compile .failFast labelArgs (nameItem "&'static str") ≠ .ok found) ∧
      compileTrait .failFast labelArgs decl.parenthesized = .ok respelled ∧
      compile .failFast labelArgs (nameItem "(&'static str)") = .ok compiled := by
  obtain ⟨hrefused, haccepted, hparsed⟩ := name_outcomes
  obtain ⟨compiled, hcompile, -⟩ := compile_of_outline haccepted
  cases hparse : Parser.parseAll TraitDecl.parser (nameItem "&'static str") Position.start with
  | error e => simp [hparse, Except.toOption] at hparsed
  | ok decl =>
    cases hrespelled : compileTrait .failFast labelArgs decl.parenthesized with
    | error ds => simp [hparse, hrespelled, Except.toOption] at hparsed
    | ok respelled =>
      refine ⟨decl, respelled, compiled, rfl, decl.alike_parenthesized, ?_, hrespelled, hcompile⟩
      intro found hfound
      simp [hfound, Except.toOption] at hrefused

end Preferences.Schema
