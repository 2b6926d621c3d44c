import Mathlib.Data.List.Perm.Basic
import Preferences.Proofs.Acceptance
import Preferences.Proofs.Generation

/-! The order in which a trait declares things. Members find their defaults by place, adapters by a
first match, and conflicts are judged by the first member of a key; but no two defaults and no two
adapters fit the same member, and the type of a key is the same whichever member is asked. So a
trait with its items or its adapter attributes in another order compiles if and only if it did, and
to the same methods. -/

namespace Preferences.Schema

open Preferences.Source Preferences.Syntax Report

/-! ### Reordered traits -/

/-- The same trait with its items, and its adapter attributes, perhaps in another order. -/
structure Reordered (decl other : TraitDecl) : Prop where
  items : decl.items.Perm other.items
  adapters : (decl.attrs.filter isAdapterAttr).Perm (other.attrs.filter isAdapterAttr)
  attrs : decl.attrs.filter (!isAdapterAttr ·) = other.attrs.filter (!isAdapterAttr ·)
  rest : other = { decl with attrs := other.attrs, items := other.items }

theorem Reordered.symm {decl other : TraitDecl} (h : Reordered decl other) :
    Reordered other decl where
  items := h.items.symm
  adapters := h.adapters.symm
  attrs := h.attrs.symm
  rest := by
    rw [h.rest]

/-- A parsed schema with its members, its defaults and its adapters perhaps in another order. -/
structure Shuffled (parsed other : Schema) : Prop where
  members : parsed.members.Perm other.members
  defaults : parsed.defaults.Perm other.defaults
  adapters : parsed.adapters.Perm other.adapters
  distinct : Distinct parsed.adapters
  runtime : parsed.runtime = other.runtime
  name : parsed.decl.name = other.decl.name

theorem Distinct.perm {bound others : List AdapterBinding} (h : Distinct bound)
    (hperm : bound.Perm others) : Distinct others :=
  (hperm.pairwise_iff fun {_ _} hapart => symm hapart).1 h

theorem Shuffled.refl_right {parsed other : Schema} (h : Shuffled parsed other) :
    Shuffled other other :=
  ⟨.refl _, .refl _, .refl _, h.distinct.perm h.adapters, rfl, rfl⟩

theorem Shuffled.symm {parsed other : Schema} (h : Shuffled parsed other) :
    Shuffled other parsed where
  members := h.members.symm
  defaults := h.defaults.symm
  adapters := h.adapters.symm
  distinct := h.distinct.perm h.adapters
  runtime := h.runtime.symm
  name := h.name.symm

/-- A reordered trait parses to a shuffled schema. -/
theorem Reordered.parsed {mode : Mode} {options : Options} {decl other : TraitDecl}
    {parsed : Schema} (h : Reordered decl other)
    (hparsed : Gives (ofTrait options decl) mode parsed) :
    ∃ shuffled, Gives (ofTrait options other) mode shuffled ∧ Shuffled parsed shuffled := by
  obtain ⟨declared, hparts⟩ := gives_ofTrait_iff.1 hparsed
  obtain ⟨found, hfound, hdeclared⟩ := List.perm_comp_forall₂ h.items.symm hparts.items
  obtain ⟨adapters, hadapters, hbound⟩ := List.perm_comp_forall₂ h.adapters.symm hparts.adapters
  have hschema := hparts.schema_eq
  have hname : decl.name = other.name := by rw [h.rest]
  have hplain : other.generics.isEmpty = true := by
    rw [h.rest]
    exact hparts.plain
  let shuffled : Schema := { parsed with
    decl := cleaned other
    members := found.filterMap (·.2)
    defaults := found.filterMap (·.1)
    adapters }
  refine ⟨shuffled, gives_ofTrait_iff.2 ⟨found, hparts.named, hplain, hadapters,
    hparts.distinct.perm hbound.symm, hfound, ?_⟩, ?_⟩
  · rw [hname] at hschema
    rw [show shuffled = { parsed with
      decl := cleaned other
      members := found.filterMap (·.2)
      defaults := found.filterMap (·.1)
      adapters } from rfl, hschema]
  · have hmembers : parsed.members = declared.filterMap (·.2) := congrArg Schema.members hschema
    have hdefaults : parsed.defaults = declared.filterMap (·.1) :=
      congrArg Schema.defaults hschema
    have hdecl : parsed.decl = cleaned decl := congrArg Schema.decl hschema
    refine ⟨?_, ?_, hbound.symm, hparts.distinct, rfl, ?_⟩
    · rw [hmembers]
      exact hdeclared.symm.filterMap _
    · rw [hdefaults]
      exact hdeclared.symm.filterMap _
    · rw [hdecl]
      exact hname

/-! ### Adapters and defaults -/

/-- The adapter for a type is found wherever it stands, since no other one is for that type. -/
theorem find?_perm {adapters others : List AdapterBinding} (hdistinct : Distinct adapters)
    (hperm : adapters.Perm others) {ty : Ty} {bound : AdapterBinding}
    (h : adapters.find? (fun bound => bound.valueType.same ty) = some bound) :
    others.find? (fun bound => bound.valueType.same ty) = some bound := by
  have hmem : bound ∈ others := hperm.mem_iff.1 (List.mem_of_find?_eq_some h)
  have hsame : bound.valueType.same ty = true :=
    List.find?_some (p := fun bound : AdapterBinding => bound.valueType.same ty) h
  cases hfound : others.find? fun bound => bound.valueType.same ty with
  | none =>
    have hnone := List.find?_eq_none.1 hfound bound hmem
    exact absurd hsame hnone
  | some found =>
    have hother : found.valueType.same ty = true :=
      List.find?_some (p := fun bound : AdapterBinding => bound.valueType.same ty) hfound
    have hmem' : found ∈ adapters := hperm.mem_iff.2 (List.mem_of_find?_eq_some hfound)
    rw [hdistinct.eq_of_same (List.mem_of_find?_eq_some h) hmem' hsame hother]

/-- A member gets the same adapter in any order. -/
theorem adapterFor_perm {adapters others : List AdapterBinding} (hdistinct : Distinct adapters)
    (hperm : adapters.Perm others) {member : Member} {storage : Storage} {ty : Ty}
    {adapter : Option AdapterBinding} (h : adapterFor adapters member storage ty = .ok adapter) :
    adapterFor others member storage ty = .ok adapter := by
  unfold adapterFor at h ⊢
  split at h
  · exact h
  · cases h
  · split at h
    · cases h
    · rename_i hsync
      rw [if_neg hsync]
      split at h
      · exact h
      · split at h
        · rename_i hfound
          rw [find?_perm hdistinct hperm hfound]
          exact h
        · cases h

theorem bindMember_perm {adapters others : List AdapterBinding} (hdistinct : Distinct adapters)
    (hperm : adapters.Perm others) {member bound : Member}
    (h : bindMember adapters member = (bound, none)) :
    bindMember others member = (bound, none) := by
  unfold bindMember at h ⊢
  split at h
  · exact h
  · dsimp only at h ⊢
    split at h
    · rename_i hadapter
      rw [adapterFor_perm hdistinct hperm hadapter]
      exact h
    · cases h

/-- The only default with a key and a type is found, wherever it stands. -/
theorem resolveDefault_of_selected {member : Member} {defaults : List DefaultConst} {key : String}
    {ty : Ty} {const : DefaultConst} (hkey : member.key.name? = some key)
    (htype : member.valueType = some ty) (hselected : selected defaults key ty = [const]) :
    ∃ place, resolveDefault member defaults = .ok place ∧ defaults[place]? = some const := by
  have hplaced := placed_filter (·.key = key) (·.ty.same ty) defaults
  have hfilter : (defaults.filter fun const => decide (const.key = key) && const.ty.same ty) =
      [const] := hselected
  rw [hfilter] at hplaced
  obtain ⟨⟨found, place⟩, hfound, rfl⟩ := List.map_eq_singleton_iff.1 hplaced
  refine ⟨place, ?_, ?_⟩
  · simp only [resolveDefault, hkey, htype]
    rw [hfound]
  · apply getElem?_of_mem_placed (·.key = key) (·.ty.same ty)
    rw [hfound]
    exact List.mem_singleton_self _

/-! ### Methods -/

/-- What is bound as a default matters to a method, and not where it stands. -/
theorem accessorFor_default {schema other : Schema} (member : Member) {default : Option Nat}
    (h : boundDefault other { member with default } = boundDefault schema member)
    (access : Access) :
    accessorFor other access { member with default } = accessorFor schema access member := by
  have hread (watch : Bool) :
      readCall other watch { member with default } = readCall schema watch member := by
    rw [readCall, readCall, h]
    rfl
  cases access with
  | get => rw [accessorFor, accessorFor, callFor, callFor, hread]
  | observe => rw [accessorFor, accessorFor, callFor, callFor, hread]
  | set | setSync | contains | remove | clear => rfl

/-- Without a default, a method has nothing to do with the rest of the schema. -/
theorem accessorFor_other {schema other : Schema} {member : Member} {access : Access}
    (h : access.needsDefault = false) :
    accessorFor other access member = accessorFor schema access member := by
  cases access with
  | get | observe => cases h
  | set | setSync | contains | remove | clear => rfl

/-- A declared member makes the same method in any order. -/
theorem made?_shuffled {parsed other : Schema} (h : Shuffled parsed other) {declared : Member}
    {accessor : Accessor} (hmade : made? parsed declared = some accessor) :
    made? other declared = some accessor := by
  obtain ⟨stored, hbind, member, hdefault, haccessor⟩ := made?_eq_some.1 hmade
  have hstored := bindMember_perm h.distinct h.adapters hbind
  refine made?_eq_some.2 ⟨stored, hstored, ?_⟩
  unfold bindDefault at hdefault ⊢
  split at hdefault
  · rename_i hneeds
    split at hdefault
    · rename_i place hplace
      cases hdefault
      obtain ⟨key, ty, const, hkey, htype, hconst, hselected⟩ := resolveDefault_ok hplace
      have hshuffled : selected other.defaults key ty = [const] := by
        have hfiltered : (selected parsed.defaults key ty).Perm (selected other.defaults key ty) :=
          h.defaults.filter _
        rw [hselected] at hfiltered
        exact List.singleton_perm.1 hfiltered |>.symm
      obtain ⟨place', hplace', hconst'⟩ := resolveDefault_of_selected hkey htype hshuffled
      refine ⟨{ stored with default := some place' }, by rw [if_pos hneeds, hplace'], ?_⟩
      have hbound : boundDefault other { stored with default := some place' } =
          boundDefault parsed { stored with default := some place } := by
        simp [boundDefault, hconst, hconst']
      have hsame := accessorFor_default { stored with default := some place } hbound stored.access
      exact hsame.trans haccessor
    · cases hdefault
  · rename_i hneeds
    cases hdefault
    refine ⟨stored, if_neg hneeds, ?_⟩
    rw [← haccessor]
    exact accessorFor_other (Bool.eq_false_iff.2 hneeds)

/-- The code of a method depends on the runtime and on the name of the trait, but on nothing else of
its schema. -/
theorem Accessor.code_congr {schema other : Schema} (hruntime : schema.runtime = other.runtime)
    (hname : schema.decl.name = other.decl.name) (accessor : Accessor) :
    accessor.code schema = accessor.code other := by
  have hdefault (const : DefaultConst) : defaultCode schema const = defaultCode other const := by
    rw [defaultCode, defaultCode, hname]
  have hgateway (operation : String) (args : List Code) :
      gatewayCall schema operation args = gatewayCall other operation args := by
    rw [gatewayCall, gatewayCall, hruntime]
  have hadapter (bound : AdapterBinding) (operation : String) (args : List Code) :
      adapterCall schema bound operation args = adapterCall other bound operation args := by
    rw [adapterCall, adapterCall, hruntime]
  rw [Accessor.code, Accessor.code]
  cases accessor.call <;> simp only [Call.code, hdefault, hgateway, hadapter]

/-! ### Compilation of a parsed trait -/

/-- The schema of a parsed trait whose attribute has the given arguments. -/
def parsedTrait (args : List Tree) (decl : TraitDecl) : Report Schema := do
  let options ← orFatal (Options.ofTrees args)
  ofTrait options decl

/-- All stages behind the parser of traits. -/
def compilingTrait (args : List Tree) (decl : TraitDecl) : Report Compiled := do
  let schema ← clean (do resolving (← parsedTrait args decl) Stage.all)
  return ⟨schema, ← accessors schema⟩

/-- The compiled trait. Any diagnostic discards it. -/
def compileTrait (mode : Mode) (args : List Tree) (decl : TraitDecl) :
    Except (List Diagnostic) Compiled :=
  let outcome := compilingTrait args decl mode
  match outcome.value with
  | some compiled =>
    if outcome.reported.isEmpty then .ok compiled else .error outcome.reported
  | none => .error outcome.reported

theorem parse_eq_parsedTrait {args item : List Tree} {decl : TraitDecl}
    (h : Parser.parseAll TraitDecl.parser item Position.start = .ok decl) :
    parse args item = parsedTrait args decl := by
  unfold parse
  rw [h]
  rfl

/-- A declaration is compiled as the trait that it parses to. -/
theorem compile_eq_compileTrait {args item : List Tree} {decl : TraitDecl}
    (h : Parser.parseAll TraitDecl.parser item Position.start = .ok decl) (mode : Mode) :
    compile mode args item = compileTrait mode args decl := by
  have hcompiling : compiling args item = compilingTrait args decl := by
    unfold compiling resolved
    rw [parse_eq_parsedTrait h]
    rfl
  unfold compile
  rw [hcompiling]
  rfl

theorem compileTrait_eq_ok_iff {mode : Mode} {args : List Tree} {decl : TraitDecl}
    {compiled : Compiled} : compileTrait mode args decl = .ok compiled ↔ ∃ options parsed,
      Options.ofTrees args = .ok options ∧ Gives (ofTrait options decl) mode parsed ∧
        Gives (resolving parsed Stage.all) mode compiled.schema ∧
        Gives (accessors compiled.schema) mode compiled.methods := by
  have hgives : compileTrait mode args decl = .ok compiled ↔
      Gives (compilingTrait args decl) mode compiled := by
    unfold compileTrait Gives
    obtain ⟨value, reported⟩ := compilingTrait args decl mode
    cases value with
    | none => simp
    | some found => cases reported <;> simp
  simp only [hgives, compilingTrait, parsedTrait, gives_bind, gives_clean, gives_pure,
    gives_orFatal]
  constructor
  · rintro ⟨schema, ⟨parsed, ⟨options, hoptions, hparsed⟩, hresolving⟩, methods, hmethods, rfl⟩
    exact ⟨options, parsed, hoptions, hparsed, hresolving, hmethods⟩
  · rintro ⟨options, parsed, hoptions, hparsed, hresolving, hmethods⟩
    exact ⟨compiled.schema, ⟨parsed, ⟨options, hoptions, hparsed⟩, hresolving⟩, compiled.methods,
      hmethods, rfl⟩

/-- A trait that compiles still does so with its items and its adapter attributes in another
order. -/
theorem compileTrait_reordered {mode : Mode} {args : List Tree} {decl other : TraitDecl}
    {compiled : Compiled} (h : Reordered decl other)
    (hcompile : compileTrait mode args decl = .ok compiled) :
    ∃ shuffled, compileTrait mode args other = .ok shuffled := by
  obtain ⟨options, parsed, hoptions, hparsed, hresolving, hmethods⟩ :=
    compileTrait_eq_ok_iff.1 hcompile
  obtain ⟨hmade, hone⟩ := gives_methods_iff.1 ⟨_, hresolving, hmethods⟩
  obtain ⟨next, hnext, hshuffled⟩ := h.parsed hparsed
  obtain ⟨methods, hmade', -⟩ := List.perm_comp_forall₂ hshuffled.members.symm hmade
  have hall : List.Forall₂ (fun declared accessor => made? next declared = some accessor)
      next.members methods := hmade'.imp fun _ _ hmade => made?_shuffled hshuffled hmade
  obtain ⟨schema, hresolving', hmethods'⟩ :=
    gives_methods_iff.2 ⟨hall, hone.perm hshuffled.members⟩
  exact ⟨⟨schema, methods⟩, compileTrait_eq_ok_iff.2 ⟨options, next, hoptions, hnext, hresolving',
    hmethods'⟩⟩

/-- The method made of a required method of a trait, as a schema of the trait binds it. -/
def generated? (parsed : Schema) (method : Method) : Option Accessor :=
  (declaredMember method).toOption.bind (made? parsed)

/-- The methods of a compiled trait are those made of its required methods, in turn, by any
shuffled schema. -/
theorem methods_eq_generated {mode : Mode} {options : Options} {decl : TraitDecl}
    {parsed next : Schema} {compiled : Compiled}
    (hparsed : Gives (ofTrait options decl) mode parsed)
    (hresolving : Gives (resolving parsed Stage.all) mode compiled.schema)
    (hmethods : Gives (accessors compiled.schema) mode compiled.methods)
    (h : Shuffled parsed next) :
    (requiredMethods decl).map (generated? next) = compiled.methods.map some := by
  obtain ⟨namespaceName, hschema⟩ := gives_ofTrait hparsed
  obtain ⟨-, hdeclared⟩ := gives_schemaIn hschema
  obtain ⟨hmade, -⟩ := gives_methods_iff.1 ⟨_, hresolving, hmethods⟩
  refine map_eq_of_forall₂ (forall₂_comp_of_mem hdeclared hmade ?_)
  intro method _ member accessor hmember hmade
  rw [generated?, hmember]
  exact made?_shuffled h hmade

/-- Later stages leave the runtime and the trait of a schema as they are. -/
theorem resolving_frame {mode : Mode} {parsed schema : Schema}
    (h : Gives (resolving parsed Stage.all) mode schema) :
    schema.runtime = parsed.runtime ∧ schema.decl = parsed.decl := by
  obtain ⟨_, _, -, -, -, rfl⟩ := gives_resolving.1 h
  exact ⟨rfl, rfl⟩

/-- A trait with its items and its adapter attributes in another order, whichever tokens it is
parsed from: it compiles if and only if the trait did, in either mode, and then each required method
gets the same signature and the same call, in the same code. -/
theorem compile_reordered {args item : List Tree} {decl other : TraitDecl}
    (hparse : Parser.parseAll TraitDecl.parser item Position.start = .ok decl)
    (hreordered : Reordered decl other) (mode : Mode) :
    (∀ tokens, Parser.parseAll TraitDecl.parser tokens Position.start = .ok other →
      compile mode args tokens = compileTrait mode args other) ∧
    ((∃ compiled, compile mode args item = .ok compiled) ↔
      ∃ compiled, compileTrait mode args other = .ok compiled) ∧
    ∀ compiled shuffled, compile mode args item = .ok compiled →
      compileTrait mode args other = .ok shuffled → ∃ generated : Method → Option Accessor,
        (requiredMethods decl).map generated = compiled.methods.map some ∧
        (requiredMethods other).map generated = shuffled.methods.map some ∧
        ∀ accessor : Accessor,
          accessor.code compiled.schema = accessor.code shuffled.schema := by
  rw [compile_eq_compileTrait hparse]
  refine ⟨fun tokens htokens => compile_eq_compileTrait htokens mode, ⟨?_, ?_⟩, ?_⟩
  · rintro ⟨compiled, hcompile⟩
    exact compileTrait_reordered hreordered hcompile
  · rintro ⟨compiled, hcompile⟩
    exact compileTrait_reordered hreordered.symm hcompile
  · intro compiled shuffled hcompile hother
    obtain ⟨options, parsed, hoptions, hparsed, hresolving, hmethods⟩ :=
      compileTrait_eq_ok_iff.1 hcompile
    obtain ⟨options', next, hoptions', hnext, hresolving', hmethods'⟩ :=
      compileTrait_eq_ok_iff.1 hother
    cases hoptions.symm.trans hoptions'
    obtain ⟨found, hfound, hshuffled⟩ := hreordered.parsed hparsed
    have hsame : found = next := Option.some.inj (congrArg Outcome.value (hfound.symm.trans hnext))
    subst hsame
    obtain ⟨hruntime, hdecl⟩ := resolving_frame hresolving
    obtain ⟨hruntime', hdecl'⟩ := resolving_frame hresolving'
    refine ⟨generated? found, methods_eq_generated hparsed hresolving hmethods hshuffled,
      methods_eq_generated hnext hresolving' hmethods' (hshuffled.refl_right), ?_⟩
    refine Accessor.code_congr ?_ ?_
    · rw [hruntime, hruntime', hshuffled.runtime]
    · rw [hdecl, hdecl', hshuffled.name]

/-- The declaration of the label with its items in the opposite order, which puts its default behind
the method that needs it: its methods are the same ones in the opposite order. -/
theorem compile_reordered_label : ∃ decl compiled shuffled,
    Parser.parseAll TraitDecl.parser labelItem Position.start = .ok decl ∧
      Reordered decl { decl with items := decl.items.reverse } ∧
      compile .failFast labelArgs labelItem = .ok compiled ∧ compiled.methods.length = 4 ∧
      compileTrait .failFast labelArgs { decl with items := decl.items.reverse } = .ok shuffled ∧
      shuffled.methods = compiled.methods.reverse := by
  obtain ⟨compiled, hcompile, houtline⟩ := compile_of_outline label_outline
  obtain ⟨decl, hparse, -, -⟩ := compile_declares hcompile
  have hreordered : Reordered decl { decl with items := decl.items.reverse } :=
    ⟨(List.reverse_perm decl.items).symm, .refl _, rfl, rfl⟩
  obtain ⟨-, hiff, hsame⟩ := compile_reordered hparse hreordered .failFast
  obtain ⟨shuffled, hshuffled⟩ := hiff.1 ⟨compiled, hcompile⟩
  obtain ⟨generated, hmethods, hreversed, -⟩ := hsame compiled shuffled hcompile hshuffled
  have hlength : compiled.methods.length = 4 := by
    obtain ⟨hgenerated, -⟩ := compile_generated hcompile
    have hmembers := congrArg (fun found => found.1.length) houtline
    rw [← hgenerated.length_eq]
    simpa [outline] using hmembers
  refine ⟨decl, compiled, shuffled, hparse, hreordered, hcompile, hlength, hshuffled, ?_⟩
  have hrequired : requiredMethods { decl with items := decl.items.reverse } =
      (requiredMethods decl).reverse := List.filterMap_reverse
  rw [hrequired, List.map_reverse, hmethods, ← List.map_reverse] at hreversed
  exact (List.map_injective_iff.2 (Option.some_injective _) hreversed).symm

end Preferences.Schema
