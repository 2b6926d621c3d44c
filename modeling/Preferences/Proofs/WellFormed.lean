import Preferences.Proofs.Acceptance
import Preferences.Proofs.Documented
import Preferences.Proofs.Literals

/-! Schemas as the parser leaves them, whatever it reports. No key and no namespace is empty: a
string that names one is refused if it is, and a name that stands for one has a character left,
whatever is taken from it. A member has what its access asks for, its parameter is the only one of
its own signature, and nothing is bound to it yet. -/

namespace Preferences.Schema

open Preferences.Source Preferences.Syntax Report Parser

/-! ### Keys that names stand for -/

theorem orWhole_ne_nil {text : List Char} (h : text ≠ []) (stripped : Option (List Char)) :
    orWhole text stripped ≠ [] := by
  unfold orWhole
  split
  · exact List.cons_ne_nil _ _
  · exact h

theorem ofList_ne_empty {chars : List Char} (h : chars ≠ []) : String.ofList chars ≠ "" := by
  simpa using h

theorem toList_ne_nil {text : String} (h : text ≠ "") : text.toList ≠ [] := by
  simpa using h

theorem accessKey_ne_empty (access : Access) {method : String} (h : method ≠ "") :
    access.key method ≠ "" := by
  have hstripped := orWhole_ne_nil (toList_ne_nil h)
    (access.keyPrefixes.findSome? fun start => start.toList.isPrefixOf? method.toList)
  unfold Access.key
  refine ofList_ne_empty ?_
  split
  · exact orWhole_ne_nil hstripped _
  · exact hstripped

theorem lowerChar_ne_nil (c : Char) : Text.lowerChar c ≠ [] := by
  unfold Text.lowerChar
  split
  · exact List.cons_ne_nil _ _
  · split
    · exact List.cons_ne_nil _ _
    · split <;> exact List.cons_ne_nil _ _

theorem lowerAfter_ne_nil (before : List Char) {chars : List Char} (h : chars ≠ []) :
    Text.lowerAfter before chars ≠ [] := by
  cases chars with
  | nil => exact absurd rfl h
  | cons c rest =>
    unfold Text.lowerAfter
    refine List.append_ne_nil_of_left_ne_nil ?_ _
    split
    · split <;> exact List.cons_ne_nil _ _
    · exact lowerChar_ne_nil c

theorem constKey_ne_empty {name : String} (h : name ≠ "") : constKey name ≠ "" := by
  have hstripped := orWhole_ne_nil (toList_ne_nil h) ("DEFAULT_".toList.isPrefixOf? name.toList)
  refine ofList_ne_empty (lowerAfter_ne_nil [] ?_)
  simpa using hstripped

/-! ### Keys and namespaces that strings name -/

theorem nonEmptyString_ne_empty (complaint : String) :
    Yields (nonEmptyString complaint) fun lit => lit.value ≠ "" := by
  unfold nonEmptyString
  refine yields_bind (yields_true _) fun lit _ => ?_
  split
  · exact yields_failAt _ _
  · rename_i hvalue
    exact yields_pure (by simpa using hvalue)

/-- The key of a method: one that its attribute names, or the one that its own name stands for. -/
theorem key_ne_empty {sig : Signature} {access : Access} {named : Option TextLiteral}
    (h : ∀ lit, named = some lit → lit.value ≠ "") :
    (named.getD (derivedKey sig access)).value ≠ "" := by
  cases named with
  | none => exact accessKey_ne_empty access sig.name.nonempty
  | some lit => exact h lit rfl

/-- Of several namespaces the last one counts, and none of them is empty. -/
theorem namespaceName_ne_empty {args : List Tree} {options : Options}
    (h : Options.ofTrees args = .ok options) :
    ∀ lit, options.namespaceName = some lit → lit.value ≠ "" := by
  have hnone : ∀ lit, Options.empty.namespaceName = some lit → lit.value ≠ "" := by
    intro lit hlit
    cases hlit
  refine yields_parseAll
    (P := fun options : Options => ∀ lit, options.namespaceName = some lit → lit.value ≠ "")
    (yields_entries hnone fun path options hoptions => ?_) h
  unfold Options.entry
  split
  · refine yields_bind (nonEmptyString_ne_empty _) fun lit hlit => yields_pure ?_
    intro found hfound
    cases hfound
    exact hlit
  · split
    · exact yields_bind (yields_true _) fun _ _ => yields_bind (yields_true _) fun _ _ =>
        yields_pure hoptions
    · split
      · exact yields_bind (yields_true _) fun _ _ => yields_bind (yields_true _) fun _ _ =>
          yields_pure hoptions
      · exact yields_failAt _ _

/-! ### Members -/

/-- The parameter is the only one behind the receiver, and nothing but a name. -/
def OnlyParam (sig : Signature) (name : Name) : Prop :=
  ∃ receiver attrs pattern ty,
    sig.params = [.self receiver, .typed attrs pattern ty] ∧ PlainName pattern name

theorem onlyParam_of_params {sig : Signature} {pattern : Pattern} {ty : Ty} {name : Name}
    (hparams : paramsAfterSelf sig = .ok [(pattern, ty)]) (hname : plainName? pattern = some name) :
    OnlyParam sig name := by
  obtain ⟨receiver, rest, hsig, hrest⟩ := paramsAfterSelf_ok hparams
  obtain ⟨param, _, ⟨attrs, rfl⟩, hnone, rfl⟩ := List.forall₂_cons_right_iff.1 hrest
  rw [List.forall₂_nil_right_iff] at hnone
  subst hnone
  exact ⟨receiver, attrs, pattern, ty, hsig, plainName?_eq_some.1 hname⟩

/-- What a shape takes from a signature: a key that is not empty, unless all keys are meant, and
names of the one parameter. -/
structure Shape.Sound (sig : Signature) (access : Access) (shape : Shape) : Prop where
  fixed : access ≠ .clear → ∀ lit, shape.key = .fixed lit → lit.value ≠ ""
  parameter : ∀ name, shape.key = .parameter name →
    (access = .contains ∨ access = .remove) ∧ OnlyParam sig name
  valueParam : ∀ name, shape.valueParam = some name → OnlyParam sig name

theorem shapeOf_sound {sig : Signature} {access : Access} {named : Option TextLiteral}
    {params : List (Pattern × Ty)} {shape : Shape}
    (hnamed : ∀ lit, named = some lit → lit.value ≠ "")
    (hparams : paramsAfterSelf sig = .ok params)
    (h : shapeOf sig access named params = .ok shape) : shape.Sound sig access := by
  have hfixed : ∀ lit, Key.fixed (named.getD (derivedKey sig access)) = .fixed lit →
      lit.value ≠ "" := by
    rintro lit ⟨⟩
    exact key_ne_empty hnamed
  cases access with
  | get | observe =>
    obtain ⟨-, ty, rfl⟩ := readShape_ok h
    exact ⟨fun _ => hfixed, nofun, nofun⟩
  | set | setSync =>
    obtain ⟨pattern, ty, name, rfl, hname, rfl⟩ := writeShape_ok h
    refine ⟨fun _ => hfixed, nofun, ?_⟩
    rintro _ ⟨⟩
    exact onlyParam_of_params hparams hname
  | contains | remove =>
    obtain ⟨-, rfl⟩ | ⟨pattern, ty, name, rfl, hname, rfl⟩ := keyShape_ok h
    · exact ⟨fun _ => hfixed, nofun, nofun⟩
    · refine ⟨nofun, ?_, nofun⟩
      rintro _ ⟨⟩
      exact ⟨by simp, onlyParam_of_params hparams hname⟩
  | clear =>
    obtain ⟨-, rfl⟩ := clearShape_ok h
    exact ⟨fun hclear => absurd rfl hclear, nofun, nofun⟩

theorem localAdapterOf_typed {sig : Signature} {access : Access} {marks : List Attribute}
    {own : AdapterBinding} (h : localAdapterOf sig access marks = .ok (some own)) :
    access.isTyped = true := by
  rcases localAdapterOf_eq_ok.1 h with ⟨-, hnone⟩ | ⟨_, _, -, -, htyped, -⟩
  · cases hnone
  · exact htyped

/-- A member as every later stage takes it for granted. -/
structure Member.WellFormed (member : Member) : Prop where
  key : member.access ≠ .clear → ∀ lit, member.key = .fixed lit → lit.value ≠ ""
  keyParam : ∀ name, member.key = .parameter name →
    (member.access = .contains ∨ member.access = .remove) ∧ OnlyParam member.signature name
  valueType : member.valueType.isSome = true ↔ member.access.isTyped = true
  valueParam : member.valueParam.isSome = true ↔
    member.access = .set ∨ member.access = .setSync
  param : ∀ name, member.valueParam = some name → OnlyParam member.signature name
  localAdapter : member.localAdapter.isSome = true → member.access.isTyped = true
  storage : member.storage = none
  adapter : member.adapter = none
  default : member.default = none

theorem Access.isSetter_iff {access : Access} :
    access.isSetter = true ↔ access = .set ∨ access = .setSync := by
  cases access <;> decide

theorem memberOf_wellFormed {sig : Signature} {access adapters : List Attribute} {member : Member}
    (h : memberOf sig access adapters = .ok member) : member.WellFormed := by
  have hparsed := memberOf_parsed h
  obtain ⟨_, _, named, localAdapter, params, shape, -, hnamed, hlocal, -, hparams, hshape, rfl⟩ :=
    memberOf_eq_ok.1 h
  have hkey : ∀ lit, named = some lit → lit.value ≠ "" := by
    rintro lit rfl
    exact of_keyName nonEmptyString_ne_empty (explicitKey_ok hnamed)
  have hsound := shapeOf_sound hkey hparams hshape
  refine ⟨hsound.fixed, hsound.parameter, ?_, ?_, hsound.valueParam, ?_, rfl, rfl, rfl⟩
  · rw [hparsed.shape.valueType]
  · rw [← Access.isSetter_iff, hparsed.shape.valueParam]
  · intro hsome
    obtain ⟨own, rfl⟩ := Option.isSome_iff_exists.1 hsome
    exact localAdapterOf_typed hlocal

/-! ### Defaults -/

theorem defaultOf_key_ne_empty {item : ConstItem} {const : DefaultConst}
    (h : defaultOf item = .ok (some const)) : const.key ≠ "" := by
  unfold defaultOf at h
  split at h
  · cases h
  · split at h
    · cases h
    · split at h
      · cases h
      · rename_i named hnamed
        cases h
        cases named with
        | none => exact constKey_ne_empty item.name.nonempty
        | some lit => exact of_keyName nonEmptyString_ne_empty hnamed
  · cases h

/-! ### Declarations -/

theorem declaredBy_default {mode : Mode} {item : TraitItem} {const : DefaultConst}
    {member : Option Member} (h : Returns (declaredBy item) mode (some const, member)) :
    ∃ constant, defaultOf constant = .ok (some const) := by
  unfold declaredBy at h
  split at h
  · rename_i constant
    obtain ⟨found, hfound, h⟩ := returns_bind.1 h
    obtain ⟨hconst, -⟩ := Prod.mk.inj (returns_pure.1 h)
    obtain rfl := Option.join_eq_some_iff.1 hconst
    exact ⟨constant, returns_check_some.1 hfound⟩
  · dsimp only at h
    split at h
    · obtain ⟨_, -, h⟩ := returns_bind.1 h
      cases returns_pure.1 h
    · obtain ⟨_, -, h⟩ := returns_bind.1 h
      cases returns_pure.1 h
  · cases returns_pure.1 h

theorem schemaIn_default {mode : Mode} {options : Options} {decl : TraitDecl}
    {namespaceName : TextLiteral} {schema : Schema}
    (h : Returns (schemaIn options decl namespaceName) mode schema) {const : DefaultConst}
    (hconst : const ∈ schema.defaults) :
    ∃ constant, defaultOf constant = .ok (some const) := by
  obtain ⟨adapters, -, h⟩ := returns_bind.1 h
  obtain ⟨declared, hdeclared, h⟩ := returns_bind.1 h
  cases returns_pure.1 h
  obtain ⟨⟨_, member⟩, hmem, rfl⟩ := List.mem_filterMap.1 hconst
  obtain ⟨item, -, hitem⟩ := exists_mem_of_forall₂ (returns_each.1 hdeclared) hmem
  exact declaredBy_default hitem

/-- A schema as every later stage takes it for granted. -/
structure WellFormed (schema : Schema) : Prop where
  namespaceName : schema.namespaceName.value ≠ ""
  members : ∀ member ∈ schema.members, member.WellFormed
  defaults : ∀ const ∈ schema.defaults, const.key ≠ ""
  adapters : Distinct schema.adapters

/-- In either mode and whatever was reported, a schema that the parser returns is well formed. -/
theorem parse_wellFormed {mode : Mode} {args item : List Tree} {schema : Schema}
    (h : Returns (parse args item) mode schema) : schema.WellFormed := by
  obtain ⟨options, decl, namespaceName, hoptions, -, hname, hschema⟩ := parse_schemaIn h
  have hmembers {member : Member} := @schemaIn_member _ _ _ _ _ hschema member
  have hdefaults {const : DefaultConst} := @schemaIn_default _ _ _ _ _ hschema const
  obtain ⟨adapters, hadapters, hschema⟩ := returns_bind.1 hschema
  obtain ⟨declared, -, hschema⟩ := returns_bind.1 hschema
  cases returns_pure.1 hschema
  refine ⟨namespaceName_ne_empty hoptions _ hname, fun member hmember => ?_, fun const hconst => ?_,
    distinct_of_bindAdapters .nil hadapters⟩
  · obtain ⟨_, _, _, hmade⟩ := hmembers hmember
    exact memberOf_wellFormed hmade
  · obtain ⟨_, hmade⟩ := hdefaults hconst
    exact defaultOf_key_ne_empty hmade

/-- The draft has diagnostics, and its schema is well formed all the same. -/
theorem parse_wellFormed_draft : ∃ schema, Returns (parse draftArgs draftItem) .collectAll schema ∧
    (parse draftArgs draftItem .collectAll).reported.length = 2 ∧
    schema.members.map (·.key.name?) = [some "g"] ∧ schema.defaults.map (·.key) = ["g"] ∧
    schema.WellFormed := by
  obtain ⟨schema, hschema, hreported, hsketch⟩ := exists_draft
  have hmembers := congrArg (fun found => found.members.map (·.2.1)) hsketch
  have hdefaults := congrArg (fun found => found.defaults.map (·.1)) hsketch
  refine ⟨schema, hschema, hreported, ?_, ?_, parse_wellFormed hschema⟩
  · simpa [sketch, Function.comp_def] using hmembers
  · simpa [sketch, Function.comp_def] using hdefaults

end Preferences.Schema
