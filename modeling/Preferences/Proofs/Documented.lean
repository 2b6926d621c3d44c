import Preferences.Proofs.KeyNames
import Preferences.Proofs.Marks
import Preferences.Proofs.TypeForms

/-! The documented shapes: what the attributes and the signature of a method look like where they
declare a member. The reader of members accepts these and nothing else. -/

namespace Preferences.Schema

open Preferences.Source Preferences.Syntax Parser

/-! ### Attributes -/

/-- The attribute's path is the name of the access, alone. -/
def Selects (mark : Attribute) (access : Access) : Prop :=
  ∃ name : Name, name.text = access.name ∧ mark.path = .ofName name

/-- The attribute holds a type, an arrow and a path. -/
inductive HoldsBinding : Attribute.Content → AdapterBinding → Prop where
  | mk {delimiter body closes valueType adapter pos joint pos' rest stop stop' surplus}
      (htype : Ty.parser ⟨body, closes, none⟩ =
        .ok (valueType, ⟨.punct '=' true pos :: .punct '>' joint pos' :: rest, stop, surplus⟩))
      (hadapter : Path.parser ⟨rest, stop, surplus⟩ = .ok (adapter, ⟨[], stop', none⟩)) :
      HoldsBinding (.list delimiter body closes) ⟨valueType, adapter⟩

/-- A method has at most one adapter, and only if it reads or writes a value. -/
inductive AllowsAdapters (access : Access) : List Attribute → Prop where
  | none : AllowsAdapters access []
  | one {attr binding} (hbinding : HoldsBinding attr.content binding)
      (htyped : access.isTyped = true) : AllowsAdapters access [attr]

/-! ### Signatures -/

/-- No modifier, no generic parameter and no predicate. -/
structure PlainMethod (sig : Signature) : Prop where
  notAsync : sig.asyncPos = none
  notUnsafe : sig.isUnsafe = false
  notConst : sig.isConst = false
  notVariadic : sig.variadic = none
  noParams : sig.generics.params = []
  noPredicates : sig.generics.predicates = none

/-- The parameters are `&self` and then these patterns with their types. -/
inductive TakesAfterSelf : List Param → List (Pattern × Ty) → Prop where
  | mk {receiver rest typed} (hreference : receiver.reference.isSome = true)
      (hshared : receiver.isMut = false)
      (htyped : List.Forall₂ (fun param entry => ∃ attrs, param = .typed attrs entry.1 entry.2)
        rest typed) :
      TakesAfterSelf (.self receiver :: rest) typed

inductive PlainName : Pattern → Name → Prop where
  | mk {pos isMut name} : PlainName (.binding pos false isMut name none) name

/-- No result is written, or the unit. -/
def GivesNothing (output : Option Ty) : Prop := ∀ ty, output = some ty → Within UnitForm ty

/-- A key is fixed, perhaps by the attribute, or it is the only parameter. -/
inductive TakesKey : Option TextLiteral → List (Pattern × Ty) → Prop where
  | fixed {explicit} : TakesKey explicit []
  | parameter {pattern name ty} (hpattern : PlainName pattern name)
      (htype : Within StringRefForm ty) : TakesKey none [(pattern, ty)]

/-- The shapes by their accesses: the result, the key that the attribute names, and the parameters
behind `&self`. -/
inductive Documented : Access → Option Ty → Option TextLiteral → List (Pattern × Ty) → Prop where
  | get {ty explicit} (hvalue : ¬Within UnitForm ty)
      (hplain : ∀ inner, ¬Within (WrapperForm "Observable" inner) ty)
      (howned : ¬ReferenceForm ty) : Documented .get (some ty) explicit []
  | observe {ty inner explicit} (hobservable : Within (WrapperForm "Observable" inner) ty)
      (howned : ¬ReferenceForm inner) : Documented .observe (some ty) explicit []
  | set {output explicit pattern name ty} (hpattern : PlainName pattern name)
      (hresult : GivesNothing output) : Documented .set output explicit [(pattern, ty)]
  | setSync {result explicit pattern name ty} (hpattern : PlainName pattern name)
      (hresult : Within (NamedForm "Completion") result) :
      Documented .setSync (some result) explicit [(pattern, ty)]
  | contains {result explicit params} (hkey : TakesKey explicit params)
      (hresult : Within (WordForm "bool") result) :
      Documented .contains (some result) explicit params
  | remove {output explicit params} (hkey : TakesKey explicit params)
      (hresult : GivesNothing output) : Documented .remove output explicit params
  | clear {output} (hresult : GivesNothing output) : Documented .clear output none []

/-! ### The checks -/

theorem mapError_eq_ok {x : Except ε α} {f : ε → ε'} {a : α} :
    x.mapError f = .ok a ↔ x = .ok a := by
  cases x <;> simp [Except.mapError]

section Checks

variable {sig : Signature}

theorem ofPath?_iff {mark : Attribute} {access : Access} :
    Access.ofPath? mark.path = some access ↔ Selects mark access := by
  constructor
  · intro h
    have hname := List.find?_some h
    exact isName_iff.1 hname
  · rintro ⟨name, hname, hpath⟩
    have htest (other : Access) : (Path.ofName name).isName other.name =
        decide (access.name = other.name) := by
      rw [← hname]
      rfl
    rw [hpath, Access.ofPath?]
    simp only [htest]
    cases access <;> rfl

theorem accessOf_iff {marks : List Attribute} {access : Access} {mark : Attribute} :
    accessOf sig marks = .ok (access, mark) ↔ marks = [mark] ∧ Selects mark access := by
  rw [← ofPath?_iff]
  constructor
  · exact accessOf_ok
  · rintro ⟨rfl, hpath⟩
    simp only [accessOf, hpath]

theorem explicitKey_iff {mark : Attribute} {explicit : Option TextLiteral} :
    explicitKey sig mark = .ok explicit ↔ NamesKey mark.content explicit := by
  rw [explicitKey, mapError_eq_ok, keyName_iff]

theorem bindingParser_eq_ok {cursor after : Cursor} {binding : AdapterBinding} :
    AdapterBinding.parser cursor = .ok (binding, after) ↔ ∃ pos joint pos' rest stop surplus,
      Ty.parser cursor = .ok (binding.valueType,
        ⟨.punct '=' true pos :: .punct '>' joint pos' :: rest, stop, surplus⟩) ∧
        Path.parser ⟨rest, stop, surplus⟩ = .ok (binding.adapter, after) := by
  unfold AdapterBinding.parser
  rw [bind_eq_ok]
  constructor
  · rintro ⟨valueType, ⟨trees, stop, surplus⟩, htype, h⟩
    obtain ⟨_, _, harrow, h⟩ := bind_eq_ok.1 h
    obtain ⟨pos, joint, pos', rest, rfl, rfl⟩ :=
      (symbol_pair_eq_ok (c := '=') (d := '>') rfl).1 harrow
    obtain ⟨adapter, _, hadapter, h⟩ := bind_eq_ok.1 h
    obtain ⟨rfl, rfl⟩ := pure_eq_ok.1 h
    exact ⟨pos, joint, pos', rest, stop, surplus, htype, hadapter⟩
  · rintro ⟨pos, joint, pos', rest, stop, surplus, htype, hadapter⟩
    refine ⟨_, _, htype, bind_eq_ok.2 ⟨(), ⟨rest, stop, surplus⟩, ?_, ?_⟩⟩
    · exact (symbol_pair_eq_ok rfl).2 ⟨pos, joint, pos', rest, rfl, rfl⟩
    · exact bind_eq_ok.2 ⟨_, _, hadapter, pure_eq_ok.2 ⟨rfl, rfl⟩⟩

theorem adapterOf_iff {attr : Attribute} {binding : AdapterBinding} :
    adapterOf attr = .ok binding ↔ HoldsBinding attr.content binding := by
  rw [adapterOf, mapError_eq_ok, AdapterBinding.ofAttribute]
  cases attr.content with
  | bare => exact ⟨nofun, nofun⟩
  | value => exact ⟨nofun, nofun⟩
  | list delimiter body closes =>
    show parseAll AdapterBinding.parser body closes = _ ↔ _
    rw [parseAll_eq_ok]
    constructor
    · rintro ⟨stop', h⟩
      obtain ⟨pos, joint, pos', rest, stop, surplus, htype, hadapter⟩ := bindingParser_eq_ok.1 h
      exact .mk htype hadapter
    · rintro ⟨htype, hadapter⟩
      exact ⟨_, bindingParser_eq_ok.2 ⟨_, _, _, _, _, _, htype, hadapter⟩⟩

theorem localAdapterOf_iff {access : Access} {adapters : List Attribute} :
    (∃ adapter, localAdapterOf sig access adapters = .ok adapter) ↔
      AllowsAdapters access adapters := by
  simp only [localAdapterOf_eq_ok, adapterOf_iff]
  constructor
  · rintro ⟨_, ⟨rfl, -⟩ | ⟨attr, binding, rfl, hbinding, htyped, -⟩⟩
    · exact .none
    · exact .one hbinding htyped
  · rintro (_ | @⟨attr, binding, hbinding, htyped⟩)
    · exact ⟨none, .inl ⟨rfl, rfl⟩⟩
    · exact ⟨some binding, .inr ⟨attr, binding, rfl, hbinding, htyped, rfl⟩⟩

theorem checkModifiers_iff : checkModifiers sig = .ok () ↔ PlainMethod sig := by
  unfold checkModifiers
  constructor
  · intro h
    split at h
    · cases h
    · rename_i hasync
      split at h
      · cases h
      · rename_i hgenerics
        split at h
        · cases h
        · rename_i hother
          simp only [Generics.isEmpty, Bool.not_eq_true, Bool.not_eq_false', Bool.and_eq_true,
            List.isEmpty_iff, Option.isNone_iff_eq_none] at hgenerics
          simp only [Bool.or_eq_true, not_or, Bool.not_eq_true, Option.isSome_eq_false_iff,
            Option.isNone_iff_eq_none] at hother
          exact ⟨hasync, hother.1.1, hother.1.2, hother.2, hgenerics.1, hgenerics.2⟩
  · rintro ⟨hasync, hunsafe, hconst, hvariadic, hparams, hpredicates⟩
    simp [hasync, hunsafe, hconst, hvariadic, hparams, hpredicates, Generics.isEmpty]

theorem typedParams_iff {params : List Param} {typed : List (Pattern × Ty)} :
    typedParams sig params = .ok typed ↔
      List.Forall₂ (fun param entry => ∃ attrs, param = .typed attrs entry.1 entry.2) params
        typed := by
  constructor
  · exact typedParams_ok
  · intro h
    induction h with
    | nil => rfl
    | cons hparam _ ih =>
      obtain ⟨attrs, rfl⟩ := hparam
      rw [typedParams, ih]
      rfl

theorem paramsAfterSelf_iff {typed : List (Pattern × Ty)} :
    paramsAfterSelf sig = .ok typed ↔ TakesAfterSelf sig.params typed := by
  unfold paramsAfterSelf
  cases sig.params with
  | nil => exact ⟨nofun, nofun⟩
  | cons param rest =>
    cases param with
    | typed => exact ⟨nofun, nofun⟩
    | self receiver =>
      dsimp only
      constructor
      · intro h
        split at h
        · rename_i hself
          obtain ⟨hreference, hshared⟩ := Bool.and_eq_true_iff.1 hself
          exact .mk hreference (by simpa using hshared) (typedParams_iff.1 h)
        · cases h
      · rintro ⟨hreference, hshared, htyped⟩
        simp only [hreference, hshared]
        exact typedParams_iff.2 htyped

/-! ### Results and shapes -/

theorem resultType_eq_none : resultType sig = none ↔ GivesNothing sig.output := by
  simp [resultType, GivesNothing, Option.filter_eq_none_iff, Ty.isUnit_iff]

theorem resultType_eq_some {ty : Ty} :
    resultType sig = some ty ↔ sig.output = some ty ∧ ¬Within UnitForm ty := by
  simp [resultType, Option.filter_eq_some_iff, ← Ty.isUnit_iff]

/-- A result that has another form than the unit is the declared one. -/
theorem exists_result_iff {form : Ty → Prop} (hparen : ∀ pos inner, ¬form (.paren pos inner))
    (hunit : ∀ pos trailing, ¬form (.tuple pos [] trailing)) :
    (∃ ty, resultType sig = some ty ∧ Within form ty) ↔
      ∃ ty, sig.output = some ty ∧ Within form ty := by
  simp only [resultType_eq_some]
  constructor
  · rintro ⟨ty, ⟨houtput, -⟩, hform⟩
    exact ⟨ty, houtput, hform⟩
  · rintro ⟨ty, houtput, hform⟩
    exact ⟨ty, ⟨houtput, Ty.not_unit_of_within hparen hunit hform⟩, hform⟩

theorem plainName?_eq_some {pattern : Pattern} {name : Name} :
    plainName? pattern = some name ↔ PlainName pattern name := by
  constructor
  · intro h
    unfold plainName? at h
    split at h
    · cases h
      exact .mk
    · cases h
  · rintro ⟨⟩
    rfl

theorem readType_get {ty : Ty} : readType sig .get = .ok ty ↔ sig.output = some ty ∧
    ¬Within UnitForm ty ∧ ∀ inner, ¬Within (WrapperForm "Observable" inner) ty := by
  simp only [← and_assoc, ← resultType_eq_some, ← Ty.unwrapped?_eq_some]
  unfold readType
  constructor
  · intro h
    split at h
    · cases h
    · rename_i result hresult
      split at h
      · cases h
      · rename_i hnone
        cases h
        exact ⟨hresult, fun inner => by simp [hnone]⟩
  · rintro ⟨hresult, hplain⟩
    have hnone : ty.unwrapped? "Observable" = none := Option.eq_none_iff_forall_ne_some.2 hplain
    simp [hresult, hnone]

theorem readType_observe {inner : Ty} : readType sig .observe = .ok inner ↔
    ∃ ty, sig.output = some ty ∧ Within (WrapperForm "Observable" inner) ty := by
  rw [← exists_result_iff nofun nofun]
  simp only [← Ty.unwrapped?_eq_some, readType]
  cases resultType sig with
  | none => simp
  | some ty => cases hinner : ty.unwrapped? "Observable" <;> simp [hinner]

theorem readShape_iff {access : Access} {explicit : Option TextLiteral}
    {params : List (Pattern × Ty)} :
    (∃ shape, readShape sig access explicit params = .ok shape) ↔
      params = [] ∧ ∃ ty, readType sig access = .ok ty ∧ ¬ReferenceForm ty := by
  unfold readShape
  simp only [← Ty.isReference_iff]
  constructor
  · rintro ⟨shape, h⟩
    split at h
    · cases h
    · rename_i hempty
      obtain ⟨ty, hty, h⟩ := ok_of_bind h
      split at h
      · cases h
      · exact ⟨by simpa using hempty, ty, hty, ‹_›⟩
  · rintro ⟨rfl, ty, hty, howned⟩
    rw [if_neg (by simp)]
    refine exists_ok_bind.2 ⟨ty, hty, ?_⟩
    rw [if_neg howned]
    exact ⟨_, rfl⟩

theorem writeShape_iff {access : Access} {explicit : Option TextLiteral}
    {params : List (Pattern × Ty)} :
    (∃ shape, writeShape sig access explicit params = .ok shape) ↔
      ∃ pattern name ty, params = [(pattern, ty)] ∧ PlainName pattern name ∧
        checkSetterResult sig access = .ok () := by
  unfold writeShape
  simp only [← plainName?_eq_some]
  constructor
  · rintro ⟨shape, h⟩
    split at h
    · rename_i pattern ty
      obtain ⟨_, hresult, h⟩ := ok_of_bind h
      split at h
      · cases h
      · rename_i name hname
        exact ⟨pattern, name, ty, rfl, hname, hresult⟩
    · cases h
  · rintro ⟨pattern, name, ty, rfl, hname, hresult⟩
    refine exists_ok_bind.2 ⟨(), hresult, ?_⟩
    simp only [hname]
    exact ⟨_, rfl⟩

theorem checkSetterResult_set : checkSetterResult sig .set = .ok () ↔ GivesNothing sig.output := by
  rw [← resultType_eq_none]
  cases hresult : resultType sig <;> simp [checkSetterResult, hresult]

theorem checkSetterResult_setSync : checkSetterResult sig .setSync = .ok () ↔
    ∃ result, sig.output = some result ∧ Within (NamedForm "Completion") result := by
  rw [← exists_result_iff nofun nofun]
  simp only [← Ty.isNamed_iff, checkSetterResult]
  cases resultType sig with
  | none => simp
  | some ty => cases hnamed : ty.isNamed "Completion" <;> simp [hnamed]

theorem keyShape_iff {access : Access} {explicit : Option TextLiteral}
    {params : List (Pattern × Ty)} :
    (∃ shape, keyShape sig access explicit params = .ok shape) ↔
      checkKeyResult sig access = .ok () ∧ TakesKey explicit params := by
  unfold keyShape
  constructor
  · rintro ⟨shape, h⟩
    obtain ⟨_, hresult, h⟩ := ok_of_bind h
    refine ⟨hresult, ?_⟩
    dsimp only at h
    split at h
    · exact .fixed
    · split at h
      · rename_i hstring
        split at h
        · cases h
        · cases h
        · exact .parameter (plainName?_eq_some.1 ‹_›) (Ty.isStringRef_iff.1 hstring)
      · cases h
    · cases h
  · rintro ⟨hresult, hkey⟩
    refine exists_ok_bind.2 ⟨(), hresult, ?_⟩
    cases hkey with
    | fixed => exact ⟨_, rfl⟩
    | parameter hpattern htype =>
      simp only [plainName?_eq_some.2 hpattern, Ty.isStringRef_iff.2 htype]
      exact ⟨_, rfl⟩

theorem checkKeyResult_contains : checkKeyResult sig .contains = .ok () ↔
    ∃ result, sig.output = some result ∧ Within (WordForm "bool") result := by
  rw [← exists_result_iff nofun nofun]
  simp only [← Ty.isPlain_iff_within, checkKeyResult, Ty.isBool]
  cases resultType sig with
  | none => simp
  | some ty => cases hbool : ty.isPlain "bool" <;> simp [hbool]

theorem checkKeyResult_remove : checkKeyResult sig .remove = .ok () ↔ GivesNothing sig.output := by
  rw [← resultType_eq_none]
  cases hresult : resultType sig <;> simp [checkKeyResult, hresult]

theorem clearShape_iff {explicit : Option TextLiteral} {params : List (Pattern × Ty)} :
    (∃ shape, clearShape sig explicit params = .ok shape) ↔
      params = [] ∧ GivesNothing sig.output ∧ explicit = none := by
  rw [← resultType_eq_none]
  unfold clearShape
  cases params <;> cases resultType sig <;> cases explicit <;> simp

theorem shapeOf_iff {access : Access} {explicit : Option TextLiteral}
    {params : List (Pattern × Ty)} :
    (∃ shape, shapeOf sig access explicit params = .ok shape) ↔
      Documented access sig.output explicit params := by
  constructor
  · intro h
    cases access with
    | get =>
      obtain ⟨rfl, ty, hty, howned⟩ := readShape_iff.1 h
      obtain ⟨houtput, hvalue, hplain⟩ := readType_get.1 hty
      rw [houtput]
      exact .get hvalue hplain howned
    | observe =>
      obtain ⟨rfl, inner, hinner, howned⟩ := readShape_iff.1 h
      obtain ⟨ty, houtput, hobservable⟩ := readType_observe.1 hinner
      rw [houtput]
      exact .observe hobservable howned
    | set =>
      obtain ⟨pattern, name, ty, rfl, hpattern, hresult⟩ := writeShape_iff.1 h
      exact .set hpattern (checkSetterResult_set.1 hresult)
    | setSync =>
      obtain ⟨pattern, name, ty, rfl, hpattern, hresult⟩ := writeShape_iff.1 h
      obtain ⟨result, houtput, hcompletion⟩ := checkSetterResult_setSync.1 hresult
      rw [houtput]
      exact .setSync hpattern hcompletion
    | contains =>
      obtain ⟨hresult, hkey⟩ := keyShape_iff.1 h
      obtain ⟨result, houtput, hbool⟩ := checkKeyResult_contains.1 hresult
      rw [houtput]
      exact .contains hkey hbool
    | remove =>
      obtain ⟨hresult, hkey⟩ := keyShape_iff.1 h
      exact .remove hkey (checkKeyResult_remove.1 hresult)
    | clear =>
      obtain ⟨rfl, hresult, rfl⟩ := clearShape_iff.1 h
      exact .clear hresult
  · intro h
    generalize houtput : sig.output = output at h
    cases h with
    | get hvalue hplain howned =>
      exact readShape_iff.2 ⟨rfl, _, readType_get.2 ⟨houtput, hvalue, hplain⟩, howned⟩
    | observe hobservable howned =>
      exact readShape_iff.2 ⟨rfl, _, readType_observe.2 ⟨_, houtput, hobservable⟩, howned⟩
    | set hpattern hresult =>
      rw [← houtput] at hresult
      exact writeShape_iff.2 ⟨_, _, _, rfl, hpattern, checkSetterResult_set.2 hresult⟩
    | setSync hpattern hresult =>
      exact writeShape_iff.2
        ⟨_, _, _, rfl, hpattern, checkSetterResult_setSync.2 ⟨_, houtput, hresult⟩⟩
    | contains hkey hresult =>
      exact keyShape_iff.2 ⟨checkKeyResult_contains.2 ⟨_, houtput, hresult⟩, hkey⟩
    | remove hkey hresult =>
      rw [← houtput] at hresult
      exact keyShape_iff.2 ⟨checkKeyResult_remove.2 hresult, hkey⟩
    | clear hresult =>
      rw [← houtput] at hresult
      exact clearShape_iff.2 ⟨rfl, hresult, rfl⟩

end Checks

/-! ### Members -/

/-- A method declares a member exactly if one attribute selects its access and names a key or none,
its adapter fits, and its signature is plain and has the shape of the access. -/
theorem memberOf_documented (sig : Signature) (marks adapters : List Attribute) :
    (∃ member, memberOf sig marks adapters = .ok member) ↔
      ∃ mark access explicit params, marks = [mark] ∧ Selects mark access ∧
        NamesKey mark.content explicit ∧ AllowsAdapters access adapters ∧ PlainMethod sig ∧
          TakesAfterSelf sig.params params ∧ Documented access sig.output explicit params := by
  simp only [memberOf, exists_ok_bind]
  constructor
  · rintro ⟨⟨access, mark⟩, haccess, explicit, hexplicit, adapter, hadapter, _, hmodifiers, params,
      hparams, shape, hshape, -⟩
    obtain ⟨hmarks, hselects⟩ := accessOf_iff.1 haccess
    exact ⟨mark, access, explicit, params, hmarks, hselects, explicitKey_iff.1 hexplicit,
      localAdapterOf_iff.1 ⟨adapter, hadapter⟩, checkModifiers_iff.1 hmodifiers,
      paramsAfterSelf_iff.1 hparams, shapeOf_iff.1 ⟨shape, hshape⟩⟩
  · rintro ⟨mark, access, explicit, params, hmarks, hselects, hexplicit, hadapters, hplain, hparams,
      hshape⟩
    obtain ⟨adapter, hadapter⟩ := localAdapterOf_iff.2 hadapters
    obtain ⟨shape, hshape⟩ := shapeOf_iff.2 hshape
    exact ⟨(access, mark), accessOf_iff.2 ⟨hmarks, hselects⟩, explicit, explicitKey_iff.2 hexplicit,
      adapter, hadapter, (), checkModifiers_iff.2 hplain, params, paramsAfterSelf_iff.2 hparams,
      shape, hshape, _, rfl⟩

end Preferences.Schema
