import Preferences.Proofs.Alike
import Preferences.Proofs.Documented

/-! Declarations that differ in parentheses around types. Each test of a declared type looks through
these, but one: a value type may not be a reference, and a reference in parentheses passes for none.
A method whose value type is no reference written directly, in either declaration, declares members
that are alike. -/

namespace Preferences.Syntax

open Schema

/-! ### Declarations side by side -/

/-- Results that differ in parentheses around them, or are both an `Observable` of such types. -/
inductive Ty.ResultAlike : Ty → Ty → Prop where
  | same {a b} (h : a.Alike b) : ResultAlike a b
  | observable {a b inner inner'} (ha : Within (WrapperForm "Observable" inner) a)
      (hb : Within (WrapperForm "Observable" inner') b) (h : inner.Alike inner') : ResultAlike a b

inductive Param.Alike : Param → Param → Prop where
  | self {receiver} : Alike (.self receiver) (.self receiver)
  | typed {attrs pattern ty ty'} (h : ty.Alike ty') :
      Alike (.typed attrs pattern ty) (.typed attrs pattern ty')

inductive Signature.Alike (a : Signature) : Signature → Prop where
  | mk {params output} (hparams : List.Forall₂ Param.Alike a.params params)
      (houtput : Option.Rel Ty.ResultAlike a.output output) :
      Signature.Alike a { a with params, output }

/-- The same attribute, or `adapter` attributes that bind the same to types that are alike, or that
both bind nothing. -/
inductive Attribute.Alike : Attribute → Attribute → Prop where
  | same {attr} : Alike attr attr
  | adapter {a b} (hadapter : isAdapterAttr a = true) (hpath : a.path = b.path)
      (hbinding : Option.Rel AdapterBinding.Alike (adapterOf a).toOption (adapterOf b).toOption) :
      Alike a b

inductive ConstItem.Alike (a : ConstItem) : ConstItem → Prop where
  | mk {ty} (hty : a.ty.Alike ty) : ConstItem.Alike a { a with ty }

inductive Method.Alike (a : Method) : Method → Prop where
  | mk {attrs signature} (hattrs : List.Forall₂ Attribute.Alike a.attrs attrs)
      (hsignature : a.signature.Alike signature) : Method.Alike a { a with attrs, signature }

inductive TraitItem.Alike : TraitItem → TraitItem → Prop where
  | const {a b} (h : a.Alike b) : Alike (.const a) (.const b)
  | method {a b} (h : a.Alike b) : Alike (.method a) (.method b)
  | other {code} : Alike (.other code) (.other code)

/-- Traits that differ in parentheses around the types of values, keys, results, constants and
adapters, and in nothing else. -/
inductive TraitDecl.Alike (a : TraitDecl) : TraitDecl → Prop where
  | mk {attrs items} (hattrs : List.Forall₂ Attribute.Alike a.attrs attrs)
      (hitems : List.Forall₂ TraitItem.Alike a.items items) :
      TraitDecl.Alike a { a with attrs, items }

theorem Method.Alike.body {a b : Method} (h : a.Alike b) : b.body = a.body := by
  cases h
  rfl

theorem Method.Alike.attrs {a b : Method} (h : a.Alike b) :
    List.Forall₂ Attribute.Alike a.attrs b.attrs := by
  cases h with
  | mk hattrs => exact hattrs

/-! ### Results -/

section Results

variable {a b ty inner : Ty} {word other : String} {form : Ty → Prop}

/-- A path that ends in a word with arguments does not end in one without. -/
theorem WrapperForm.not_named (h : WrapperForm word inner ty) : ¬NamedForm other ty := by
  obtain ⟨hargs⟩ := h
  intro hnamed
  generalize hpath : Ty.path _ _ _ = path at hnamed
  cases hnamed with
  | mk =>
    obtain ⟨-, -, hsegments⟩ := Ty.path.inj hpath
    obtain ⟨-, hlast⟩ := List.append_inj' hsegments rfl
    cases hlast
    cases hargs

theorem WordForm.named (h : WordForm word ty) : NamedForm word ty := by
  cases h with
  | mk => exact @NamedForm.mk word none [] _ _

theorem Ty.Alike.within (hparen : ∀ pos inner, ¬form (.paren pos inner)) (h : a.Alike b) :
    Within form a ↔ Within form b := by
  rw [Ty.within_iff hparen, Ty.within_iff hparen, h]

/-- A form that no `Observable` has is that of both results or of neither. -/
theorem Ty.ResultAlike.within (hparen : ∀ pos inner, ¬form (.paren pos inner))
    (hother : ∀ ty inner, WrapperForm "Observable" inner ty → ¬form ty) (h : a.ResultAlike b) :
    Within form a ↔ Within form b := by
  have hnot {ty inner : Ty} (hty : Within (WrapperForm "Observable" inner) ty) :
      ¬Within form ty := by
    rw [Ty.within_iff nofun] at hty
    rw [Ty.within_iff hparen]
    exact hother _ _ hty
  cases h with
  | same h => exact h.within hparen
  | observable ha hb => exact ⟨fun h => absurd h (hnot ha), fun h => absurd h (hnot hb)⟩

theorem Ty.ResultAlike.unitForm (h : a.ResultAlike b) : Within UnitForm a ↔ Within UnitForm b :=
  h.within nofun (by rintro _ _ ⟨⟩ ⟨⟩)

theorem Ty.ResultAlike.namedForm (h : a.ResultAlike b) :
    Within (NamedForm word) a ↔ Within (NamedForm word) b :=
  h.within nofun fun _ _ hwrapper => hwrapper.not_named

theorem Ty.ResultAlike.wordForm (h : a.ResultAlike b) :
    Within (WordForm word) a ↔ Within (WordForm word) b :=
  h.within nofun fun _ _ hwrapper hword => hwrapper.not_named hword.named

theorem Ty.ResultAlike.symm (h : a.ResultAlike b) : b.ResultAlike a := by
  cases h with
  | same h => exact .same h.symm
  | observable ha hb h => exact .observable hb ha h.symm

end Results

/-! ### Symmetry -/

theorem Param.Alike.symm {a b : Param} (h : a.Alike b) : b.Alike a := by
  cases h with
  | self => exact .self
  | typed h => exact .typed h.symm

theorem Signature.Alike.symm {a b : Signature} (h : a.Alike b) : b.Alike a := by
  cases h with
  | mk hparams houtput =>
    exact .mk (forall₂_symm (fun _ _ => Param.Alike.symm) hparams)
      (optionRel_symm (fun _ _ => Ty.ResultAlike.symm) houtput)

theorem isAdapterAttr_alike {a b : Attribute} (h : a.Alike b) :
    isAdapterAttr a = isAdapterAttr b := by
  cases h with
  | same => rfl
  | adapter _ hpath => rw [isAdapterAttr, hpath, isAdapterAttr]

theorem Attribute.Alike.symm {a b : Attribute} (h : a.Alike b) : b.Alike a := by
  cases h with
  | same => exact .same
  | adapter hadapter hpath hbinding =>
    refine .adapter ?_ hpath.symm (optionRel_symm (fun _ _ => AdapterBinding.Alike.symm) hbinding)
    rw [isAdapterAttr, ← hpath]
    exact hadapter

theorem ConstItem.Alike.symm {a b : ConstItem} (h : a.Alike b) : b.Alike a := by
  cases h with
  | mk hty => exact .mk hty.symm

theorem Method.Alike.symm {a b : Method} (h : a.Alike b) : b.Alike a := by
  cases h with
  | mk hattrs hsignature =>
    exact .mk (forall₂_symm (fun _ _ => Attribute.Alike.symm) hattrs) hsignature.symm

theorem TraitItem.Alike.symm {a b : TraitItem} (h : a.Alike b) : b.Alike a := by
  cases h with
  | const h => exact .const h.symm
  | method h => exact .method h.symm
  | other => exact .other

theorem TraitDecl.Alike.symm {a b : TraitDecl} (h : a.Alike b) : b.Alike a := by
  cases h with
  | mk hattrs hitems =>
    exact .mk (forall₂_symm (fun _ _ => Attribute.Alike.symm) hattrs)
      (forall₂_symm (fun _ _ => TraitItem.Alike.symm) hitems)

end Preferences.Syntax

namespace Preferences.Schema

open Preferences.Source Preferences.Syntax

/-! ### Attributes -/

theorem exists_ok_of_rel {R : α → β → Prop} {x : Except ε α} {y : Except ε' β} {a : α}
    (h : Option.Rel R x.toOption y.toOption) (hx : x = .ok a) : ∃ b, y = .ok b ∧ R a b := by
  subst hx
  cases y with
  | error => cases h
  | ok b =>
    cases h with
    | some hab => exact ⟨b, rfl, hab⟩

theorem adapterOf_alike {a b : Attribute} (h : a.Alike b) :
    Option.Rel AdapterBinding.Alike (adapterOf a).toOption (adapterOf b).toOption := by
  cases h with
  | same =>
    cases adapterOf a with
    | error => exact .none
    | ok binding => exact .some ⟨.refl _, rfl⟩
  | adapter _ _ hbinding => exact hbinding

theorem isAccessAttr_of_adapter {attr : Attribute} (h : isAdapterAttr attr = true) :
    isAccessAttr attr = false := by
  obtain ⟨name, hname, hpath⟩ := isName_iff.1 h
  refine Bool.eq_false_iff.2 fun hmark => ?_
  obtain ⟨access, haccess⟩ := Option.isSome_iff_exists.1 hmark
  obtain ⟨other, hother, hpath'⟩ := ofPath?_iff.1 haccess
  rw [hpath] at hpath'
  cases hpath'
  rw [hname] at hother
  cases access <;> exact absurd hother (by decide)

section Marks

variable {attrs others : List Attribute} (h : List.Forall₂ Attribute.Alike attrs others)

include h

/-- The attributes that select an access are the same. -/
theorem accessMarks_alike : attrs.filter isAccessAttr = others.filter isAccessAttr := by
  induction h with
  | nil => rfl
  | cons hattr _ ih =>
    cases hattr with
    | same => rw [List.filter_cons, List.filter_cons, ih]
    | adapter hadapter hpath =>
      have hadapter' := hadapter
      rw [isAdapterAttr, hpath] at hadapter'
      rw [List.filter_cons_of_neg (Bool.eq_false_iff.1 (isAccessAttr_of_adapter hadapter)),
        List.filter_cons_of_neg (Bool.eq_false_iff.1 (isAccessAttr_of_adapter hadapter')), ih]

theorem adapterMarks_alike :
    List.Forall₂ Attribute.Alike (attrs.filter isAdapterAttr) (others.filter isAdapterAttr) :=
  List.rel_filter (fun _ _ hattr => Bool.eq_iff_iff.1 (isAdapterAttr_alike hattr)) h

end Marks

theorem localAdapterOf_alike {sig sig' : Signature} {access : Access}
    {marks others : List Attribute} (h : List.Forall₂ Attribute.Alike marks others)
    {adapter : Option AdapterBinding}
    (hadapter : localAdapterOf sig access marks = .ok adapter) :
    ∃ adapter', localAdapterOf sig' access others = .ok adapter' ∧
      Option.Rel AdapterBinding.Alike adapter adapter' := by
  rcases localAdapterOf_eq_ok.1 hadapter with
    ⟨rfl, rfl⟩ | ⟨attr, binding, rfl, hbinding, htyped, rfl⟩
  · cases h
    exact ⟨none, rfl, .none⟩
  · obtain ⟨attr', _, hattr, hnil, rfl⟩ := List.forall₂_cons_left_iff.1 h
    cases hnil
    obtain ⟨binding', hbinding', halike⟩ := exists_ok_of_rel (adapterOf_alike hattr) hbinding
    exact ⟨_, localAdapterOf_eq_ok.2 (.inr ⟨attr', binding', rfl, hbinding', htyped, rfl⟩),
      .some halike⟩

/-! ### Parameters and results -/

/-- The same pattern, with a type that is alike. -/
structure EntryAlike (p q : Pattern × Ty) : Prop where
  pattern : p.1 = q.1
  ty : p.2.Alike q.2

theorem typed_alike {rest others : List Param} {typed : List (Pattern × Ty)}
    (h : List.Forall₂ Param.Alike rest others)
    (htyped : List.Forall₂ (fun param entry => ∃ attrs, param = .typed attrs entry.1 entry.2) rest
      typed) :
    ∃ typed', List.Forall₂ (fun param entry => ∃ attrs, param = .typed attrs entry.1 entry.2) others
      typed' ∧ List.Forall₂ EntryAlike typed typed' := by
  induction htyped generalizing others with
  | nil =>
    cases h
    exact ⟨[], .nil, .nil⟩
  | @cons _ entry _ _ hparam _ ih =>
    obtain ⟨attrs, rfl⟩ := hparam
    obtain ⟨_, _, hfirst, hrest, rfl⟩ := List.forall₂_cons_left_iff.1 h
    obtain ⟨typed', htyped', halike⟩ := ih hrest
    cases hfirst with
    | @typed _ _ _ ty' hty =>
      exact ⟨(entry.1, ty') :: typed', .cons ⟨attrs, rfl⟩ htyped', .cons ⟨rfl, hty⟩ halike⟩

theorem givesNothing_alike {output output' : Option Ty}
    (h : Option.Rel Ty.ResultAlike output output') (hnothing : GivesNothing output) :
    GivesNothing output' := by
  cases h with
  | none => exact hnothing
  | some hty =>
    rintro _ ⟨⟩
    exact hty.unitForm.1 (hnothing _ rfl)

theorem takesKey_alike {explicit : Option TextLiteral} {params params' : List (Pattern × Ty)}
    (h : List.Forall₂ EntryAlike params params') (hkey : TakesKey explicit params) :
    TakesKey explicit params' := by
  cases hkey with
  | fixed =>
    cases h
    exact .fixed
  | parameter hpattern htype =>
    obtain ⟨⟨pattern', ty'⟩, _, ⟨rfl, hty⟩, hnil, rfl⟩ := List.forall₂_cons_left_iff.1 h
    cases hnil
    exact .parameter hpattern ((hty.within nofun).1 htype)

/-- A value type that is a reference, written directly. -/
inductive ReferenceResult : Access → Option Ty → Prop where
  | get {ty} (hreference : ReferenceForm ty) : ReferenceResult .get (some ty)
  | observe {ty inner} (hobservable : Within (WrapperForm "Observable" inner) ty)
      (hreference : ReferenceForm inner) : ReferenceResult .observe (some ty)

/-- Parentheses leave a documented shape as it is, but where they come off a reference. -/
theorem documented_alike {access : Access} {output output' : Option Ty}
    {explicit : Option TextLiteral} {params params' : List (Pattern × Ty)}
    (houtput : Option.Rel Ty.ResultAlike output output')
    (hparams : List.Forall₂ EntryAlike params params') (howned : ¬ReferenceResult access output')
    (h : Documented access output explicit params) :
    Documented access output' explicit params' := by
  cases h with
  | get hvalue hplain =>
    cases hparams
    obtain ⟨ty', rfl⟩ : ∃ ty', output' = some ty' := by
      cases houtput
      exact ⟨_, rfl⟩
    cases houtput with
    | some hty =>
      refine .get (fun hunit => hvalue (hty.unitForm.2 hunit)) (fun inner hinner => ?_)
        fun hreference => howned (.get hreference)
      cases hty with
      | same hty => exact hplain inner ((hty.within nofun).2 hinner)
      | observable ha => exact hplain _ ha
  | observe hobservable =>
    cases hparams
    cases houtput with
    | some hty =>
      cases hty with
      | same hty =>
        have hobservable' := (hty.within nofun).1 hobservable
        exact .observe hobservable' fun hreference => howned (.observe hobservable' hreference)
      | observable _ hb => exact .observe hb fun hreference => howned (.observe hb hreference)
  | set hpattern hresult =>
    obtain ⟨⟨_, _⟩, _, ⟨rfl, -⟩, hnil, rfl⟩ := List.forall₂_cons_left_iff.1 hparams
    cases hnil
    exact .set hpattern (givesNothing_alike houtput hresult)
  | setSync hpattern hresult =>
    obtain ⟨⟨_, _⟩, _, ⟨rfl, -⟩, hnil, rfl⟩ := List.forall₂_cons_left_iff.1 hparams
    cases hnil
    cases houtput with
    | some hty => exact .setSync hpattern (hty.namedForm.1 hresult)
  | contains hkey hresult =>
    cases houtput with
    | some hty => exact .contains (takesKey_alike hparams hkey) (hty.wordForm.1 hresult)
  | remove hkey hresult =>
    exact .remove (takesKey_alike hparams hkey) (givesNothing_alike houtput hresult)
  | clear hresult =>
    cases hparams
    exact .clear (givesNothing_alike houtput hresult)

/-! ### Shapes -/

structure Shape.Alike (s t : Shape) : Prop where
  key : s.key = t.key
  valueType : Option.Rel Ty.Alike s.valueType t.valueType
  valueParam : s.valueParam = t.valueParam

section Shapes

variable {a b : Signature} {access : Access} {explicit : Option TextLiteral}
  {params params' : List (Pattern × Ty)} {shape : Shape}

theorem paramsAfterSelf_alike (h : List.Forall₂ Param.Alike a.params b.params)
    (hparams : paramsAfterSelf a = .ok params) :
    ∃ params', paramsAfterSelf b = .ok params' ∧ List.Forall₂ EntryAlike params params' := by
  rw [paramsAfterSelf_iff] at hparams
  simp only [paramsAfterSelf_iff]
  generalize a.params = before at h hparams
  cases hparams with
  | mk hreference hshared htyped =>
    obtain ⟨_, others, hself, hrest, hothers⟩ := List.forall₂_cons_left_iff.1 h
    rw [hothers]
    cases hself with
    | self =>
      obtain ⟨typed', htyped', halike⟩ := typed_alike hrest htyped
      exact ⟨typed', .mk hreference hshared htyped', halike⟩

theorem readShape_value (h : readShape a access explicit params = .ok shape) :
    ∃ ty, readType a access = .ok ty ∧
      shape = ⟨.fixed (explicit.getD (derivedKey a access)), some ty, none⟩ := by
  unfold readShape at h
  dsimp only at h
  split at h
  · cases h
  · obtain ⟨ty, hty, h⟩ := ok_of_bind h
    split at h
    · cases h
    · cases h
      exact ⟨ty, hty, rfl⟩

/-- The types that two results are read as are alike. -/
theorem readType_alike {ty ty' : Ty} (h : Option.Rel Ty.ResultAlike a.output b.output)
    (haccess : access = .get ∨ access = .observe) (hty : readType a access = .ok ty)
    (hty' : readType b access = .ok ty') : ty.Alike ty' := by
  rcases haccess with rfl | rfl
  · obtain ⟨houtput, -, hplain⟩ := readType_get.1 hty
    obtain ⟨houtput', -⟩ := readType_get.1 hty'
    rw [houtput, houtput'] at h
    cases h with
    | some h =>
      cases h with
      | same h => exact h
      | observable ha => exact absurd ha (hplain _)
  · obtain ⟨result, houtput, hinner⟩ := readType_observe.1 hty
    obtain ⟨result', houtput', hinner'⟩ := readType_observe.1 hty'
    rw [houtput, houtput'] at h
    rw [← Ty.unwrapped?_eq_some] at hinner hinner'
    cases h with
    | some h =>
      cases h with
      | same h =>
        rw [h.unwrapped?, hinner'] at hinner
        cases hinner
        exact .refl _
      | observable ha hb halike =>
        rw [Ty.unwrapped?_eq_some.2 ha] at hinner
        rw [Ty.unwrapped?_eq_some.2 hb] at hinner'
        cases hinner
        cases hinner'
        exact halike

theorem shapeOf_alike (hname : a.name = b.name)
    (houtput : Option.Rel Ty.ResultAlike a.output b.output)
    (hparams : List.Forall₂ EntryAlike params params') (howned : ¬ReferenceResult access b.output)
    (hshape : shapeOf a access explicit params = .ok shape) :
    ∃ shape', shapeOf b access explicit params' = .ok shape' ∧ shape.Alike shape' := by
  obtain ⟨shape', hshape'⟩ :=
    shapeOf_iff.2 (documented_alike houtput hparams howned (shapeOf_iff.1 ⟨shape, hshape⟩))
  refine ⟨shape', hshape', ?_⟩
  have hderived : derivedKey a access = derivedKey b access := by
    rw [derivedKey, hname, derivedKey]
  cases access with
  | get | observe =>
    obtain ⟨ty, hty, rfl⟩ := readShape_value hshape
    obtain ⟨ty', hty', rfl⟩ := readShape_value hshape'
    rw [hderived]
    exact ⟨rfl, .some (readType_alike houtput (by simp) hty hty'), rfl⟩
  | set | setSync =>
    obtain ⟨pattern, ty, name, rfl, hplain, rfl⟩ := writeShape_ok hshape
    obtain ⟨pattern', ty', name', rfl, hplain', rfl⟩ := writeShape_ok hshape'
    obtain ⟨⟨hpattern, hty⟩, -⟩ := List.forall₂_cons.1 hparams
    obtain rfl : pattern = pattern' := hpattern
    rw [hplain] at hplain'
    cases hplain'
    rw [hderived]
    exact ⟨rfl, .some hty, rfl⟩
  | contains | remove =>
    rcases keyShape_ok hshape with ⟨rfl, rfl⟩ | ⟨pattern, ty, name, rfl, hplain, rfl⟩
    · rcases keyShape_ok hshape' with ⟨-, rfl⟩ | ⟨_, _, _, rfl, -⟩
      · rw [hderived]
        exact ⟨rfl, .none, rfl⟩
      · cases hparams
    · rcases keyShape_ok hshape' with ⟨rfl, -⟩ | ⟨pattern', ty', name', rfl, hplain', rfl⟩
      · cases hparams
      · obtain ⟨⟨hpattern, -⟩, -⟩ := List.forall₂_cons.1 hparams
        obtain rfl : pattern = pattern' := hpattern
        rw [hplain] at hplain'
        cases hplain'
        exact ⟨rfl, .none, rfl⟩
  | clear =>
    obtain ⟨-, rfl⟩ := clearShape_ok hshape
    obtain ⟨-, rfl⟩ := clearShape_ok hshape'
    rw [hname]
    exact ⟨rfl, .none, rfl⟩

end Shapes

/-! ### Members -/

/-- A method that reads values of a type that is a reference, written directly. -/
def ReadsReference (method : Method) : Prop :=
  ∃ mark ∈ method.attrs, ∃ access, Selects mark access ∧
    ReferenceResult access method.signature.output

/-- A method that declares a member reads no reference. -/
theorem not_readsReference {method : Method} {member : Member}
    (h : declaredMember method = .ok member) : ¬ReadsReference method := by
  obtain ⟨mark, explicit, params, hmarks, hpath, -, -, -, hshape, -⟩ := memberOf_ok h
  have hdocumented := shapeOf_iff.1 ⟨_, hshape⟩
  rintro ⟨mark', hmem, access, hselects, hreference⟩
  have hmark' : mark' ∈ method.attrs.filter isAccessAttr := by
    refine List.mem_filter.2 ⟨hmem, ?_⟩
    rw [isAccessAttr, ofPath?_iff.2 hselects]
    rfl
  rw [hmarks, List.mem_singleton] at hmark'
  rw [hmark', ← ofPath?_iff, hpath] at hselects
  cases hselects
  generalize method.signature.output = output at hdocumented hreference
  generalize member.access = access at hdocumented hreference
  cases hreference with
  | get hreference =>
    cases hdocumented with
    | get _ _ howned => exact howned hreference
  | observe hobservable hreference =>
    cases hdocumented with
    | observe hobservable' howned =>
      rw [← Ty.unwrapped?_eq_some] at hobservable hobservable'
      rw [hobservable] at hobservable'
      cases hobservable'
      exact howned hreference

/-- With other parentheses a method declares a member that is alike, if it reads no reference
then. -/
theorem declaredMember_alike {a b : Method} {m : Member} (h : a.Alike b)
    (hm : declaredMember a = .ok m) (howned : ¬ReadsReference b) :
    ∃ n, declaredMember b = .ok n ∧ m.Alike n := by
  cases h with
  | @mk attrs _ hattrs hsignature =>
    cases hsignature with
    | @mk params output hparams houtput =>
      obtain ⟨access, mark, explicit, adapter, taken, shape, haccess, hexplicit, hadapter,
        hmodifiers, htaken, hshape, rfl⟩ := memberOf_eq_ok.1 hm
      obtain ⟨hmarks, hselects⟩ := accessOf_iff.1 haccess
      rw [accessMarks_alike hattrs] at hmarks
      have hmark : mark ∈ attrs :=
        List.mem_of_mem_filter (hmarks ▸ List.mem_singleton_self mark)
      -- The key and the modifiers are read of parts that both signatures share.
      let sig : Signature := { a.signature with params, output }
      have haccess' : accessOf sig (attrs.filter isAccessAttr) = .ok (access, mark) :=
        accessOf_iff.2 ⟨hmarks, hselects⟩
      obtain ⟨adapter', hadapter', hbinding⟩ :=
        @localAdapterOf_alike _ sig _ _ _ (adapterMarks_alike hattrs) _ hadapter
      obtain ⟨taken', htaken', hentries⟩ :=
        @paramsAfterSelf_alike a.signature sig _ hparams htaken
      have howned' : ¬ReferenceResult access output := fun hreference =>
        howned ⟨mark, hmark, access, hselects, hreference⟩
      obtain ⟨shape', hshape', halike⟩ :=
        @shapeOf_alike a.signature sig _ _ _ _ _ rfl houtput hentries howned' hshape
      exact ⟨_, memberOf_eq_ok.2 ⟨access, mark, explicit, adapter', taken', shape', haccess',
        hexplicit, hadapter', hmodifiers, htaken', hshape', rfl⟩, {
          name := rfl, access := rfl, key := halike.key, valueType := halike.valueType,
          valueParam := halike.valueParam, localAdapter := hbinding, storage := rfl,
          adapter := .none, default := rfl }⟩

end Preferences.Schema
