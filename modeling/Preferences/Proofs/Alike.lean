import Preferences.Proofs.Insertion

/-! Types that are the same but for the parentheses around them. No test of a type looks at these,
but the one for references. So the stages behind the parser cannot tell apart schemas that are alike
up to them: they report something of both or of neither, and bind the same to their members. -/

namespace Preferences.Syntax

/-- The same type without the parentheses around it. -/
def Ty.Alike (a b : Ty) : Prop := a.peeled = b.peeled

namespace Ty

section Tests

variable {a b c d : Ty} {word : String}

theorem Alike.refl (ty : Ty) : ty.Alike ty := rfl

theorem Alike.symm (h : a.Alike b) : b.Alike a := Eq.symm h

theorem Alike.isUnit (h : a.Alike b) : a.isUnit = b.isUnit := by rw [Ty.isUnit, h, Ty.isUnit]

theorem Alike.isPlain (h : a.Alike b) : a.isPlain word = b.isPlain word := by
  rw [Ty.isPlain, h, Ty.isPlain]

theorem Alike.isStringRef (h : a.Alike b) : a.isStringRef = b.isStringRef := by
  rw [Ty.isStringRef, h, Ty.isStringRef]

theorem Alike.isNamed (h : a.Alike b) : a.isNamed word = b.isNamed word := by
  rw [Ty.isNamed, h, Ty.isNamed]

theorem Alike.unwrapped? (h : a.Alike b) : a.unwrapped? word = b.unwrapped? word := by
  rw [Ty.unwrapped?, h, Ty.unwrapped?]

theorem Alike.key (h : a.Alike b) : a.key = b.key := by rw [Ty.key, h, Ty.key]

theorem Alike.same (h : a.Alike b) (h' : c.Alike d) : a.same c = b.same d := by
  rw [Ty.same, Ty.same, h.key, h'.key]

end Tests

end Ty

end Preferences.Syntax

namespace Preferences.Schema

open Preferences.Source Preferences.Syntax

theorem Storage.ofType_alike {a b : Ty} (h : a.Alike b) : Storage.ofType a = Storage.ofType b := by
  rw [Storage.ofType_eq_ofKey, Storage.ofType_eq_ofKey, h.key]

/-- The same adapter, for a type that is alike. -/
structure AdapterBinding.Alike (a b : AdapterBinding) : Prop where
  valueType : a.valueType.Alike b.valueType
  adapter : a.adapter = b.adapter

/-- The same constant, of a type that is alike. -/
structure DefaultConst.Alike (a b : DefaultConst) : Prop where
  name : a.name = b.name
  key : a.key = b.key
  ty : a.ty.Alike b.ty

/-- Members that differ in parentheses around types at most: what is bound to them is the same. -/
structure Member.Alike (a b : Member) : Prop where
  name : a.signature.name = b.signature.name
  access : a.access = b.access
  key : a.key = b.key
  valueType : Option.Rel Ty.Alike a.valueType b.valueType
  valueParam : a.valueParam = b.valueParam
  localAdapter : Option.Rel AdapterBinding.Alike a.localAdapter b.localAdapter
  storage : a.storage = b.storage
  adapter : Option.Rel AdapterBinding.Alike a.adapter b.adapter
  default : a.default = b.default

/-! ### Lists and options side by side -/

theorem optionRel_symm {R : α → α → Prop} (h : ∀ a b, R a b → R b a) {x y : Option α}
    (hrel : Option.Rel R x y) : Option.Rel R y x := by
  cases hrel with
  | none => exact .none
  | some hab => exact .some (h _ _ hab)

theorem forall₂_symm {R : α → α → Prop} (h : ∀ a b, R a b → R b a) {as bs : List α}
    (hall : List.Forall₂ R as bs) : List.Forall₂ R bs as :=
  (hall.imp h).flip

theorem forall_mem_of_forall₂ {R : α → β → Prop} {P : α → Prop} {Q : β → Prop} {as : List α}
    {bs : List β} (hall : List.Forall₂ R as bs) (h : ∀ a b, R a b → (P a ↔ Q b)) :
    (∀ a ∈ as, P a) ↔ ∀ b ∈ bs, Q b := by
  induction hall with
  | nil => simp
  | cons hab _ ih => rw [List.forall_mem_cons, List.forall_mem_cons, h _ _ hab, ih]

theorem AdapterBinding.Alike.symm {a b : AdapterBinding} (h : a.Alike b) : b.Alike a :=
  ⟨h.valueType.symm, h.adapter.symm⟩

theorem DefaultConst.Alike.symm {a b : DefaultConst} (h : a.Alike b) : b.Alike a :=
  ⟨h.name.symm, h.key.symm, h.ty.symm⟩

theorem Member.Alike.symm {a b : Member} (h : a.Alike b) : b.Alike a where
  name := h.name.symm
  access := h.access.symm
  key := h.key.symm
  valueType := optionRel_symm (fun _ _ => Ty.Alike.symm) h.valueType
  valueParam := h.valueParam.symm
  localAdapter := optionRel_symm (fun _ _ => AdapterBinding.Alike.symm) h.localAdapter
  storage := h.storage.symm
  adapter := optionRel_symm (fun _ _ => AdapterBinding.Alike.symm) h.adapter
  default := h.default.symm

/-! ### Adapters of members -/

section Adapters

variable {adapters others : List AdapterBinding}
  (hadapters : List.Forall₂ AdapterBinding.Alike adapters others)

include hadapters

theorem find?_alike {ty ty' : Ty} (hty : ty.Alike ty') :
    Option.Rel AdapterBinding.Alike (adapters.find? fun bound => bound.valueType.same ty)
      (others.find? fun bound => bound.valueType.same ty') := by
  induction hadapters with
  | nil => exact .none
  | @cons bound bound' _ _ hbound _ ih =>
    rw [List.find?_cons, List.find?_cons, hbound.valueType.same hty]
    cases bound'.valueType.same ty' with
    | true => exact .some hbound
    | false => exact ih

theorem adapterFor_alike {a b : Member} (h : a.Alike b) (storage : Storage) {ty ty' : Ty}
    (hty : ty.Alike ty') :
    Option.Rel (Option.Rel AdapterBinding.Alike) (adapterFor adapters a storage ty).toOption
      (adapterFor others b storage ty').toOption := by
  have hown := h.localAdapter
  simp only [adapterFor, h.access]
  generalize a.localAdapter = own at hown
  generalize b.localAdapter = own' at hown
  cases storage with
  | native kind =>
    cases hown with
    | none => exact .some .none
    | some _ => exact .none
  | adapted =>
    by_cases hsync : b.access = .setSync
    · simp only [if_pos hsync]
      exact .none
    · simp only [if_neg hsync]
      cases hown with
      | @some bound bound' hbound =>
        simp only [hbound.valueType.same hty]
        cases bound'.valueType.same ty' with
        | true => exact .some (.some hbound)
        | false => exact .none
      | none =>
        have hfound := find?_alike hadapters hty
        generalize adapters.find? _ = found at hfound
        generalize others.find? _ = found' at hfound
        cases hfound with
        | some hbound => exact .some (.some hbound)
        | none => exact .none

/-- Members that are alike are bound to the same, and both of them or neither is refused. -/
theorem bindMember_alike {a b : Member} (h : a.Alike b) :
    (bindMember adapters a).1.Alike (bindMember others b).1 ∧
      ((bindMember adapters a).2 = none ↔ (bindMember others b).2 = none) := by
  have htype := h.valueType
  generalize ha : a.valueType = ty at htype
  generalize hb : b.valueType = ty' at htype
  cases htype with
  | none =>
    rw [bindMember_untyped ha, bindMember_untyped hb]
    exact ⟨h, .rfl⟩
  | @some ty ty' hty =>
    rw [bindMember_typed ha, bindMember_typed hb, Storage.ofType_alike hty]
    have hadapter := adapterFor_alike hadapters h (Storage.ofType ty') hty
    generalize adapterFor adapters a _ ty = result at hadapter
    generalize adapterFor others b _ ty' = result' at hadapter
    cases result with
    | error d =>
      cases result' with
      | error d' => exact ⟨{ h with storage := rfl }, by simp⟩
      | ok _ => cases hadapter
    | ok adapter =>
      cases result' with
      | error d' => cases hadapter
      | ok adapter' =>
        cases hadapter with
        | some hbound => exact ⟨{ h with storage := rfl, adapter := hbound }, .rfl⟩

end Adapters

/-! ### Defaults of members -/

/-- A default is found exactly if one place alone has the key and the type. -/
theorem resolveDefault_eq_ok {member : Member} {defaults : List DefaultConst} {place : Nat} :
    resolveDefault member defaults = .ok place ↔ ∃ key ty, member.key.name? = some key ∧
      member.valueType = some ty ∧ ∀ other, FitsAt defaults key ty other ↔ other = place := by
  constructor
  · intro h
    obtain ⟨key, ty, _, hkey, htype, -, -⟩ := resolveDefault_ok h
    have hresolves : Resolves defaults member key ty (resolveDefault member defaults) :=
      resolves_resolveDefault hkey htype
    rw [h] at hresolves
    cases hresolves with
    | only honly => exact ⟨key, ty, hkey, htype, honly⟩
  · rintro ⟨key, ty, hkey, htype, honly⟩
    exact (resolves_resolveDefault hkey htype).unique (.only honly)

section Defaults

variable {defaults others : List DefaultConst}
  (hdefaults : List.Forall₂ DefaultConst.Alike defaults others)

include hdefaults

theorem fitsAt_alike {key : String} {ty ty' : Ty} (hty : ty.Alike ty') (place : Nat) :
    FitsAt defaults key ty place ↔ FitsAt others key ty' place := by
  unfold FitsAt
  rcases getElem?_of_forall₂ hdefaults place with
    ⟨hnone, hnone'⟩ | ⟨const, const', hconst, hconst', halike⟩
  · simp [hnone, hnone']
  · simp [hconst, hconst', halike.key, halike.ty.same hty]

theorem resolveDefault_alike {a b : Member} (h : a.Alike b) {place : Nat}
    (hplace : resolveDefault a defaults = .ok place) : resolveDefault b others = .ok place := by
  obtain ⟨key, ty, hkey, htype, honly⟩ := resolveDefault_eq_ok.1 hplace
  have hrel := h.valueType
  rw [htype] at hrel
  generalize hb : b.valueType = found at hrel
  cases hrel with
  | some hty =>
    refine resolveDefault_eq_ok.2 ⟨key, _, h.key ▸ hkey, hb, fun other => ?_⟩
    rw [← fitsAt_alike hdefaults hty, honly]

end Defaults

theorem bindDefault_alike {defaults others : List DefaultConst}
    (hdefaults : List.Forall₂ DefaultConst.Alike defaults others) {a b : Member} (h : a.Alike b) :
    (bindDefault defaults a).1.Alike (bindDefault others b).1 ∧
      ((bindDefault defaults a).2 = none ↔ (bindDefault others b).2 = none) := by
  have hothers := forall₂_symm (fun _ _ => DefaultConst.Alike.symm) hdefaults
  have hneeds : a.access.needsDefault = b.access.needsDefault := by rw [h.access]
  unfold bindDefault
  rw [hneeds]
  cases b.access.needsDefault with
  | false => exact ⟨h, .rfl⟩
  | true =>
    rw [if_pos rfl, if_pos rfl]
    cases hplace : resolveDefault a defaults with
    | ok place =>
      rw [resolveDefault_alike hdefaults h hplace]
      exact ⟨{ h with default := rfl }, .rfl⟩
    | error d =>
      cases hplace' : resolveDefault b others with
      | ok place =>
        rw [resolveDefault_alike hothers h.symm hplace'] at hplace
        cases hplace
      | error d' => exact ⟨h, by simp⟩

/-! ### Keys -/

theorem Member.Keyed.alike {a b : Member} {key : String} {ty' : Ty} (h : a.Alike b)
    (hb : b.Keyed key ty') : ∃ ty, a.Keyed key ty ∧ ty.key = ty'.key := by
  have hrel := h.valueType
  rw [hb.valueType] at hrel
  generalize ha : a.valueType = found at hrel
  cases hrel with
  | some hty => exact ⟨_, ⟨h.access ▸ hb.typed, h.key ▸ hb.key, ha⟩, hty.key⟩

theorem OneType.alike {members others : List Member} (hone : OneType members)
    (h : List.Forall₂ Member.Alike members others) : OneType others := by
  rw [oneType_iff_keyed] at hone ⊢
  intro m' hm' n' hn' key ty ty' hkeyed hkeyed'
  obtain ⟨m, hm, hmalike⟩ := exists_mem_of_forall₂ h hm'
  obtain ⟨n, hn, hnalike⟩ := exists_mem_of_forall₂ h hn'
  obtain ⟨found, hfound, hty⟩ := hkeyed.alike hmalike
  obtain ⟨found', hfound', hty'⟩ := hkeyed'.alike hnalike
  rw [← hty, ← hty', hone m hm n hn key found found' hfound hfound']

end Preferences.Schema

namespace Preferences

open Source Syntax Schema

/-! ### Schemas -/

/-- Schemas that differ in parentheses around types, wherever these stand in them. -/
structure Schema.Alike (a b : Schema) : Prop where
  members : List.Forall₂ Member.Alike a.members b.members
  defaults : List.Forall₂ DefaultConst.Alike a.defaults b.defaults
  adapters : List.Forall₂ AdapterBinding.Alike a.adapters b.adapters

namespace Schema

theorem Alike.oneType {a b : Schema} (h : a.Alike b) : OneType a.members ↔ OneType b.members :=
  ⟨fun hone => hone.alike h.members,
    fun hone => hone.alike (forall₂_symm (fun _ _ => Member.Alike.symm) h.members)⟩

/-- The stages behind the parser report nothing if and only if both of a member's steps report
nothing of it, and keys have one type. -/
theorem laterNotes_eq_nil_iff {schema : Schema} : laterNotes schema = [] ↔
    (∀ member ∈ schema.members, (bindMember schema.adapters member).2 = none) ∧
    (∀ member ∈ schema.members, (bindDefault schema.defaults member).2 = none) ∧
      OneType schema.members := by
  simp [laterNotes, Stage.all, Stage.notes, Stage.step, conflictsAfter_eq_nil_iff]

theorem Alike.laterNotes {a b : Schema} (h : a.Alike b) :
    Schema.laterNotes a = [] ↔ Schema.laterNotes b = [] := by
  rw [laterNotes_eq_nil_iff, laterNotes_eq_nil_iff, h.oneType]
  refine and_congr ?_ (and_congr ?_ .rfl)
  · exact forall_mem_of_forall₂ h.members fun _ _ hm => (bindMember_alike h.adapters hm).2
  · exact forall_mem_of_forall₂ h.members fun _ _ hm => (bindDefault_alike h.defaults hm).2

/-- All stages leave schemas that are alike. -/
theorem Alike.resolved {a b : Schema} (h : a.Alike b) :
    (resolve .collectAll a Stage.all).schema.Alike (resolve .collectAll b Stage.all).schema := by
  rw [resolve_collectAll, resolve_collectAll]
  refine { h with members := ?_ }
  rw [List.forall₂_map_left_iff, List.forall₂_map_right_iff]
  refine h.members.imp fun m n hm => ?_
  have hstored := (bindMember_alike h.adapters hm).1
  have hsettled := (bindDefault_alike h.defaults hm).1
  exact { hm with
    storage := hstored.storage, adapter := hstored.adapter, default := hsettled.default }

end Schema

end Preferences
