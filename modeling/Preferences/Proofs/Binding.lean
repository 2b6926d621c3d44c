import Mathlib.Data.List.Basic
import Preferences.Proofs.TypeIdentity
import Preferences.Schema.Binding

/-! What binding gives a member: the storage of its value type, the adapter that this storage needs
and no other, and the only default with its key and type. -/

namespace Preferences.Schema

open Preferences.Syntax

/-! ### Adapters -/

/-- An adapter as a typed member of an access has it: none for a type that is stored natively, and
else one for that type, which no synchronous setter has. -/
inductive AdapterFits (access : Access) (ty : Ty) : Storage → Option AdapterBinding → Prop where
  | native (kind : Store.Kind) : AdapterFits access ty (.native kind) none
  | adapted (bound : AdapterBinding) (hsync : access ≠ .setSync)
      (hsame : bound.valueType.same ty = true) : AdapterFits access ty .adapted (some bound)

theorem adapterFor_fits {adapters : List AdapterBinding} {member : Member} {storage : Storage}
    {ty : Ty} {adapter : Option AdapterBinding}
    (h : adapterFor adapters member storage ty = .ok adapter) :
    AdapterFits member.access ty storage adapter := by
  unfold adapterFor at h
  split at h
  · cases h
    exact .native _
  · cases h
  · split at h
    · cases h
    · rename_i hsync
      split at h
      · split at h
        · rename_i hsame
          cases h
          exact .adapted _ hsync hsame
        · cases h
      · split at h
        · rename_i bound hfound
          cases h
          have hsame := List.find?_some hfound
          exact .adapted bound hsync hsame
        · cases h

/-- A member whose storage and adapter are bound. -/
structure Member.Bound (member : Member) : Prop where
  storage : member.storage = member.valueType.map Storage.ofType
  adapter : ∀ ty, member.valueType = some ty →
    AdapterFits member.access ty (Storage.ofType ty) member.adapter

/-- Binding changes nothing but the storage and the adapter. -/
theorem bindMember_bound {adapters : List AdapterBinding} {member bound : Member}
    (hstorage : member.storage = none) (h : bindMember adapters member = (bound, none)) :
    bound.Bound ∧ ∃ storage adapter, bound = { member with storage, adapter } := by
  unfold bindMember at h
  split at h
  · rename_i htype
    cases h
    exact ⟨⟨by rw [hstorage, htype]; rfl, by simp [htype]⟩, _, _, rfl⟩
  · rename_i ty htype
    dsimp only at h
    split at h
    · rename_i adapter hadapter
      cases h
      refine ⟨⟨by rw [htype]; rfl, fun ty' htype' => ?_⟩, _, _, rfl⟩
      rw [show ty' = ty from Option.some.inj (htype'.symm.trans htype)]
      exact adapterFor_fits hadapter
    · cases h

/-! ### Defaults -/

/-- The defaults with a key and a type. -/
def selected (defaults : List DefaultConst) (key : String) (ty : Ty) : List DefaultConst :=
  defaults.filter fun const => const.key = key && const.ty.same ty

/-- The only default that is selected is declared, with the key and the type. -/
theorem of_selected {defaults : List DefaultConst} {key : String} {ty : Ty} {const : DefaultConst}
    (h : selected defaults key ty = [const]) :
    const ∈ defaults ∧ const.key = key ∧ const.ty.same ty = true := by
  have hmem : const ∈ selected defaults key ty := by
    rw [h]
    exact List.mem_singleton_self const
  obtain ⟨hdeclared, hmatch⟩ := List.mem_filter.1 hmem
  rw [Bool.and_eq_true] at hmatch
  exact ⟨hdeclared, of_decide_eq_true hmatch.1, hmatch.2⟩

theorem placed_filter (test also : DefaultConst → Bool) (defaults : List DefaultConst) :
    ((placed test defaults).filter (also ·.1)).map (·.1) =
      defaults.filter fun const => test const && also const := by
  have hmap : (defaults.zipIdx.filter fun entry => test entry.1 && also entry.1).map (·.1) =
      (defaults.zipIdx.map (·.1)).filter fun const => test const && also const := by
    rw [List.filter_map]
    rfl
  rw [List.zipIdx_map_fst] at hmap
  rw [placed, List.filter_filter, ← hmap]
  congr 2
  funext entry
  exact Bool.and_comm _ _

theorem getElem?_of_mem_placed (test also : DefaultConst → Bool) {defaults : List DefaultConst}
    {const : DefaultConst} {place : Nat}
    (h : (const, place) ∈ (placed test defaults).filter (also ·.1)) :
    defaults[place]? = some const :=
  List.mk_mem_zipIdx_iff_getElem?.1 (List.mem_of_mem_filter (List.mem_of_mem_filter h))

/-- A member is bound to a default only if no other one has its key and type. -/
theorem resolveDefault_ok {member : Member} {defaults : List DefaultConst} {place : Nat}
    (h : resolveDefault member defaults = .ok place) :
    ∃ key ty const, member.key.name? = some key ∧ member.valueType = some ty ∧
      defaults[place]? = some const ∧ selected defaults key ty = [const] := by
  unfold resolveDefault at h
  split at h
  · rename_i key ty hkey htype
    dsimp only at h
    split at h
    · rename_i const _ hfound
      cases h
      refine ⟨key, ty, const, hkey, htype, ?_, ?_⟩
      · apply getElem?_of_mem_placed (·.key = key) (·.ty.same ty)
        rw [hfound]
        exact List.mem_singleton_self _
      · rw [selected, ← placed_filter, hfound]
        rfl
    · cases h
    · cases h
  · cases h

/-- A member that needs a default and has it. -/
def Member.HasDefault (defaults : List DefaultConst) (member : Member) : Prop :=
  ∃ key ty const, member.key.name? = some key ∧ member.valueType = some ty ∧
    member.default.bind (defaults[·]?) = some const ∧ selected defaults key ty = [const]

/-- Binding a default changes nothing else. -/
theorem bindDefault_bound {defaults : List DefaultConst} {member bound : Member}
    (h : bindDefault defaults member = (bound, none)) :
    (bound.access.needsDefault = true → bound.HasDefault defaults) ∧
      ∃ default, bound = { member with default } := by
  unfold bindDefault at h
  split at h
  · split at h
    · rename_i place hplace
      cases h
      obtain ⟨key, ty, const, hkey, htype, hconst, hselected⟩ := resolveDefault_ok hplace
      exact ⟨fun _ => ⟨key, ty, const, hkey, htype, hconst, hselected⟩, _, rfl⟩
    · cases h
  · rename_i hneeds
    cases h
    exact ⟨fun hneeds' => absurd hneeds' hneeds, _, rfl⟩

/-! ### One type for each key -/

/-- Typed members with the same key have the same type. -/
def OneType (members : List Member) : Prop :=
  ∀ m ∈ members, ∀ n ∈ members, ∀ key ty ty', m.typedKey? = some (key, ty) →
    n.typedKey? = some (key, ty') → ty.same ty' = true

/-- A member without a conflict has the type of all members before it with its key. -/
theorem same_of_conflict?_eq_none {before : List Member} {member : Member}
    (hbefore : OneType before) (h : conflict? before member = none) {m : Member}
    (hm : m ∈ before) {key : String} {ty ty' : Ty} (hkey : m.typedKey? = some (key, ty))
    (hkey' : member.typedKey? = some (key, ty')) : ty.same ty' = true := by
  simp only [conflict?, hkey', Option.bind_eq_bind, Option.bind_some] at h
  generalize hfind : before.findSome? _ = found at h
  cases found with
  | none =>
    have hnone := List.findSome?_eq_none_iff.1 hfind m hm
    simp [hkey] at hnone
  | some found =>
    obtain ⟨first, hmem, hfirst⟩ := List.exists_of_findSome?_eq_some hfind
    obtain ⟨⟨firstKey, firstTy⟩, htyped, hfound⟩ := Option.bind_eq_some_iff.1 hfirst
    by_cases heq : firstKey = key
    · subst heq
      simp only [if_pos] at hfound
      cases hfound
      have hfirstTy := hbefore m hm first hmem firstKey ty firstTy hkey htyped
      by_cases hsame : firstTy.same ty' = true
      · exact Ty.same_iff.2 ((Ty.same_iff.1 hfirstTy).trans (Ty.same_iff.1 hsame))
      · simp [hsame] at h
    · simp [heq] at hfound

theorem oneType_append {before : List Member} {member : Member} (hbefore : OneType before)
    (h : conflict? before member = none) : OneType (before ++ [member]) := by
  intro m hm n hn key ty ty' hmkey hnkey
  rw [List.mem_append, List.mem_singleton] at hm hn
  rcases hm with hm | rfl <;> rcases hn with hn | rfl
  · exact hbefore m hm n hn key ty ty' hmkey hnkey
  · exact same_of_conflict?_eq_none hbefore h hm hmkey hnkey
  · have hsame := same_of_conflict?_eq_none hbefore h hn hnkey hmkey
    exact Ty.same_iff.2 (Ty.same_iff.1 hsame).symm
  · rw [hmkey] at hnkey
    cases hnkey
    exact Ty.same_iff.2 rfl

theorem oneType_of_conflictsAfter {before members : List Member} (hbefore : OneType before)
    (h : conflictsAfter before members = []) : OneType (before ++ members) := by
  induction members generalizing before with
  | nil => rwa [List.append_nil]
  | cons member rest ih =>
    rw [conflictsAfter, List.append_eq_nil_iff, Option.toList_eq_nil_iff] at h
    obtain ⟨hfirst, hrest⟩ := h
    have hall := ih (oneType_append hbefore hfirst) hrest
    rwa [List.append_assoc] at hall

/-- Members without conflicts have one type for each key. -/
theorem oneType_of_no_conflict {members : List Member} (h : conflictsAfter [] members = []) :
    OneType members := by
  have hempty : OneType [] := fun m hm => absurd hm List.not_mem_nil
  have hall := oneType_of_conflictsAfter hempty h
  rwa [List.nil_append] at hall

end Preferences.Schema
