import Preferences.Proofs.Binding
import Preferences.Proofs.Marks

/-! Defaults of members. A member is bound to the only constant with its key and its type, whatever
place that has in the declaration; if there is none, or more than one, the diagnostic names all
constants that come near. The stage that binds defaults does this for getters and observers, and
does nothing else. -/

namespace Preferences.Schema

open Preferences.Source Preferences.Syntax

/-! ### Places -/

/-- The constant at a place has a key and a type. -/
def FitsAt (defaults : List DefaultConst) (key : String) (ty : Ty) (place : Nat) : Prop :=
  ∃ const, defaults[place]? = some const ∧ const.key = key ∧ const.ty.same ty = true

/-- The constants with a key and a type, with their places. -/
def fitting (defaults : List DefaultConst) (key : String) (ty : Ty) : List (DefaultConst × Nat) :=
  (placed (·.key = key) defaults).filter (·.1.ty.same ty)

section Places

variable {defaults : List DefaultConst} {key : String} {ty : Ty}

theorem mem_fitting {const : DefaultConst} {place : Nat} :
    (const, place) ∈ fitting defaults key ty ↔
      defaults[place]? = some const ∧ const.key = key ∧ const.ty.same ty = true := by
  simp only [fitting, placed, List.mem_filter, List.mk_mem_zipIdx_iff_getElem?,
    decide_eq_true_iff, and_assoc]

theorem fitsAt_iff {place : Nat} :
    FitsAt defaults key ty place ↔ ∃ const, (const, place) ∈ fitting defaults key ty := by
  simp only [FitsAt, mem_fitting]

/-- No place is found twice. -/
theorem fitting_nodup : ((fitting defaults key ty).map (·.2)).Nodup := by
  have hsublist : (fitting defaults key ty).Sublist defaults.zipIdx :=
    List.filter_sublist.trans List.filter_sublist
  refine (hsublist.map (·.2)).nodup ?_
  rw [List.zipIdx_map_snd]
  exact List.nodup_range'

theorem placed_map_fst (test : DefaultConst → Bool) :
    (placed test defaults).map (·.1) = defaults.filter test := by
  have hmap : (placed test defaults).map (·.1) = (defaults.zipIdx.map (·.1)).filter test := by
    rw [List.filter_map]
    rfl
  rw [hmap, List.zipIdx_map_fst]

end Places

/-! ### Results -/

/-- The complaint about a member without a default, with the constants that have its key. -/
def missing (member : Member) (key : String) (ty : Ty) (near : List DefaultConst) : Diagnostic :=
  ⟨.missingDefault member.name key ty.shown
      (match near with
        | const :: _ => " (`" ++ const.name.text ++ "` has that key but is declared as `" ++
          const.ty.shown ++ "`)"
        | [] => ""), member.pos,
    near.map fun const => (const.name.pos, "`" ++ const.name.text ++ "` declared here")⟩

/-- The complaint about a member with several candidates for its default. -/
def ambiguous (member : Member) (key : String) (ty : Ty) (candidates : List DefaultConst) :
    Diagnostic :=
  ⟨.ambiguousDefault member.name key ty.shown candidates.length, member.pos,
    candidates.map fun const => (const.name.pos, "candidate default `" ++ const.name.text ++ "`")⟩

/-- What comes of looking for the default of a member with a key and a type: the only place that has
both, or a complaint that there is none or that there are several. -/
inductive Resolves (defaults : List DefaultConst) (member : Member) (key : String) (ty : Ty) :
    Except Diagnostic Nat → Prop where
  | only {place : Nat} (honly : ∀ other, FitsAt defaults key ty other ↔ other = place) :
      Resolves defaults member key ty (.ok place)
  | none (hnone : ∀ place, ¬FitsAt defaults key ty place) :
      Resolves defaults member key ty
        (.error (missing member key ty (defaults.filter fun const => const.key = key)))
  | several {place other : Nat} (hne : place ≠ other) (hplace : FitsAt defaults key ty place)
      (hother : FitsAt defaults key ty other) :
      Resolves defaults member key ty (.error (ambiguous member key ty
        (defaults.filter fun const => const.key = key && const.ty.same ty)))

section Results

variable {defaults : List DefaultConst} {key : String} {ty : Ty}

theorem fitsAt_of_single {const : DefaultConst} {place : Nat}
    (h : fitting defaults key ty = [(const, place)]) (other : Nat) :
    FitsAt defaults key ty other ↔ other = place := by
  simp [fitsAt_iff, h]

theorem not_fitsAt_of_nil (h : fitting defaults key ty = []) (place : Nat) :
    ¬FitsAt defaults key ty place := by
  simp [fitsAt_iff, h]

/-- Several constants that fit stand at different places. -/
theorem fitsAt_of_several (hnil : fitting defaults key ty ≠ [])
    (hsingle : ∀ const place, fitting defaults key ty ≠ [(const, place)]) :
    ∃ place other, place ≠ other ∧ FitsAt defaults key ty place ∧
      FitsAt defaults key ty other := by
  have hnodup : ((fitting defaults key ty).map (·.2)).Nodup := fitting_nodup
  rcases hfound : fitting defaults key ty with _ | ⟨⟨const, place⟩, _ | ⟨⟨const', other⟩, rest⟩⟩
  · exact absurd hfound hnil
  · exact absurd hfound (hsingle const place)
  · rw [hfound] at hnodup
    have hne : place ≠ other := by
      rintro rfl
      simp at hnodup
    refine ⟨place, other, hne, fitsAt_iff.2 ⟨const, ?_⟩, fitsAt_iff.2 ⟨const', ?_⟩⟩
    · rw [hfound]
      exact List.mem_cons_self
    · rw [hfound]
      exact List.mem_cons_of_mem _ List.mem_cons_self

/-- The results exclude one another. -/
theorem Resolves.unique {member : Member} {result other : Except Diagnostic Nat}
    (h : Resolves defaults member key ty result) (h' : Resolves defaults member key ty other) :
    result = other := by
  cases h with
  | only honly =>
    cases h' with
    | only honly' => rw [(honly' _).1 ((honly _).2 rfl)]
    | none hnone => exact absurd ((honly _).2 rfl) (hnone _)
    | several hne hplace hother =>
      exact absurd (((honly _).1 hplace).trans ((honly _).1 hother).symm) hne
  | none hnone =>
    cases h' with
    | only honly => exact absurd ((honly _).2 rfl) (hnone _)
    | none _ => rfl
    | several _ hplace _ => exact absurd hplace (hnone _)
  | several hne hplace hother =>
    cases h' with
    | only honly => exact absurd (((honly _).1 hplace).trans ((honly _).1 hother).symm) hne
    | none hnone => exact absurd hplace (hnone _)
    | several _ _ _ => rfl

theorem resolves_resolveDefault {member : Member} (hkey : member.key.name? = some key)
    (htype : member.valueType = some ty) :
    Resolves defaults member key ty (resolveDefault member defaults) := by
  simp only [resolveDefault, hkey, htype]
  split
  · rename_i hfound
    exact .only (fitsAt_of_single hfound)
  · rename_i hfound
    have hmissing : Resolves defaults member key ty _ := .none (not_fitsAt_of_nil hfound)
    rw [← placed_map_fst] at hmissing
    cases hplaced : placed (·.key = key) defaults <;>
      simpa [missing, hplaced, Function.comp_def] using hmissing
  · rename_i hsingle hnil
    obtain ⟨place, other, hne, hplace, hother⟩ := fitsAt_of_several hnil hsingle
    have hambiguous : Resolves defaults member key ty _ := .several hne hplace hother
    rw [← placed_filter] at hambiguous
    simpa [ambiguous, Function.comp_def] using hambiguous

theorem resolveDefault_unfit {member : Member}
    (h : member.key.name? = none ∨ member.valueType = none) :
    resolveDefault member defaults = .error (.member member.pos member.name
      "a default can only be bound to a typed member with a fixed key") := by
  unfold resolveDefault
  split
  · rename_i hkey htype
    simp [hkey, htype] at h
  · rfl

end Results

/-! ### The stage -/

/-- The diagnostic of a step that failed. -/
def refusal? (result : Except Diagnostic α) : Option Diagnostic :=
  match result with
  | .ok _ => none
  | .error d => some d

theorem needsDefault_iff {access : Access} :
    access.needsDefault = true ↔ access = .get ∨ access = .observe := by
  cases access <;> simp [Access.needsDefault]

/-- A default is given to a getter or an observer, if there is one, and nothing else changes. -/
theorem bindDefault_fst {defaults : List DefaultConst} {member : Member}
    (hnone : member.default = none) :
    ∃ default, (bindDefault defaults member).1 = { member with default } ∧
      ∀ place, default = some place ↔ (member.access = .get ∨ member.access = .observe) ∧
        resolveDefault member defaults = .ok place := by
  rw [← needsDefault_iff]
  unfold bindDefault
  split
  · rename_i hneeds
    split
    · rename_i place hplace
      exact ⟨some place, rfl, by simp [hneeds, hplace]⟩
    · rename_i d hd
      exact ⟨member.default, rfl, by simp [hnone, hd]⟩
  · rename_i hneeds
    exact ⟨member.default, rfl, by simp [hnone, hneeds]⟩

theorem bindDefault_snd (defaults : List DefaultConst) (member : Member) :
    (bindDefault defaults member).2 = if member.access = .get ∨ member.access = .observe then
      refusal? (resolveDefault member defaults) else none := by
  simp only [← needsDefault_iff]
  unfold bindDefault
  split
  · cases resolveDefault member defaults <;> rfl
  · rfl

/-- Looking for defaults finds exactly the place of the only constant with a member's key and type,
or else says what there is instead. The stage that binds them gives each getter and each observer of
a parsed schema what is found; it reports the others, in declaration order, and changes nothing
else. -/
theorem default_binding_exact {mode : Mode} {args item : List Tree} {schema : Schema}
    (h : Returns (parse args item) mode schema) :
    (∀ member key ty, member.key.name? = some key → member.valueType = some ty →
      ∀ result, resolveDefault member schema.defaults = result ↔
        Resolves schema.defaults member key ty result) ∧
    (∀ member, member.key.name? = none ∨ member.valueType = none →
      resolveDefault member schema.defaults = .error (.member member.pos member.name
        "a default can only be bound to a typed member with a fixed key")) ∧
    ∃ members, Stage.defaults.run .collectAll schema = ⟨{ schema with members },
        schema.members.filterMap fun member =>
          if member.access = .get ∨ member.access = .observe then
            refusal? (resolveDefault member schema.defaults) else none, false⟩ ∧
      List.Forall₂ (fun before after => ∃ default, after = { before with default } ∧
        ∀ place, default = some place ↔ (before.access = .get ∨ before.access = .observe) ∧
          resolveDefault before schema.defaults = .ok place) schema.members members := by
  refine ⟨fun member key ty hkey htype result => ⟨?_, ?_⟩,
    fun member => resolveDefault_unfit, ?_⟩
  · rintro rfl
    exact resolves_resolveDefault hkey htype
  · exact fun hresolves => (resolves_resolveDefault hkey htype).unique hresolves
  · refine ⟨schema.members.map fun member => (bindDefault schema.defaults member).1, ?_, ?_⟩
    · simp only [Stage.run, overList_collectAll, Pass.map, bindDefault_snd]
    · rw [List.forall₂_map_right_iff, List.forall₂_same]
      exact fun member hmember => bindDefault_fst (parse_parsed h member hmember).default

/-- The getter of the draft has no default: the only constant with its key has another type, and the
diagnostic names that constant. -/
theorem default_binding_exact_draft : ∃ schema member const ty,
    Returns (parse draftArgs draftItem) .collectAll schema ∧ schema.members = [member] ∧
      schema.defaults = [const] ∧ member.access = .get ∧
      resolveDefault member schema.defaults = .error (missing member "g" ty [const]) ∧
      (Stage.defaults.run .collectAll schema).reported = [missing member "g" ty [const]] := by
  obtain ⟨schema, hschema, -, hsketch⟩ := exists_draft
  obtain ⟨member, hmembers, hmember⟩ :=
    List.map_eq_singleton_iff.1 (congrArg Sketch.members hsketch)
  obtain ⟨const, hdefaults, hconst⟩ :=
    List.map_eq_singleton_iff.1 (congrArg Sketch.defaults hsketch)
  simp only [Prod.mk.injEq] at hmember hconst
  obtain ⟨haccess, hkey, htype⟩ := hmember
  obtain ⟨ty, hty, htyKey⟩ := Option.map_eq_some_iff.1 htype
  obtain ⟨hfound, -, members, hrun, -⟩ := default_binding_exact hschema
  have hnone : ∀ place, ¬FitsAt schema.defaults "g" ty place := by
    rintro place ⟨other, hplace, -, hsame⟩
    have hmem := List.mem_of_getElem? hplace
    rw [hdefaults, List.mem_singleton] at hmem
    rw [hmem, Ty.same_iff, hconst.2, htyKey] at hsame
    exact absurd hsame (by decide)
  have hresult : resolveDefault member schema.defaults =
      .error (missing member "g" ty [const]) := by
    have hmissing := (hfound member "g" ty hkey hty _).2 (.none hnone)
    rw [hmissing, hdefaults, List.filter_singleton, hconst.1]
    rfl
  refine ⟨schema, member, const, ty, hschema, hmembers, hdefaults, haccess, hresult, ?_⟩
  rw [hrun, hmembers]
  simp [haccess, hresult, refusal?]

end Preferences.Schema
