import Preferences.Proofs.TypeIdentity

/-! Forms of types: what the tests that the reader of members makes of a type say about how it is
written. -/

namespace Preferences.Syntax

/-- A type of some form, perhaps with parentheses around it. -/
inductive Within (form : Ty → Prop) : Ty → Prop where
  | bare {ty} (hform : form ty) : Within form ty
  | paren {pos inner} (hinner : Within form inner) : Within form (.paren pos inner)

inductive UnitForm : Ty → Prop where
  | mk {pos trailing} : UnitForm (.tuple pos [] trailing)

/-- A word alone. -/
inductive WordForm (word : String) : Ty → Prop where
  | mk {pos nonempty} : WordForm word (.path none none [.mk ⟨word, pos, nonempty⟩ .none])

/-- A shared reference to a string slice. -/
inductive StringRefForm : Ty → Prop where
  | mk {pos lifetime target} (htarget : Within (WordForm "str") target) :
      StringRefForm (.reference pos lifetime false target)

inductive ReferenceForm : Ty → Prop where
  | mk {pos lifetime isMut target} : ReferenceForm (.reference pos lifetime isMut target)

/-- A path that ends in a word without arguments. -/
inductive NamedForm (word : String) : Ty → Prop where
  | mk {leading before pos nonempty} :
      NamedForm word (.path none leading (before ++ [.mk ⟨word, pos, nonempty⟩ .none]))

/-- Angle brackets with one type in them, perhaps among arguments that are no types. -/
inductive OnlyType (inner : Ty) : Arguments → Prop where
  | mk {turbofish before after trailing} (hbefore : ∀ ty, .type ty ∉ before)
      (hafter : ∀ ty, .type ty ∉ after) :
      OnlyType inner (.angle turbofish (before ++ .type inner :: after) trailing)

/-- A path that ends in a word with one type as its argument. -/
inductive WrapperForm (word : String) (inner : Ty) : Ty → Prop where
  | mk {qualifier leading before pos nonempty args} (hargs : OnlyType inner args) :
      WrapperForm word inner (.path qualifier leading (before ++ [.mk ⟨word, pos, nonempty⟩ args]))

namespace Ty

theorem within_iff {form : Ty → Prop} (hparen : ∀ pos inner, ¬form (.paren pos inner)) {ty : Ty} :
    Within form ty ↔ form ty.peeled := by
  constructor
  · intro h
    induction h with
    | bare hform =>
      unfold peeled
      split
      · exact absurd hform (hparen _ _)
      · exact hform
    | paren _ ih =>
      rw [peeled]
      exact ih
  · fun_induction peeled ty with
    | case1 pos inner ih => exact fun h => .paren (ih h)
    | case2 ty _ => exact .bare

/-- A type of another form is no unit. -/
theorem not_unit_of_within {form : Ty → Prop} (hparen : ∀ pos inner, ¬form (.paren pos inner))
    (hunit : ∀ pos trailing, ¬form (.tuple pos [] trailing)) {ty : Ty} (h : Within form ty) :
    ¬Within UnitForm ty := by
  rw [within_iff hparen] at h
  rw [within_iff nofun]
  generalize ty.peeled = core at h
  rintro ⟨⟩
  exact hunit _ _ h

theorem isUnit_iff {ty : Ty} : ty.isUnit = true ↔ Within UnitForm ty := by
  rw [within_iff nofun, isUnit]
  generalize ty.peeled = core
  constructor
  · intro h
    split at h
    · exact .mk
    · cases h
  · rintro ⟨⟩
    rfl

theorem isPlain_iff_within {ty : Ty} {word : String} :
    ty.isPlain word = true ↔ Within (WordForm word) ty := by
  rw [within_iff nofun, isPlain]
  generalize ty.peeled = core
  constructor
  · intro h
    split at h
    · obtain rfl := of_decide_eq_true h
      exact .mk
    · cases h
  · rintro ⟨⟩
    exact decide_eq_true rfl

theorem isStringRef_iff {ty : Ty} : ty.isStringRef = true ↔ Within StringRefForm ty := by
  rw [within_iff nofun, isStringRef]
  generalize ty.peeled = core
  constructor
  · intro h
    split at h
    · exact .mk (isPlain_iff_within.1 h)
    · cases h
  · rintro ⟨htarget⟩
    exact isPlain_iff_within.2 htarget

theorem isReference_iff {ty : Ty} : ty.isReference = true ↔ ReferenceForm ty := by
  unfold isReference
  constructor
  · intro h
    split at h
    · exact .mk
    · cases h
  · rintro ⟨⟩
    rfl

theorem isNamed_iff {ty : Ty} {word : String} :
    ty.isNamed word = true ↔ Within (NamedForm word) ty := by
  rw [within_iff nofun, isNamed]
  generalize ty.peeled = core
  constructor
  · intro h
    split at h
    · rename_i leading segments
      obtain ⟨⟨name, args⟩, hlast, htest⟩ := (Option.any_eq_true _ _).1 h
      obtain ⟨before, rfl⟩ := List.getLast?_eq_some_iff.1 hlast
      obtain ⟨hname, hargs⟩ := Bool.and_eq_true_iff.1 htest
      obtain rfl := of_decide_eq_true hname
      cases args with
      | none => exact .mk
      | angle => cases hargs
      | call => cases hargs
    · cases h
  · rintro ⟨⟩
    simp [Segment.name, Segment.args, Arguments.isNone]

theorem argumentTypes_eq_single {args : Arguments} {inner : Ty} :
    argumentTypes args = [inner] ↔ OnlyType inner args := by
  constructor
  · intro h
    cases args with
    | none => cases h
    | call => cases h
    | angle turbofish args trailing =>
      obtain ⟨before, arg, after, rfl, hbefore, harg, hafter⟩ := List.filterMap_eq_cons_iff.1 h
      obtain rfl : arg = .type inner := by
        cases arg <;> simp at harg
        rw [harg]
      refine .mk (fun ty hty => ?_) (fun ty hty => ?_)
      · cases hbefore _ hty
      · cases List.filterMap_eq_nil_iff.1 hafter _ hty
  · rintro ⟨hbefore, hafter⟩
    refine List.filterMap_eq_cons_iff.2 ⟨_, _, _, rfl, fun arg harg => ?_, rfl,
      List.filterMap_eq_nil_iff.2 fun arg harg => ?_⟩
    · split
      · exact absurd harg (hbefore _)
      · rfl
    · split
      · exact absurd harg (hafter _)
      · rfl

theorem unwrapped?_eq_some {ty inner : Ty} {word : String} :
    ty.unwrapped? word = some inner ↔ Within (WrapperForm word inner) ty := by
  rw [within_iff nofun, unwrapped?]
  generalize ty.peeled = core
  constructor
  · intro h
    split at h
    · rename_i qualifier leading segments
      obtain ⟨⟨name, args⟩, hlast, hwraps⟩ := Option.bind_eq_some_iff.1 h
      obtain ⟨before, rfl⟩ := List.getLast?_eq_some_iff.1 hlast
      split at hwraps
      · rename_i hname
        obtain rfl : name.text = word := hname
        split at hwraps
        · rename_i only htypes
          cases hwraps
          exact .mk (argumentTypes_eq_single.1 htypes)
        · cases hwraps
      · cases hwraps
    · cases h
  · rintro ⟨hargs⟩
    simp [Segment.name, Segment.args, argumentTypes_eq_single.2 hargs]

end Ty

end Preferences.Syntax
