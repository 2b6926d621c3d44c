import Preferences.Proofs.Acceptance

/-! Conflicts of keys. A typed member conflicts with the first typed member that has its key, if the
types of the two differ; it does not matter what stands between them or behind. The stage that
checks keys reports these conflicts in declaration order, and nothing else. -/

namespace Preferences.Schema

open Preferences.Source Preferences.Syntax

/-- A typed member with its key, decoded, and its declared type. -/
structure Member.Keyed (member : Member) (key : String) (ty : Ty) : Prop where
  typed : member.access.isTyped = true
  key : member.key.name? = some key
  valueType : member.valueType = some ty

theorem typedKey?_eq_some {member : Member} {key : String} {ty : Ty} :
    member.typedKey? = some (key, ty) ↔ member.Keyed key ty := by
  unfold Member.typedKey?
  constructor
  · intro h
    split at h
    · rename_i htyped
      split at h
      · rename_i hkey htype
        cases h
        exact ⟨htyped, hkey, htype⟩
      · cases h
    · cases h
  · rintro ⟨htyped, hkey, htype⟩
    rw [if_pos htyped, hkey, htype]

/-! ### The first member of a key -/

/-- The first typed member with a key, and its type. -/
def IsFirst (members : List Member) (key : String) (first : Member) (ty : Ty) : Prop :=
  ∃ before after, members = before ++ first :: after ∧ first.Keyed key ty ∧
    ∀ earlier ∈ before, ∀ ty', ¬earlier.Keyed key ty'

/-- A member with its type, if it is a typed member with the key. -/
def keyedAs? (key : String) (member : Member) : Option (Member × Ty) := do
  let (found, ty) ← member.typedKey?
  if found = key then some (member, ty) else none

theorem keyedAs?_eq_some {key : String} {member first : Member} {ty : Ty} :
    keyedAs? key member = some (first, ty) ↔ member = first ∧ member.Keyed key ty := by
  rw [← typedKey?_eq_some]
  cases hkey : member.typedKey? with
  | none => simp [keyedAs?, hkey]
  | some entry =>
    obtain ⟨found, foundTy⟩ := entry
    by_cases heq : found = key
    · simp [keyedAs?, hkey, heq]
    · simp [keyedAs?, hkey, heq]

theorem keyedAs?_eq_none {key : String} {member : Member} :
    keyedAs? key member = none ↔ ∀ ty, ¬member.Keyed key ty := by
  constructor
  · intro h ty hkeyed
    have hsome := keyedAs?_eq_some.2 ⟨rfl, hkeyed⟩
    rw [h] at hsome
    cases hsome
  · intro h
    cases hfound : keyedAs? key member with
    | none => rfl
    | some found => exact absurd (keyedAs?_eq_some.1 hfound).2 (h found.2)

theorem findSome?_keyedAs? {members : List Member} {key : String} {first : Member} {ty : Ty} :
    members.findSome? (keyedAs? key) = some (first, ty) ↔ IsFirst members key first ty := by
  rw [List.findSome?_eq_some_iff]
  constructor
  · rintro ⟨before, member, after, rfl, hmember, hbefore⟩
    obtain ⟨rfl, hkeyed⟩ := keyedAs?_eq_some.1 hmember
    exact ⟨before, after, rfl, hkeyed, fun earlier hmem =>
      keyedAs?_eq_none.1 (hbefore earlier hmem)⟩
  · rintro ⟨before, after, rfl, hkeyed, hbefore⟩
    exact ⟨before, first, after, rfl, keyedAs?_eq_some.2 ⟨rfl, hkeyed⟩,
      fun earlier hmem => keyedAs?_eq_none.2 (hbefore earlier hmem)⟩

/-! ### Conflicts -/

/-- The conflict of a member with the first member of its key. -/
def conflictOf (key : String) (first member : Member) (firstTy ty : Ty) : Diagnostic :=
  ⟨.conflictingKey key firstTy.shown ty.shown, member.pos,
    [(first.pos, "`" ++ first.name ++ "` uses the key first")]⟩

theorem conflict?_eq_some {members : List Member} {member : Member} {d : Diagnostic} :
    conflict? members member = some d ↔ ∃ key ty first firstTy, member.Keyed key ty ∧
      IsFirst members key first firstTy ∧ firstTy.key ≠ ty.key ∧
      d = conflictOf key first member firstTy ty := by
  constructor
  · intro h
    obtain ⟨⟨key, ty⟩, hkey, h⟩ := Option.bind_eq_some_iff.1 h
    obtain ⟨⟨first, firstTy⟩, hfirst, h⟩ := Option.bind_eq_some_iff.1 h
    dsimp only at h
    split at h
    · cases h
    · rename_i hsame
      cases h
      exact ⟨key, ty, first, firstTy, typedKey?_eq_some.1 hkey, findSome?_keyedAs?.1 hfirst,
        fun heq => hsame (Ty.same_iff.2 heq), rfl⟩
  · rintro ⟨key, ty, first, firstTy, hkeyed, hfirst, hdiffer, rfl⟩
    refine Option.bind_eq_some_iff.2 ⟨(key, ty), typedKey?_eq_some.2 hkeyed, ?_⟩
    refine Option.bind_eq_some_iff.2 ⟨(first, firstTy), findSome?_keyedAs?.2 hfirst, ?_⟩
    exact if_neg fun hsame => hdiffer (Ty.same_iff.1 hsame)

/-- A member conflicts with what stands before it just as with all members: if none before it has
its key, then it is the first one itself, and of the same type as itself. -/
theorem conflict?_append (before after : List Member) (member : Member) :
    conflict? (before ++ member :: after) member = conflict? before member := by
  cases hkey : member.typedKey? with
  | none => simp [conflict?, hkey]
  | some entry =>
    obtain ⟨key, ty⟩ := entry
    have hself : keyedAs? key member = some (member, ty) :=
      keyedAs?_eq_some.2 ⟨rfl, typedKey?_eq_some.1 hkey⟩
    have hall : (before ++ member :: after).findSome? (keyedAs? key) =
        (before.findSome? (keyedAs? key)).or (some (member, ty)) := by
      rw [List.findSome?_append, List.findSome?_cons, hself]
    show (member.typedKey?.bind fun entry => ((before ++ member :: after).findSome?
        (keyedAs? entry.1)).bind _) = member.typedKey?.bind fun entry =>
          (before.findSome? (keyedAs? entry.1)).bind _
    rw [hkey, Option.bind_some, Option.bind_some, hall]
    cases before.findSome? (keyedAs? key) with
    | some first => rfl
    | none => simp [Ty.same_iff]

theorem conflictsAfter_eq (before members : List Member) :
    conflictsAfter before members = members.filterMap (conflict? (before ++ members)) := by
  induction members generalizing before with
  | nil => rfl
  | cons member rest ih =>
    rw [conflictsAfter, ih, List.filterMap_cons, conflict?_append, List.append_assoc,
      List.singleton_append]
    cases conflict? before member <;> rfl

theorem oneType_iff_keyed {members : List Member} :
    OneType members ↔ ∀ m ∈ members, ∀ n ∈ members, ∀ key ty ty', m.Keyed key ty →
      n.Keyed key ty' → ty.key = ty'.key := by
  simp only [OneType, typedKey?_eq_some, Ty.same_iff]

/-- The stage that checks keys reports one conflict for each typed member whose type is not that of
the first typed member with its key, in declaration order, and nothing else. So it reports nothing
if and only if typed members of one key have one type. It changes nothing, in either mode. -/
theorem conflicts_exact (schema : Schema) :
    (∃ conflict : Member → Option Diagnostic,
      (Stage.keys.run .collectAll schema).reported = schema.members.filterMap conflict ∧
      ∀ member d, conflict member = some d ↔ ∃ key ty first firstTy, member.Keyed key ty ∧
        IsFirst schema.members key first firstTy ∧ firstTy.key ≠ ty.key ∧
        d = conflictOf key first member firstTy ty) ∧
    ((Stage.keys.run .collectAll schema).reported = [] ↔
      ∀ m ∈ schema.members, ∀ n ∈ schema.members, ∀ key ty ty', m.Keyed key ty →
        n.Keyed key ty' → ty.key = ty'.key) ∧
    (Stage.keys.run .collectAll schema).aborted = false ∧
    ∀ mode, (Stage.keys.run mode schema).value = schema := by
  have hpass : Stage.keys.run .collectAll schema =
      ⟨schema, conflictsAfter [] schema.members, false⟩ := by
    simp [Stage.run, overList_collectAll, Pass.map]
  rw [hpass]
  refine ⟨⟨conflict? schema.members, conflictsAfter_eq [] schema.members,
    fun member d => conflict?_eq_some⟩, ?_, rfl, fun mode => rfl⟩
  rw [conflictsAfter_eq_nil_iff, oneType_iff_keyed]

end Preferences.Schema
