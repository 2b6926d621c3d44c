import Preferences.Proofs.TypeForms

/-! Types that are stored natively, in three ways of saying which: by how they are written, by the
spelling that identifies them, and by the storage they get. Each kind of stored values has one word
that identifies a type of the kind, and no other type, however it is written, is identified by
it. -/

namespace Preferences.Syntax

open Preferences.Source Preferences.Store

/-- The word that identifies the type of values of a kind. -/
def typeWord : Kind → String
  | .boolean => "bool"
  | .float => "f32"
  | .integer => "i32"
  | .long => "i64"
  | .string => "String"

/-- The scalars are the kinds but the string, each with its word. -/
theorem mem_scalars_iff {word : String} {kind : Kind} :
    (word, kind) ∈ Schema.scalars ↔ kind ≠ .string ∧ word = typeWord kind := by
  cases kind <;> simp [Schema.scalars, typeWord]

/-- How the type of values of a kind may be written: as its word alone, and a string also as a
shared reference to a slice, or as the path with the crate that defines it, with or without `::` in
front. -/
inductive NativeForm : Kind → Ty → Prop where
  | word {kind ty} (hword : WordForm (typeWord kind) ty) : NativeForm kind ty
  | reference {ty} (hreference : StringRefForm ty) : NativeForm .string ty
  | path {leading} {crate module last : Name} (hcrate : crate.text = "std" ∨ crate.text = "alloc")
      (hmodule : module.text = "string") (hlast : last.text = "String") :
      NativeForm .string (.path none leading [.mk crate .none, .mk module .none, .mk last .none])

theorem WordForm.not_paren {word : String} (pos : Position) (inner : Ty) :
    ¬WordForm word (.paren pos inner) := by
  rintro ⟨⟩

theorem StringRefForm.not_paren (pos : Position) (inner : Ty) :
    ¬StringRefForm (.paren pos inner) := by
  rintro ⟨⟩

theorem NativeForm.not_paren {kind : Kind} (pos : Position) (inner : Ty) :
    ¬NativeForm kind (.paren pos inner) := by
  rintro (⟨⟨⟩⟩ | ⟨⟨⟩⟩)

theorem Arguments.isNone_iff {args : Arguments} : args.isNone = true ↔ args = .none := by
  cases args <;> simp [Arguments.isNone]

namespace Ty

/-! ### Spellings -/

/-- Segments without arguments that make one of the paths of the string type. -/
theorem stringPath_iff {segments : List Segment} :
    (segments.all (·.args.isNone) && stringPaths.contains (segments.map (·.name.text))) = true ↔
      ∃ crate module last : Name, segments = [.mk crate .none, .mk module .none, .mk last .none] ∧
        (crate.text = "std" ∨ crate.text = "alloc") ∧ module.text = "string" ∧
          last.text = "String" := by
  constructor
  · intro h
    obtain ⟨hplain, hpath⟩ := Bool.and_eq_true_iff.1 h
    have hlength : segments.length = 3 := by
      have hmem := List.mem_of_elem_eq_true hpath
      rw [← List.length_map (·.name.text)]
      rcases List.mem_cons.1 hmem with heq | hmem
      · rw [heq]
        rfl
      · rw [List.mem_singleton.1 hmem]
        rfl
    match segments, hlength with
    | [.mk crate first, .mk module second, .mk last third], _ =>
      simp only [List.all_cons, List.all_nil, Bool.and_true, Bool.and_eq_true, Segment.args,
        Arguments.isNone_iff] at hplain
      obtain ⟨rfl, rfl, rfl⟩ := hplain
      refine ⟨crate, module, last, rfl, ?_⟩
      simpa [stringPaths, Segment.name, ← or_and_right] using hpath
  · rintro ⟨crate, module, last, rfl, hcrate, hmodule, hlast⟩
    rcases hcrate with hcrate | hcrate <;>
      simp [stringPaths, Segment.name, Segment.args, Arguments.isNone, hcrate, hmodule, hlast]

theorem isString_iff {ty : Ty} : ty.peeled.isString = true ↔ Within (NativeForm .string) ty := by
  have hword : ty.peeled.isPlain "String" = true ↔ WordForm "String" ty.peeled := by
    rw [isPlain_iff_within, within_iff WordForm.not_paren, peeled_peeled]
  have hreference : ty.peeled.isStringRef = true ↔ StringRefForm ty.peeled := by
    rw [isStringRef_iff, within_iff StringRefForm.not_paren, peeled_peeled]
  unfold isString
  rw [within_iff NativeForm.not_paren, Bool.or_eq_true, Bool.or_eq_true, hword, hreference]
  generalize ty.peeled = core
  constructor
  · rintro ((hword | hreference) | hpath)
    · exact .word hword
    · exact .reference hreference
    · split at hpath
      · obtain ⟨crate, module, last, rfl, hcrate, hmodule, hlast⟩ := stringPath_iff.1 hpath
        exact .path hcrate hmodule hlast
      · cases hpath
  · intro hform
    cases hform with
    | word hword => exact .inl (.inl hword)
    | reference hreference => exact .inl (.inr hreference)
    | path hcrate hmodule hlast =>
      exact .inr (stringPath_iff.2 ⟨_, _, _, rfl, hcrate, hmodule, hlast⟩)

/-- The word of a scalar identifies the bare word alone. -/
theorem key_eq_scalar_iff {word : String} {kind : Kind} (h : (word, kind) ∈ Schema.scalars)
    {ty : Ty} : ty.key = word ↔ Within (WordForm word) ty := by
  have hword := isTypeWord_of_scalar h
  have hne : word ≠ "String" := by
    rintro rfl
    simp [Schema.scalars] at h
  rw [← isPlain_iff_within]
  cases hstring : ty.peeled.isString with
  | false => exact key_eq_word_iff hword hstring
  | true =>
    refine iff_of_false (fun hkey => hne ?_) fun hplain => ?_
    · rw [← hkey, key_of_isString hstring]
    · rw [isPlain_iff_within, within_iff WordForm.not_paren] at hplain
      have hform := (within_iff NativeForm.not_paren).1 (isString_iff.1 hstring)
      generalize ty.peeled = core at hplain hform
      cases hplain with
      | mk =>
        cases hform with
        | word hsame =>
          cases hsame
          exact hne rfl
        | reference hreference => cases hreference

/-- The word of a kind identifies exactly the spellings of the kind's type. -/
theorem key_eq_typeWord_iff {kind : Kind} {ty : Ty} :
    ty.key = typeWord kind ↔ Within (NativeForm kind) ty := by
  by_cases hkind : kind = .string
  · subst hkind
    exact key_eq_string_iff.trans isString_iff
  · have hscalar : Within (NativeForm kind) ty ↔ Within (WordForm (typeWord kind)) ty := by
      rw [within_iff NativeForm.not_paren, within_iff WordForm.not_paren]
      generalize ty.peeled = core
      constructor
      · intro hform
        cases hform with
        | word hword => exact hword
        | reference | path => exact absurd rfl hkind
      · exact .word
    rw [hscalar]
    exact key_eq_scalar_iff (mem_scalars_iff.2 ⟨hkind, rfl⟩)

end Ty

end Preferences.Syntax

namespace Preferences.Schema

open Preferences.Source Preferences.Store Preferences.Syntax

/-! ### Storage -/

theorem Storage.ofKey_eq_native_iff {key : String} {kind : Kind} :
    Storage.ofKey key = .native kind ↔ key = typeWord kind := by
  by_cases hnative : ∃ found, key = typeWord found
  · obtain ⟨found, rfl⟩ := hnative
    cases found <;> cases kind <;> decide
  · simp only [not_exists] at hnative
    have hstring : key ≠ "String" := hnative .string
    refine iff_of_false ?_ (hnative kind)
    rw [Storage.ofKey, if_neg hstring]
    split
    · rename_i hfound
      have hkey := List.find?_some hfound
      have hword := (mem_scalars_iff.1 (List.mem_of_find?_eq_some hfound)).2
      exact absurd ((of_decide_eq_true hkey).trans hword) (hnative _)
    · intro h
      cases h

/-- The spelling that identifies a type decides how its values are stored, so types that are the
same are stored alike; and it is the word of a kind exactly for the types that are stored as the
kind, which are those that are written as the kind's type may be. -/
theorem storage_by_identity (a b : Ty) :
    (a.same b = true → Storage.ofType a = Storage.ofType b) ∧
    ∀ kind, (Storage.ofType a = .native kind ↔ a.key = typeWord kind) ∧
      (a.key = typeWord kind ↔ Within (NativeForm kind) a) := by
  refine ⟨Storage.ofType_eq_of_same, fun kind => ⟨?_, Ty.key_eq_typeWord_iff⟩⟩
  rw [Storage.ofType_eq_ofKey, Storage.ofKey_eq_native_iff]

/-- The type `::alloc::string::String`. -/
def allocString : Ty := .path none (some .start)
  [.mk ⟨"alloc", .start, by decide⟩ .none, .mk ⟨"string", .start, by decide⟩ .none,
    .mk ⟨"String", .start, by decide⟩ .none]

/-- The type `(&'static (str))`. -/
def stringSlice : Ty := .paren .start (.reference .start [.plain "'static"] false
  (.paren .start (.path none none [.mk ⟨"str", .start, by decide⟩ .none])))

/-- Two spellings of the string type have no word in common. -/
theorem storage_by_identity_string : allocString.same stringSlice = true ∧
    Storage.ofType allocString = Storage.ofType stringSlice ∧ allocString.key = typeWord .string ∧
      Storage.ofType allocString = .native .string := by
  have hsame : allocString.same stringSlice = true := by decide
  have hkey : allocString.key = typeWord .string := by decide
  obtain ⟨hstored, hnative⟩ := storage_by_identity allocString stringSlice
  exact ⟨hsame, hstored hsame, hkey, (hnative .string).1.2 hkey⟩

end Preferences.Schema
