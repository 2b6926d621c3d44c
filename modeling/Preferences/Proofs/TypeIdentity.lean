import Mathlib.Data.List.Find
import Preferences.Schema.Storage

/-! Type identity. The spelling that identifies a type decides how its values are stored: a scalar's
spelling belongs to no other type, since the code of every other type has a mark in it or begins
with a keyword. -/

namespace Preferences.Source

/-! ### Printed code -/

theorem Code.text_cons_toList (piece : Piece) (rest : Code) :
    ∃ more, (Code.text (piece :: rest)).toList = piece.text.toList ++ more := by
  cases rest with
  | nil => exact ⟨[], by simp [Code.text]⟩
  | cons next rest =>
    simp only [Code.text, String.toList_append, List.append_assoc]
    exact ⟨_, rfl⟩

/-- The characters of a piece are among those of the code. -/
theorem Code.mem_text {piece : Piece} {code : Code} {c : Char} (h : piece ∈ code)
    (hc : c ∈ piece.text.toList) : c ∈ (Code.text code).toList := by
  induction code with
  | nil => cases h
  | cons first rest ih =>
    rcases List.mem_cons.1 h with rfl | h
    · obtain ⟨more, hmore⟩ := Code.text_cons_toList piece rest
      rw [hmore]
      exact List.mem_append_left more hc
    · cases rest with
      | nil => cases h
      | cons next rest =>
        simp only [Code.text, String.toList_append]
        exact List.mem_append_right _ (ih h)

/-- The character that a group begins with. -/
def Delimiter.opening : Delimiter → Char
  | .parenthesis => '('
  | .bracket => '['
  | .brace => '\x7b'

theorem Piece.opening_mem_group (delimiter : Delimiter) (body : Code) :
    delimiter.opening ∈ (Piece.group delimiter body).text.toList := by
  cases delimiter with
  | parenthesis => simp [Piece.text, Delimiter.enclose, Delimiter.opening]
  | bracket => simp [Piece.text, Delimiter.enclose, Delimiter.opening]
  | brace =>
    simp only [Piece.text, Delimiter.enclose, Delimiter.opening]
    split <;> simp

end Preferences.Source

namespace Preferences.Syntax.Ty

open Preferences.Source

/-! ### Marks -/

/-- Code with a character in it that no word has. -/
def HasMark (code : Code) : Prop := ∃ c ∈ (Code.text code).toList, c.isAlphanum = false

theorem hasMark_of_mem {piece : Piece} {code : Code} (h : piece ∈ code) {c : Char}
    (hc : c ∈ piece.text.toList) (hmark : c.isAlphanum = false) : HasMark code :=
  ⟨c, Code.mem_text h hc, hmark⟩

theorem hasMark_of_group {code : Code} (delimiter : Delimiter) (body : Code)
    (h : Piece.group delimiter body ∈ code) : HasMark code := by
  refine hasMark_of_mem h (Piece.opening_mem_group delimiter body) ?_
  cases delimiter <;> rfl

/-- A symbol in the code is a mark in it. -/
theorem hasMark_of_symbol {code : Code} (text : String) (c : Char)
    (h : Piece.plain text ∈ code) (hc : text.toList.head? = some c)
    (hmark : c.isAlphanum = false) : HasMark code :=
  hasMark_of_mem h (List.mem_of_mem_head? hc) hmark

/-! ### The code of a type -/

/-- A path that is no bare name has a mark in its code, or no code at all. -/
theorem path_code (qualifier : Option (Position × Code)) (leading : Option Position)
    (segments : List Segment) :
    (∃ name, qualifier = none ∧ leading = none ∧ segments = [.mk name .none]) ∨
      HasMark (Ty.path qualifier leading segments).code ∨
      (Ty.path qualifier leading segments).code = [] := by
  match qualifier, leading, segments with
  | some _, _, _ =>
    exact .inr (.inl (hasMark_of_symbol "<" '<' (by simp [Ty.code]) rfl rfl))
  | none, some _, _ =>
    exact .inr (.inl (hasMark_of_symbol "::" ':' (by simp [Ty.code]) rfl rfl))
  | none, none, [] =>
    exact .inr (.inr (by simp [Ty.code, Segment.codes, Code.separated]))
  | none, none, [.mk name .none] => exact .inl ⟨name, rfl, rfl, rfl⟩
  | none, none, [.mk _ (.angle ..)] =>
    refine .inr (.inl (hasMark_of_symbol "<" '<' ?_ rfl rfl))
    simp [Ty.code, Segment.codes, Segment.code, Code.separated, Arguments.code]
  | none, none, [.mk _ (.call inputs _)] =>
    refine .inr (.inl (hasMark_of_group .parenthesis inputs ?_))
    simp [Ty.code, Segment.codes, Segment.code, Code.separated, Arguments.code]
  | none, none, _ :: _ :: _ =>
    refine .inr (.inl (hasMark_of_symbol "::" ':' ?_ rfl rfl))
    simp [Ty.code, Segment.codes, Code.separated]

/-- The code of a type that is no bare name has a mark in it, or is empty, or begins with the
keyword in front of bounds. -/
theorem code_shape (ty : Ty) :
    (∃ name, ty = .path none none [.mk name .none]) ∨ HasMark ty.code ∨ ty.code = [] ∨
      ∃ keyword rest, ty.code = .plain keyword :: rest ∧ (keyword = "dyn" ∨ keyword = "impl") := by
  cases ty with
  | path qualifier leading segments =>
    rcases path_code qualifier leading segments with ⟨name, rfl, rfl, rfl⟩ | hmark | hempty
    · exact .inl ⟨name, rfl⟩
    · exact .inr (.inl hmark)
    · exact .inr (.inr (.inl hempty))
  | bounded _ isImpl bounds =>
    refine .inr (.inr (.inr ⟨if isImpl then "impl" else "dyn", bounds, by simp [Ty.code], ?_⟩))
    cases isImpl <;> simp
  | paren | tuple | boundGroup | bracketed =>
    exact .inr (.inl (hasMark_of_group _ _ (List.mem_singleton_self _)))
  | function _ _ params _ =>
    exact .inr (.inl (hasMark_of_group .parenthesis params (by simp [Ty.code])))
  | reference => exact .inr (.inl (hasMark_of_symbol "&" '&' (by simp [Ty.code]) rfl rfl))
  | pointer =>
    exact .inr (.inl (hasMark_of_symbol "*" '*' (by simp [Ty.code, Code.words]) rfl rfl))
  | never => exact .inr (.inl (hasMark_of_symbol "!" '!' (by simp [Ty.code]) rfl rfl))
  | infer => exact .inr (.inl (hasMark_of_symbol "_" '_' (by simp [Ty.code]) rfl rfl))
  | sum => exact .inr (.inl (hasMark_of_symbol "+" '+' (by simp [Ty.code]) rfl rfl))
  | ranked =>
    exact .inr (.inl (hasMark_of_symbol "<" '<' (by simp [Ty.code, Code.words]) rfl rfl))
  | call => exact .inr (.inl (hasMark_of_symbol "!" '!' (by simp [Ty.code]) rfl rfl))

/-! ### Words that are types -/

/-- A word of letters and digits that begins with no keyword in front of bounds. -/
structure IsTypeWord (word : String) : Prop where
  ne_empty : word ≠ ""
  alphanum : word.toList.all Char.isAlphanum = true
  not_dyn : "dyn".toList.isPrefixOf word.toList = false
  not_impl : "impl".toList.isPrefixOf word.toList = false

theorem isTypeWord_string : IsTypeWord "String" := by constructor <;> decide

theorem isTypeWord_of_scalar {word : String} {kind : Store.Kind}
    (h : (word, kind) ∈ Schema.scalars) : IsTypeWord word := by
  simp only [Schema.scalars, List.mem_cons, Prod.mk.injEq, List.not_mem_nil, or_false] at h
  rcases h with ⟨rfl, -⟩ | ⟨rfl, -⟩ | ⟨rfl, -⟩ | ⟨rfl, -⟩ <;> constructor <;> decide

theorem isPlain_iff {ty : Ty} {word : String} :
    ty.isPlain word = true ↔ ∃ name, ty.peeled = .path none none [.mk name .none] ∧
      name.text = word := by
  unfold isPlain
  split
  · rename_i only hpeeled
    simp [hpeeled]
  · rename_i hother
    simp only [Bool.false_eq_true, false_iff]
    rintro ⟨name, hpeeled, -⟩
    exact hother name hpeeled

theorem text_of_isPlain {ty : Ty} {word : String} (h : ty.isPlain word = true) :
    Code.text ty.peeled.code = word := by
  obtain ⟨name, hname, rfl⟩ := isPlain_iff.1 h
  rw [hname]
  simp [Ty.code, Segment.codes, Segment.code, Code.separated, Arguments.code, Code.text,
    Name.piece, Piece.text]

/-- The code of a type is such a word only if the type is the bare name. -/
theorem isPlain_of_text {ty : Ty} {word : String} (hword : IsTypeWord word)
    (h : Code.text ty.peeled.code = word) : ty.isPlain word = true := by
  rcases code_shape ty.peeled with ⟨name, hname⟩ | ⟨c, hc, hmark⟩ | hempty | ⟨key, rest, hkey, hor⟩
  · refine isPlain_iff.2 ⟨name, hname, ?_⟩
    rw [← h, text_of_isPlain (isPlain_iff.2 ⟨name, hname, rfl⟩)]
  · rw [h] at hc
    rw [List.all_eq_true.1 hword.alphanum c hc] at hmark
    cases hmark
  · rw [hempty] at h
    exact absurd h.symm hword.ne_empty
  · obtain ⟨more, hmore⟩ := Code.text_cons_toList (.plain key) rest
    rw [← hkey, h] at hmore
    have hstart : key.toList.isPrefixOf word.toList = true :=
      List.isPrefixOf_iff_prefix.2 ⟨more, hmore.symm⟩
    rcases hor with rfl | rfl
    · rw [hword.not_dyn] at hstart
      cases hstart
    · rw [hword.not_impl] at hstart
      cases hstart

theorem peeled_peeled (ty : Ty) : ty.peeled.peeled = ty.peeled := by
  fun_induction peeled ty with
  | case1 _ _ ih => exact ih
  | case2 ty hty =>
    unfold peeled
    split
    · rename_i pos inner
      exact absurd rfl (hty pos inner)
    · rfl

theorem isPlain_peeled (ty : Ty) (word : String) : ty.peeled.isPlain word = ty.isPlain word := by
  unfold isPlain
  rw [peeled_peeled]

theorem same_iff {a b : Ty} : a.same b = true ↔ a.key = b.key := decide_eq_true_iff

theorem key_of_isString {ty : Ty} (h : ty.peeled.isString = true) : ty.key = "String" := by
  simp [key, h]

theorem key_of_not_isString {ty : Ty} (h : ty.peeled.isString = false) :
    ty.key = Code.text ty.peeled.code := by
  simp [key, h]

/-- Only spellings of the string type have its key. -/
theorem key_eq_string_iff {ty : Ty} : ty.key = "String" ↔ ty.peeled.isString = true := by
  refine ⟨fun h => ?_, key_of_isString⟩
  cases hstring : ty.peeled.isString with
  | true => rfl
  | false =>
    rw [key_of_not_isString hstring] at h
    have hplain := isPlain_of_text isTypeWord_string h
    rw [← isPlain_peeled] at hplain
    simp [isString, hplain] at hstring

/-- Apart from strings, the key of a type is a word only if the type is the bare name. -/
theorem key_eq_word_iff {ty : Ty} {word : String} (hword : IsTypeWord word)
    (hstring : ty.peeled.isString = false) : ty.key = word ↔ ty.isPlain word = true := by
  rw [key_of_not_isString hstring]
  exact ⟨isPlain_of_text hword, text_of_isPlain⟩

end Preferences.Syntax.Ty

namespace Preferences.Schema

open Preferences.Store Preferences.Syntax

/-! ### Storage -/

/-- The storage of the types with a key. -/
def Storage.ofKey (key : String) : Storage :=
  if key = "String" then .native .string
  else
    match scalars.find? fun (name, _) => key = name with
    | some (_, kind) => .native kind
    | none => .adapted

/-- How a type is stored depends on its key alone. -/
theorem Storage.ofType_eq_ofKey (ty : Ty) : Storage.ofType ty = Storage.ofKey ty.key := by
  cases hstring : ty.peeled.isString with
  | true => simp [Storage.ofType, Storage.ofKey, hstring, Ty.key_of_isString hstring]
  | false =>
    have hkey : ty.key ≠ "String" := fun h => by
      rw [Ty.key_eq_string_iff, hstring] at h
      cases h
    have htest : ∀ entry ∈ scalars,
        ty.peeled.isPlain entry.1 = decide (ty.key = entry.1) := by
      intro entry hentry
      rw [Ty.isPlain_peeled, Bool.eq_iff_iff, decide_eq_true_iff,
        Ty.key_eq_word_iff (Ty.isTypeWord_of_scalar hentry) hstring]
    have hfind : (scalars.find? fun (name, _) => ty.peeled.isPlain name) =
        scalars.find? fun (name, _) => ty.key = name :=
      List.find?_congr htest
    simp only [Storage.ofType, Storage.ofKey, hstring, hkey, hfind]
    rfl

theorem Storage.ofType_eq_of_same {a b : Ty} (h : a.same b = true) :
    Storage.ofType a = Storage.ofType b := by
  rw [Storage.ofType_eq_ofKey, Storage.ofType_eq_ofKey, Ty.same_iff.1 h]

end Preferences.Schema
