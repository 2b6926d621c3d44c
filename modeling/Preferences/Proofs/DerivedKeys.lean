import Mathlib.Data.List.Basic
import Preferences.Proofs.WellFormed

/-! Keys that names stand for. All methods of one preference have names with the same stem, and the
stem is the key, whatever it looks like: what is taken off a name is taken off once, and never all
of it. The name of a constant has the same stem in capitals. -/

namespace Preferences.Schema

/-! ### Parts that are taken off -/

theorem orWhole_some {part : List Char} (hpart : part ≠ []) (text : List Char) :
    orWhole text (some part) = part := by
  cases part with
  | nil => exact absurd rfl hpart
  | cons c rest => rfl

/-- What is left of a text is a part of it. -/
theorem orWhole_part {text : List Char} {stripped : Option (List Char)}
    (h : ∀ part, stripped = some part → part <:+: text) : orWhole text stripped <:+: text := by
  unfold orWhole
  split
  · exact h _ rfl
  · exact List.infix_refl text

theorem part_of_isPrefixOf? {start part text : List Char}
    (h : start.isPrefixOf? text = some part) : part <:+: text :=
  ⟨start, [], by rw [List.append_nil, List.append_eq_of_isPrefixOf?_eq_some h]⟩

theorem part_of_isSuffixOf? {ending part text : List Char}
    (h : ending.isSuffixOf? text = some part) : part <:+: text :=
  ⟨[], ending, by rw [List.nil_append, List.append_eq_of_isSuffixOf?_eq_some h]⟩

/-! ### Methods -/

namespace Access

/-- What the names of methods with an access end in, behind the stem. -/
def keySuffix : Access → String
  | setSync => "_sync"
  | get | set | observe | contains | remove | clear => ""

/-- The first beginning of an access that a name has is the one that it was made with: of the two
beginnings of a test for a key neither begins the other. -/
theorem findSome?_keyPrefixes (access : Access) {start : String}
    (hstart : start ∈ access.keyPrefixes) (rest : List Char) :
    (access.keyPrefixes.findSome? fun first => first.toList.isPrefixOf? (start.toList ++ rest)) =
      some rest := by
  cases access <;> simp only [keyPrefixes, List.mem_cons, List.not_mem_nil, or_false] at hstart
  case contains =>
    rcases hstart with rfl | rfl
    · rfl
    · rfl
  all_goals
    subst hstart
    rfl

/-- The key of a name is its stem: the suffix is only taken off where the access has one. -/
theorem key_of_stem (access : Access) {start stem : String} (hstart : start ∈ access.keyPrefixes)
    (hstem : stem ≠ "") : access.key (start ++ stem ++ access.keySuffix) = stem := by
  have hne : stem.toList ≠ [] := toList_ne_nil hstem
  have hsplit : (start ++ stem ++ access.keySuffix).toList =
      start.toList ++ (stem.toList ++ access.keySuffix.toList) := by
    rw [String.toList_append, String.toList_append, List.append_assoc]
  have hrest : stem.toList ++ access.keySuffix.toList ≠ [] :=
    List.append_ne_nil_of_left_ne_nil hne _
  dsimp only [key]
  rw [hsplit, findSome?_keyPrefixes access hstart, orWhole_some hrest]
  cases access with
  | setSync =>
    show String.ofList (orWhole (stem.toList ++ "_sync".toList)
      ("_sync".toList.isSuffixOf? (stem.toList ++ "_sync".toList))) = stem
    rw [List.isSuffixOf?_eq_some_iff_append_eq.2 rfl, orWhole_some hne, String.ofList_toList]
  | get | set | observe | contains | remove | clear =>
    show String.ofList (stem.toList ++ []) = stem
    rw [List.append_nil, String.ofList_toList]

/-- A key is a part of the name that it is derived from. -/
theorem key_part (access : Access) (name : String) :
    (access.key name).toList <:+: name.toList := by
  have hfront : orWhole name.toList
      (access.keyPrefixes.findSome? fun start => start.toList.isPrefixOf? name.toList) <:+:
        name.toList := by
    refine orWhole_part fun part hpart => ?_
    obtain ⟨start, -, hstart⟩ := List.exists_of_findSome?_eq_some hpart
    exact part_of_isPrefixOf? hstart
  unfold key
  rw [String.toList_ofList]
  cases access with
  | setSync => exact (orWhole_part fun part hpart => part_of_isSuffixOf? hpart).trans hfront
  | get | set | observe | contains | remove | clear => exact hfront

end Access

/-! ### Constants -/

/-- Lower-case letters, digits and underscores. -/
def isStemChar (c : Char) : Bool := c.isLower || c.isDigit || c = '_'

theorem lowerAfter_of_ascii (before : List Char) {chars : List Char}
    (h : ∀ c ∈ chars, c.toNat < 128) : Text.lowerAfter before chars = chars.map Char.toLower := by
  induction chars generalizing before with
  | nil => rfl
  | cons c rest ih =>
    have hc : c.toNat < 128 := h c List.mem_cons_self
    have hsigma : c ≠ 'Σ' := by
      rintro rfl
      exact absurd hc (by decide)
    rw [Text.lowerAfter, if_neg hsigma, Text.lowerChar, if_pos hc,
      ih _ fun other hother => h other (List.mem_cons_of_mem c hother)]
    rfl

theorem toNat_lt_of_isStemChar {c : Char} (h : isStemChar c = true) : c.toNat < 128 := by
  simp only [isStemChar, Bool.or_eq_true, decide_eq_true_eq] at h
  rcases h with (hlower | hdigit) | rfl
  · have hle := of_decide_eq_true (Bool.and_eq_true_iff.1 hlower).2
    exact Nat.lt_of_le_of_lt (UInt32.le_iff_toNat_le.1 hle) (by decide)
  · have hle := of_decide_eq_true (Bool.and_eq_true_iff.1 hdigit).2
    exact Nat.lt_of_le_of_lt (UInt32.le_iff_toNat_le.1 hle) (by decide)
  · decide

/-- The capital of such a character is an ASCII character, and its lower case the character. -/
theorem toUpper_of_isStemChar {c : Char} (h : isStemChar c = true) :
    c.toUpper.toNat < 128 ∧ c.toUpper.toLower = c := by
  have hall : ∀ n < 128, isStemChar (Char.ofNat n) = true →
      (Char.ofNat n).toUpper.toNat < 128 ∧ (Char.ofNat n).toUpper.toLower = Char.ofNat n := by
    decide
  have hc := hall c.toNat (toNat_lt_of_isStemChar h)
  rw [Char.ofNat_toNat] at hc
  exact hc h

/-- The stem of a constant's name in capitals is that of the methods. -/
theorem constKey_of_stem {stem : String} (hstem : stem ≠ "")
    (hchars : ∀ c ∈ stem.toList, isStemChar c = true) :
    constKey ("DEFAULT_" ++ stem.toUpper) = stem := by
  have hupper : stem.toUpper.toList = stem.toList.map Char.toUpper := String.toList_map
  have hne : stem.toUpper.toList ≠ [] := by
    rw [hupper]
    exact fun hnil => toList_ne_nil hstem (List.map_eq_nil_iff.1 hnil)
  have hascii : ∀ c ∈ stem.toUpper.toList, c.toNat < 128 := by
    rw [hupper]
    intro c hc
    obtain ⟨d, hd, rfl⟩ := List.mem_map.1 hc
    exact (toUpper_of_isStemChar (hchars d hd)).1
  have hlower : stem.toUpper.toList.map Char.toLower = stem.toList := by
    rw [hupper, List.map_map]
    exact (List.map_congr_left fun c hc => (toUpper_of_isStemChar (hchars c hc)).2).trans
      (List.map_id _)
  rw [constKey, String.toList_append, List.isPrefixOf?_eq_some_iff_append_eq.2 rfl,
    orWhole_some hne, Text.lowercase, String.toList_ofList, lowerAfter_of_ascii [] hascii, hlower,
    String.ofList_toList]

/-! ### Names of one preference -/

/-- All names that are made for the methods of a preference stand for its stem, which may itself
look like a beginning or an ending; so does the name of its constant, for a stem that capitals keep
apart. Every name stands for a key, and that of a method for a part of it. -/
theorem derived_keys_agree :
    (∀ stem : String, stem ≠ "" →
      Access.get.key ("get_" ++ stem) = stem ∧ Access.observe.key ("observe_" ++ stem) = stem ∧
      Access.set.key ("set_" ++ stem) = stem ∧
      Access.setSync.key ("set_" ++ stem ++ "_sync") = stem ∧
      Access.contains.key ("has_" ++ stem) = stem ∧
      Access.contains.key ("contains_" ++ stem) = stem ∧
      Access.remove.key ("remove_" ++ stem) = stem) ∧
    (∀ stem : String, stem ≠ "" → (∀ c ∈ stem.toList, isStemChar c = true) →
      constKey ("DEFAULT_" ++ stem.toUpper) = stem) ∧
    ∀ name : String, name ≠ "" → constKey name ≠ "" ∧
      ∀ access : Access, access.key name ≠ "" ∧ (access.key name).toList <:+: name.toList := by
  refine ⟨fun stem hstem => ?_, fun stem => constKey_of_stem, fun name hname =>
    ⟨constKey_ne_empty hname, fun access =>
      ⟨accessKey_ne_empty access hname, access.key_part name⟩⟩⟩
  have hplain {access : Access} {start : String} (hstart : start ∈ access.keyPrefixes)
      (hsuffix : access.keySuffix = "") : access.key (start ++ stem) = stem := by
    have hkey := access.key_of_stem hstart hstem
    rwa [hsuffix, String.append_empty] at hkey
  refine ⟨hplain ?_ rfl, hplain ?_ rfl, hplain ?_ rfl, Access.setSync.key_of_stem ?_ hstem,
    hplain ?_ rfl, hplain ?_ rfl, hplain ?_ rfl⟩ <;> simp [Access.keyPrefixes]

/-- The stems are an ending alone, and the beginnings and endings of other names. -/
theorem derived_keys_agree_endings :
    "_sync" ≠ "" ∧ Access.setSync.key "set__sync_sync" = "_sync" ∧
      constKey "DEFAULT__SYNC" = "_sync" ∧ "has_contains_x" ≠ "" ∧
      Access.contains.key "contains_has_contains_x" = "has_contains_x" ∧
      Access.set.key "set_" ≠ "" := by
  obtain ⟨hmethods, hconstants, hnames⟩ := derived_keys_agree
  have hsync : "_sync" ≠ "" := by decide
  have htest : "has_contains_x" ≠ "" := by decide
  have hupper : "DEFAULT_" ++ "_sync".toUpper = "DEFAULT__SYNC" := by decide +kernel
  have hchars : "_sync".toList.all isStemChar = true := by decide +kernel
  have hconstant := hconstants "_sync" hsync (List.all_eq_true.1 hchars)
  rw [hupper] at hconstant
  exact ⟨hsync, (hmethods "_sync" hsync).2.2.2.1, hconstant, htest,
    (hmethods "has_contains_x" htest).2.2.2.2.2.1, ((hnames "set_" (by decide)).2 .set).1⟩

end Preferences.Schema
