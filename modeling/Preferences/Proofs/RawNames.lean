import Preferences.Proofs.DerivedKeys
import Preferences.Proofs.Renaming

/-! Raw names. A raw name is the name behind its mark, but a key is made of the name as it is
spelled, mark and all. So a name that is spelled the other way stands for another key, and has no
other effect. -/

namespace Preferences.Source

/-- The name with the mark of a raw name. -/
def Name.raw (name : Name) : Name := ⟨"r#" ++ name.text, name.pos, by simp⟩

/-- Spellings of one name at the same place, both the same or just one of them raw. The mark is the
only place for `#` in a name. -/
inductive Name.Respelled : Name → Name → Prop where
  | same {name} : Respelled name name
  | raw {name} (hplain : '#' ∉ name.text.toList) : Respelled name name.raw
  | plain {name} (hplain : '#' ∉ name.text.toList) : Respelled name.raw name

theorem Name.Respelled.pos {a b : Name} (h : a.Respelled b) : a.pos = b.pos := by
  cases h <;> rfl

theorem Name.Respelled.symm {a b : Name} (h : a.Respelled b) : b.Respelled a := by
  cases h with
  | same => exact .same
  | raw hplain => exact .plain hplain
  | plain hplain => exact .raw hplain

end Preferences.Source

namespace Preferences.Schema

open Preferences.Source Preferences.Syntax Report

/-! ### Marks in keys -/

theorem ofNat_ne_hash {n : Nat} (h : 35 < n) : Char.ofNat n ≠ '#' := by
  intro heq
  by_cases hvalid : n.isValidChar
  · have hchar : Char.ofNat n = Char.ofNatAux n hvalid := dif_pos hvalid
    have hcode : n = 35 := congrArg Char.toNat (hchar.symm.trans heq)
    exact Nat.ne_of_gt h hcode
  · have hchar : Char.ofNat n = '\x00' := dif_neg hvalid
    exact absurd (hchar.symm.trans heq) (by decide)

theorem hash_mem_lowerChar {c : Char} : '#' ∈ Text.lowerChar c ↔ c = '#' := by
  by_cases hascii : c.toNat < 128
  · have hall : ∀ n < 128, (Char.ofNat n).toLower = '#' → Char.ofNat n = '#' := by decide
    have hc := hall c.toNat hascii
    rw [Char.ofNat_toNat] at hc
    rw [Text.lowerChar, if_pos hascii, List.mem_singleton]
    constructor
    · exact fun h => hc h.symm
    · rintro rfl
      rfl
  · have hne : c ≠ '#' := by
      rintro rfl
      exact hascii (by decide)
    -- The code point of the mark is 35, and no range of capitals is mapped as far down as that.
    have htargets : ∀ entry ∈ Text.lowerRanges, 35 < entry.2.2.2 := by decide +kernel
    refine iff_of_false ?_ hne
    rw [Text.lowerChar, if_neg hascii]
    split
    · decide
    · split
      · rename_i first _ _ target hfind
        have htarget := htargets _ (List.mem_of_find?_eq_some hfind)
        rw [List.mem_singleton, eq_comm]
        exact ofNat_ne_hash (Nat.lt_of_lt_of_le htarget (Nat.le_add_right _ _))
      · rw [List.mem_singleton]
        exact hne.symm

theorem hash_mem_lowerAfter (before chars : List Char) :
    '#' ∈ Text.lowerAfter before chars ↔ '#' ∈ chars := by
  induction chars generalizing before with
  | nil => rfl
  | cons c rest ih =>
    rw [Text.lowerAfter, List.mem_append, List.mem_cons, ih]
    refine or_congr_left ?_
    split
    · rename_i hsigma
      subst hsigma
      split <;> decide
    · rw [hash_mem_lowerChar, eq_comm]

theorem hash_mem_orWhole {text : List Char} {stripped : Option (List Char)} (htext : '#' ∈ text)
    (hpart : ∀ part, stripped = some part → '#' ∈ part) : '#' ∈ orWhole text stripped := by
  unfold orWhole
  split
  · exact hpart _ rfl
  · exact htext

theorem toList_raw (name : Name) : name.raw.text.toList = 'r' :: '#' :: name.text.toList := by
  rw [Name.raw, String.toList_append]
  rfl

/-- No beginning is taken off a raw name, and no ending has the mark in it. -/
theorem hash_mem_key_raw (derivation : Derivation) (name : Name) :
    '#' ∈ (derivation.key name.raw.text).toList := by
  have hname : '#' ∈ name.raw.text.toList := by
    rw [toList_raw]
    exact List.mem_cons_of_mem _ List.mem_cons_self
  cases derivation with
  | constant =>
    have hwhole : orWhole name.raw.text.toList
        ("DEFAULT_".toList.isPrefixOf? name.raw.text.toList) = name.raw.text.toList := by
      rw [toList_raw]
      rfl
    rw [Derivation.key, constKey, Text.lowercase, String.toList_ofList, hash_mem_lowerAfter,
      String.toList_ofList, hwhole]
    exact hname
  | method access =>
    have hwhole : orWhole name.raw.text.toList (access.keyPrefixes.findSome? fun start =>
        start.toList.isPrefixOf? name.raw.text.toList) = name.raw.text.toList := by
      rw [toList_raw]
      cases access <;> rfl
    simp only [Derivation.key, Access.key, hwhole, String.toList_ofList]
    cases access with
    | setSync =>
      refine hash_mem_orWhole hname fun part hpart => ?_
      have hsplit := List.append_eq_of_isSuffixOf?_eq_some hpart
      rw [← hsplit, List.mem_append] at hname
      exact hname.resolve_right (by decide)
    | get | set | observe | contains | remove | clear => exact hname

theorem hash_not_mem_key {name : Name} (h : '#' ∉ name.text.toList) (derivation : Derivation) :
    '#' ∉ (derivation.key name.text).toList := by
  cases derivation with
  | constant =>
    rw [Derivation.key, constKey, Text.lowercase, String.toList_ofList, hash_mem_lowerAfter,
      String.toList_ofList]
    have hpart : orWhole name.text.toList ("DEFAULT_".toList.isPrefixOf? name.text.toList) <:+:
        name.text.toList := orWhole_part fun part => part_of_isPrefixOf?
    exact fun hmem => h (hpart.subset hmem)
  | method access => exact fun hmem => h ((access.key_part name.text).subset hmem)

/-- A name stands for other keys when it is spelled the other way. -/
theorem eq_of_key_eq {a b : Name} (h : a.Respelled b) (derivation : Derivation)
    (hkey : derivation.key a.text = derivation.key b.text) : a = b := by
  cases h with
  | same => rfl
  | raw hplain =>
    exact absurd (hkey ▸ hash_mem_key_raw derivation a) (hash_not_mem_key hplain derivation)
  | plain hplain =>
    exact absurd (hkey ▸ hash_mem_key_raw derivation b) (hash_not_mem_key hplain derivation)

/-! ### Declarations -/

/-- The mark of a raw name is part of every key that comes from the name, and nothing else depends
on it. A trait with names spelled the other way is parsed to the same members and defaults, but for
names and keys, with something reported of both traits or of neither. The keys are the same exactly
if no name is spelled the other way that a key comes from. If none is that the key of a value comes
from, either both traits compile or none does, in either mode, and the same is bound to their
members: the same storages, adapters and defaults. -/
theorem keys_show_raw_names {args item : List Tree} {decl other : TraitDecl}
    (hparse : Parser.parseAll TraitDecl.parser item Position.start = .ok decl)
    (hother : decl.Renamed Name.Respelled other) :
    (∀ tokens, Parser.parseAll TraitDecl.parser tokens Position.start = .ok other →
      parse args tokens = parsedTrait args other ∧
        ∀ mode, compile mode args tokens = compileTrait mode args other) ∧
    (∀ schema, Returns (parse args item) .collectAll schema → ∃ next,
      Returns (parsedTrait args other) .collectAll next ∧ schema.Renamed next ∧
      ((parse args item .collectAll).reported = [] ↔
        (parsedTrait args other .collectAll).reported = []) ∧
      (decodedKeys schema = decodedKeys next ↔ SameNames (fun _ => true) decl other) ∧
      (SameNames Derivation.isTyped decl other →
        (resolve .collectAll schema Stage.all).schema.Kept
          (resolve .collectAll next Stage.all).schema)) ∧
    (SameNames Derivation.isTyped decl other → ∀ mode,
      ((∃ compiled, compile mode args item = .ok compiled) ↔
        ∃ renamed, compileTrait mode args other = .ok renamed) ∧
      ∀ compiled renamed, compile mode args item = .ok compiled →
        compileTrait mode args other = .ok renamed → compiled.schema.Kept renamed.schema) := by
  have hpos : ∀ a b : Name, a.Respelled b → a.pos = b.pos := fun _ _ => Name.Respelled.pos
  have hsymm : ∀ a b : Name, a.Respelled b → b.Respelled a := fun _ _ => Name.Respelled.symm
  simp only [compile_eq_compileTrait hparse, parse_eq_parsedTrait hparse]
  refine ⟨fun tokens htokens => ⟨parse_eq_parsedTrait htokens, compile_eq_compileTrait htokens⟩,
    ?_, fun hsame mode => ⟨⟨?_, ?_⟩, ?_⟩⟩
  · intro schema hschema
    obtain ⟨options, hoptions, -⟩ := returns_bind.1 hschema
    have htrait (decl : TraitDecl) : parsedTrait args decl = ofTrait options decl := by
      rw [parsedTrait, returns_orFatal.1 hoptions]
      rfl
    rw [htrait] at hschema ⊢
    obtain ⟨es, hnext, hnil, hself⟩ :=
      ofTrait_renamed hpos hother (collects_of_returns hschema)
    rw [← hnext.reported] at hnil
    cases hother with
    | @mk items hitems =>
      have hrenamed := @withItems_renamed _ hpos schema decl _ _ hitems
      have hkept := @withItems_kept _ hpos schema decl items hitems
      have hkeys := @withItems_keys _ hpos schema decl items (fun _ _ => eq_of_key_eq) hitems
      rw [← hself] at hrenamed hkept hkeys
      rw [htrait]
      exact ⟨_, hnext.returns, hrenamed, hnil, hkeys, fun hsame => (hkept hsame).resolved⟩
  · rintro ⟨compiled, hcompile⟩
    obtain ⟨renamed, hrenamed, -⟩ := compileTrait_renamed hpos hother hsame hcompile
    exact ⟨renamed, hrenamed⟩
  · rintro ⟨renamed, hrenamed⟩
    obtain ⟨compiled, hcompile, -⟩ := compileTrait_renamed hpos (hother.symm hsymm)
      (sameNames_symm hpos hother hsame) hrenamed
    exact ⟨compiled, hcompile⟩
  · intro compiled renamed hcompile hrenamed
    obtain ⟨found, hfound, hkept⟩ := compileTrait_renamed hpos hother hsame hcompile
    rw [hrenamed] at hfound
    cases hfound
    exact hkept

end Preferences.Schema

namespace Preferences.Syntax

open Source

/-! ### Raw names in declarations -/

/-- The name, raw if it is one of the words. -/
def rawIn (words : List String) (name : Name) : Name :=
  if name.text ∈ words ∧ '#' ∉ name.text.toList then name.raw else name

def TraitItem.raw (words : List String) : TraitItem → TraitItem
  | .const item => .const { item with name := rawIn words item.name }
  | .method item => .method (item.withName (rawIn words item.signature.name))
  | .other code => .other code

/-- The trait with some of the names of its items raw. -/
def TraitDecl.raw (words : List String) (decl : TraitDecl) : TraitDecl :=
  { decl with items := decl.items.map (TraitItem.raw words) }

theorem TraitDecl.renamed_raw (words : List String) (decl : TraitDecl) :
    decl.Renamed Name.Respelled (decl.raw words) := by
  have hname (name : Name) : name.Respelled (rawIn words name) := by
    unfold rawIn
    split
    · rename_i h
      exact .raw h.2
    · exact .same
  refine .mk ?_
  rw [List.forall₂_map_right_iff, List.forall₂_same]
  intro item _
  cases item with
  | const item => exact .const (hname item.name)
  | method item => exact .method (hname item.signature.name)
  | other => exact .other

end Preferences.Syntax

namespace Preferences.Schema

open Preferences.Source Preferences.Syntax Report

/-- A preference whose key is written, but for the test of it. -/
def kindItem : List Tree :=
  (Tree.ofText? ("trait P \x7b #[default(name = \"kind\")] const KIND: i32 = 0; " ++
    "#[get(name = \"kind\")] fn r#type(&self) -> i32; " ++
    "#[contains] fn has_kind(&self) -> bool; \x7d")).getD []

/-- All names of this preference that are not raw. -/
def kindNames : List String := ["KIND", "has_kind"]

set_option synthInstance.maxSize 256 in
theorem kind_outcomes :
    ((compile .failFast labelArgs kindItem).toOption.isSome,
      (Parser.parseAll TraitDecl.parser kindItem Position.start).toOption.map fun decl =>
        (decl.items.all fun item => (derivation? item).all fun way => !way.isTyped,
          (parsedTrait labelArgs (decl.raw kindNames) .collectAll).value.map decodedKeys)) =
      (true, some (true, some ([some "kind", some "r#has_kind"], ["kind"]))) := by
  decide +kernel

/-- With all names raw the preference compiles to the same members, of which the test alone has
another key. -/
theorem keys_show_raw_names_kind : ∃ decl compiled renamed next,
    Parser.parseAll TraitDecl.parser kindItem Position.start = .ok decl ∧
      decl.Renamed Name.Respelled (decl.raw kindNames) ∧
      SameNames Derivation.isTyped decl (decl.raw kindNames) ∧
      compile .failFast labelArgs kindItem = .ok compiled ∧
      compileTrait .failFast labelArgs (decl.raw kindNames) = .ok renamed ∧
      compiled.schema.Kept renamed.schema ∧
      Returns (parsedTrait labelArgs (decl.raw kindNames)) .collectAll next ∧
      decodedKeys next = ([some "kind", some "r#has_kind"], ["kind"]) := by
  obtain ⟨hcompiles, hparsed⟩ := Prod.mk.inj kind_outcomes
  obtain ⟨compiled, hcompiled⟩ := Option.isSome_iff_exists.1 hcompiles
  have hcompile := ok_of_toOption hcompiled
  obtain ⟨decl, hdecl, houtcome⟩ := Option.map_eq_some_iff.1 hparsed
  obtain ⟨hwritten, hkeys⟩ := Prod.mk.inj houtcome
  obtain ⟨next, hnext, hdecoded⟩ := Option.map_eq_some_iff.1 hkeys
  have hparse := ok_of_toOption hdecl
  have hother := decl.renamed_raw kindNames
  have hsame : SameNames Derivation.isTyped decl (decl.raw kindNames) :=
    sameNames_of_written hother (List.all_eq_true.1 hwritten)
  obtain ⟨-, -, hmodes⟩ := @keys_show_raw_names labelArgs _ _ _ hparse hother
  obtain ⟨hiff, hkept⟩ := hmodes hsame .failFast
  obtain ⟨renamed, hrenamed⟩ := hiff.1 ⟨compiled, hcompile⟩
  exact ⟨decl, compiled, renamed, next, hparse, hother, hsame, hcompile, hrenamed,
    hkept compiled renamed hcompile hrenamed, hnext, hdecoded⟩

/-! ### A raw getter -/

/-- A declaration of a flag with a getter of the given name. -/
def getterItem (getter : String) : List Tree :=
  (Tree.ofText? ("trait P \x7b #[default] const DEFAULT_FLAG: bool = true; #[get] fn " ++ getter ++
    "(&self) -> bool; \x7d")).getD []

set_option synthInstance.maxSize 256 in
theorem plain_getter_outcomes :
    ((compile .failFast labelArgs (getterItem "get_flag")).toOption.isSome,
      (parse labelArgs (getterItem "get_flag") .collectAll).value.map decodedKeys,
      (Parser.parseAll TraitDecl.parser (getterItem "get_flag") Position.start).toOption.map
        fun decl => (decl.items.map derivation?,
          (compileTrait .failFast labelArgs (decl.raw ["get_flag"])).toOption.isSome)) =
      (true, some ([some "flag"], ["flag"]),
        some ([some .constant, some (.method .get)], false)) := by
  decide +kernel

theorem raw_getter_outcomes :
    ((compile .failFast labelArgs (getterItem "r#get_flag")).toOption.isSome,
      (parse labelArgs (getterItem "r#get_flag") .collectAll).value.map decodedKeys) =
      (false, some ([some "r#get_flag"], ["flag"])) := by
  decide +kernel

/-- A getter finds no default when its name is raw: the constant has the key of the plain name. -/
theorem raw_getter_refused : ∃ decl compiled schema next,
    Parser.parseAll TraitDecl.parser (getterItem "get_flag") Position.start = .ok decl ∧
      decl.Renamed Name.Respelled (decl.raw ["get_flag"]) ∧
      decl.items.map derivation? = [some .constant, some (.method .get)] ∧
      compile .failFast labelArgs (getterItem "get_flag") = .ok compiled ∧
      Returns (parse labelArgs (getterItem "get_flag")) .collectAll schema ∧
      decodedKeys schema = ([some "flag"], ["flag"]) ∧
      (∀ found, compileTrait .failFast labelArgs (decl.raw ["get_flag"]) ≠ .ok found) ∧
      (∀ found, compile .failFast labelArgs (getterItem "r#get_flag") ≠ .ok found) ∧
      Returns (parse labelArgs (getterItem "r#get_flag")) .collectAll next ∧
      decodedKeys next = ([some "r#get_flag"], ["flag"]) := by
  obtain ⟨hcompiles, hrest⟩ := Prod.mk.inj plain_getter_outcomes
  obtain ⟨hplain, hparsed⟩ := Prod.mk.inj hrest
  obtain ⟨hrefused, hspelled⟩ := Prod.mk.inj raw_getter_outcomes
  obtain ⟨compiled, hcompiled⟩ := Option.isSome_iff_exists.1 hcompiles
  obtain ⟨schema, hschema, hkeys⟩ := Option.map_eq_some_iff.1 hplain
  obtain ⟨next, hnext, hkeys'⟩ := Option.map_eq_some_iff.1 hspelled
  obtain ⟨decl, hdecl, houtcome⟩ := Option.map_eq_some_iff.1 hparsed
  obtain ⟨hways, hraw⟩ := Prod.mk.inj houtcome
  refine ⟨decl, compiled, schema, next, ok_of_toOption hdecl, decl.renamed_raw _, hways,
    ok_of_toOption hcompiled, hschema, hkeys, ?_, ?_, hnext, hkeys'⟩
  · intro found hok
    simp [hok, Except.toOption] at hraw
  · intro found hok
    simp [hok, Except.toOption] at hrefused

end Preferences.Schema
