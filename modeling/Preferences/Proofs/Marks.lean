import Preferences.Proofs.Required

/-! Marks: the attributes that mean something to preferences, each at its place. Whatever was
reported of a trait, what is put out of it is the trait as it was written without its marks. Nothing
else is removed, and nothing moves. -/

namespace Preferences.Schema

open Preferences.Source Preferences.Syntax Report

/-! ### Names of marks -/

def traitMarks : List String := ["adapter"]

def constMarks : List String := ["default"]

def accessMarks : List String :=
  ["get", "set", "set_sync", "observe", "contains", "remove", "clear"]

def methodMarks : List String := accessMarks ++ ["adapter"]

/-- The attribute's path is one of the names, alone. -/
def IsMark (names : List String) (attr : Attribute) : Prop :=
  ∃ word ∈ names, ∃ name : Name, name.text = word ∧ attr.path = .ofName name

theorem isName_iff {path : Path} {word : String} :
    path.isName word = true ↔ ∃ name : Name, name.text = word ∧ path = .ofName name := by
  unfold Path.isName
  split
  · rename_i first hleading hsegments
    rw [decide_eq_true_iff]
    constructor
    · rintro rfl
      exact ⟨first, rfl, by cases path; cases hleading; cases hsegments; rfl⟩
    · rintro ⟨name, rfl, rfl⟩
      cases hsegments
      rfl
  · rename_i hother
    simp only [Bool.false_eq_true, false_iff]
    rintro ⟨name, -, rfl⟩
    exact hother _ rfl rfl

theorem isMark_iff {names : List String} {attr : Attribute} :
    IsMark names attr ↔ ∃ name ∈ names, attr.path.isName name = true := by
  simp only [IsMark, isName_iff]

theorem isMark_single {name : String} {attr : Attribute} :
    IsMark [name] attr ↔ attr.path.isName name = true := by
  simp [isMark_iff]

theorem isAccessAttr_iff {attr : Attribute} :
    isAccessAttr attr = true ↔ IsMark accessMarks attr := by
  have hnames : accessMarks = Access.all.map Access.name := rfl
  rw [isAccessAttr, Access.ofPath?, List.find?_isSome, isMark_iff, hnames]
  simp only [List.mem_map, exists_exists_and_eq_and]

theorem isMethodMark_iff {attr : Attribute} :
    (isAccessAttr attr || isAdapterAttr attr) = true ↔ IsMark methodMarks attr := by
  rw [Bool.or_eq_true, isAccessAttr_iff, isAdapterAttr, isMark_iff, isMark_iff, methodMarks]
  simp only [List.mem_append, List.mem_singleton, or_and_right, exists_or, exists_eq_left]

/-! ### Traits without marks -/

/-- Attributes without those that have one of the names; the others are kept, in their order. -/
inductive Unmarked (names : List String) : List Attribute → List Attribute → Prop where
  | nil : Unmarked names [] []
  | removed {attr : Attribute} {written kept : List Attribute} (hmark : IsMark names attr)
      (hrest : Unmarked names written kept) : Unmarked names (attr :: written) kept
  | kept {attr : Attribute} {written kept : List Attribute} (hmark : ¬IsMark names attr)
      (hrest : Unmarked names written kept) : Unmarked names (attr :: written) (attr :: kept)

theorem unmarked_filter {names : List String} {test : Attribute → Bool}
    (htest : ∀ attr, test attr = true ↔ IsMark names attr) (attrs : List Attribute) :
    Unmarked names attrs (attrs.filter (!test ·)) := by
  induction attrs with
  | nil => exact .nil
  | cons attr rest ih =>
    cases hattr : test attr with
    | true =>
      rw [List.filter_cons_of_neg (by simp [hattr])]
      exact .removed ((htest attr).1 hattr) ih
    | false =>
      rw [List.filter_cons_of_pos (by simp [hattr])]
      refine .kept (fun hmark => ?_) ih
      rw [(htest attr).2 hmark] at hattr
      cases hattr

/-- An item without its marks. Nothing but its attributes changes, and what is kept as code has no
marks. -/
inductive UnmarkedItem : TraitItem → TraitItem → Prop where
  | const {item : ConstItem} {attrs : List Attribute}
      (hattrs : Unmarked constMarks item.attrs attrs) :
      UnmarkedItem (.const item) (.const { item with attrs })
  | method {item : Method} {attrs : List Attribute}
      (hattrs : Unmarked methodMarks item.attrs attrs) :
      UnmarkedItem (.method item) (.method { item with attrs })
  | other (code : Code) : UnmarkedItem (.other code) (.other code)

theorem unmarkedItem_withoutMarks (item : TraitItem) : UnmarkedItem item (withoutMarks item) := by
  cases item with
  | const item => exact .const (unmarked_filter (fun attr => isMark_single.symm) item.attrs)
  | method item => exact .method (unmarked_filter (fun attr => isMethodMark_iff) item.attrs)
  | other code => exact .other code

/-- A trait without its marks. Nothing but attributes changes, of the trait and of its items. -/
structure UnmarkedTrait (written emitted : TraitDecl) : Prop where
  attrs : Unmarked traitMarks written.attrs emitted.attrs
  items : List.Forall₂ UnmarkedItem written.items emitted.items
  rest : emitted = { written with attrs := emitted.attrs, items := emitted.items }

theorem unmarkedTrait_cleaned (decl : TraitDecl) : UnmarkedTrait decl (cleaned decl) where
  attrs := unmarked_filter (fun attr => isMark_single.symm) decl.attrs
  items := by
    rw [cleaned, List.forall₂_map_right_iff, List.forall₂_same]
    exact fun item _ => unmarkedItem_withoutMarks item
  rest := rfl

/-! ### Emitted traits -/

/-- A schema has the trait that its tokens are parsed to, without the marks, whatever is reported of
the trait. -/
theorem returns_parse {mode : Mode} {args item : List Tree} {schema : Schema}
    (h : Returns (parse args item) mode schema) :
    ∃ decl, Parser.parseAll TraitDecl.parser item Position.start = .ok decl ∧
      schema.decl = cleaned decl := by
  obtain ⟨_, decl, _, -, hdecl, -, h⟩ := parse_schemaIn h
  obtain ⟨adapters, -, h⟩ := returns_bind.1 h
  obtain ⟨declared, -, h⟩ := returns_bind.1 h
  cases returns_pure.1 h
  exact ⟨decl, hdecl, rfl⟩

/-- The trait of a schema is the one that was written, with exactly the marks removed: `adapter` on
the trait, `default` on constants, and on methods `adapter` and the names of accesses. If the
declaration compiles, this trait is the first thing that is put out. -/
theorem emitted_without_marks {mode : Mode} {args item : List Tree} {schema : Schema}
    (h : Returns (parse args item) mode schema) :
    ∃ decl, Parser.parseAll TraitDecl.parser item Position.start = .ok decl ∧
      UnmarkedTrait decl schema.decl ∧
      ∀ compiled, compile mode args item = .ok compiled →
        ∃ rest, compiled.code = schema.decl.code ++ rest := by
  obtain ⟨decl, hdecl, hcleaned⟩ := returns_parse h
  refine ⟨decl, hdecl, hcleaned ▸ unmarkedTrait_cleaned decl, fun compiled hcompile => ?_⟩
  obtain ⟨parsed, hparsed, hresolving, -⟩ := compile_stages hcompile
  obtain ⟨hdecls, -⟩ := resolving_members (parse_parsed hparsed.returns) hresolving
  obtain rfl : parsed = schema := Option.some.inj (hparsed.returns.symm.trans h)
  refine ⟨structCode compiled.schema ++ inherentCode compiled.schema ++
    implementationCode compiled.schema compiled.methods, ?_⟩
  simp only [Compiled.code, hdecls, List.append_assoc]

/-! ### A draft -/

/-- A declaration with a method and a constant that are refused, and a default of another type. -/
def draftItem : List Tree :=
  (Tree.ofText? ("#[adapter(U => A)] #[a] trait P \x7b #[b] #[get] fn f(&self); " ++
    "#[c] #[default] const D: u8; #[get] fn g(&self) -> i32; " ++
    "#[default] const G: i64 = 1; \x7d")).getD []

def draftArgs : List Tree := (Tree.ofText? "name = \"p\"").getD []

/-- The names of attributes. -/
def attrNames (attrs : List Attribute) : List String :=
  attrs.map fun attr => Code.text attr.path.code

def itemAttrNames : TraitItem → List String
  | .const item => attrNames item.attrs
  | .method item => attrNames item.attrs
  | .other _ => []

/-- The names of a schema's attributes, and the keys and types of its members and defaults. -/
structure Sketch where
  attrs : List String
  items : List (List String)
  members : List (Access × Option String × Option String)
  defaults : List (String × String)
  deriving DecidableEq

def sketch (schema : Schema) : Sketch where
  attrs := attrNames schema.decl.attrs
  items := schema.decl.items.map itemAttrNames
  members := schema.members.map fun member =>
    (member.access, member.key.name?, member.valueType.map Ty.key)
  defaults := schema.defaults.map fun const => (const.key, const.ty.key)

theorem draft_outcome :
    (parse draftArgs draftItem .collectAll).value.map sketch =
        some ⟨["a"], [["b"], ["c"], [], []], [(.get, some "g", some "i32")], [("g", "i64")]⟩ ∧
      (parse draftArgs draftItem .collectAll).reported.length = 2 := by
  decide +kernel

/-- The draft is parsed to a schema, with two diagnostics. -/
theorem exists_draft : ∃ schema, Returns (parse draftArgs draftItem) .collectAll schema ∧
    (parse draftArgs draftItem .collectAll).reported.length = 2 ∧ sketch schema =
      ⟨["a"], [["b"], ["c"], [], []], [(.get, some "g", some "i32")], [("g", "i64")]⟩ := by
  obtain ⟨schema, hschema, hsketch⟩ := Option.map_eq_some_iff.1 draft_outcome.1
  exact ⟨schema, hschema, draft_outcome.2, hsketch⟩

/-- What the draft's attributes mean to preferences is gone from its trait, also where it was
refused, and its other attributes are still there. -/
theorem emitted_without_marks_draft : ∃ decl schema,
    Returns (parse draftArgs draftItem) .collectAll schema ∧
      (parse draftArgs draftItem .collectAll).reported.length = 2 ∧
      UnmarkedTrait decl schema.decl ∧ attrNames schema.decl.attrs = ["a"] ∧
      schema.decl.items.map itemAttrNames = [["b"], ["c"], [], []] := by
  obtain ⟨schema, hschema, hreported, hsketch⟩ := exists_draft
  obtain ⟨decl, -, hunmarked, -⟩ := emitted_without_marks hschema
  exact ⟨decl, schema, hschema, hreported, hunmarked, congrArg Sketch.attrs hsketch,
    congrArg Sketch.items hsketch⟩

end Preferences.Schema
