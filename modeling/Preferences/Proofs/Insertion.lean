import Preferences.Proofs.Independence
import Preferences.Proofs.Reordering

/-! A method that is refused, among the items of a trait. It declares no member, so the schema of
the trait is that without the method, and every stage behind the parser reports the same. What is
reported of the trait has one more diagnostic, where the method stands. -/

namespace Preferences.Schema

open Preferences.Source Preferences.Syntax Report

/-! ### Reports -/

/-- What is reported by a compilation. -/
def diagnostics : Except (List Diagnostic) Compiled → List Diagnostic
  | .ok _ => []
  | .error ds => ds

theorem diagnostics_compile (mode : Mode) (args item : List Tree) :
    diagnostics (compile mode args item) = (resolved args item mode).reported := by
  rw [← compiling_reported args item mode]
  unfold compile
  obtain ⟨value, reported⟩ := compiling args item mode
  cases value with
  | none => rfl
  | some compiled => cases reported <;> rfl

theorem clean_of_ne_nil {mode : Mode} {r : Report α} (h : (r mode).reported ≠ []) :
    clean r mode = ⟨none, (r mode).reported⟩ := by
  rw [clean, if_neg (by simpa using h)]

/-- What the stages behind the parser report of a schema. -/
def laterNotes (schema : Schema) : List Diagnostic := Stage.all.flatMap (Stage.notes schema)

theorem collects_resolving (schema : Schema) :
    ∃ next, Collects (resolving schema Stage.all) next (laterNotes schema) := by
  unfold Collects resolving
  rw [resolve_collectAll]
  exact ⟨_, rfl⟩

/-- Behind a parser that goes on, all stages report. -/
theorem collects_stages {r : Report Schema} {schema : Schema} {ds : List Diagnostic}
    (h : Collects r schema ds) :
    ∃ next, Collects (do resolving (← r) Stage.all) next (ds ++ laterNotes schema) := by
  obtain ⟨next, hnext⟩ := collects_resolving schema
  exact ⟨next, collects_bind h hnext⟩

theorem diagnostics_of_collects {args item : List Tree} {schema : Schema} {ds : List Diagnostic}
    (h : Collects (parse args item) schema ds) :
    diagnostics (compile .collectAll args item) = ds ++ laterNotes schema := by
  obtain ⟨next, hnext⟩ := collects_stages h
  rw [diagnostics_compile]
  exact hnext.reported

/-- Nothing is generated of a trait with a diagnostic. -/
theorem compileTrait_of_collects {args : List Tree} {decl : TraitDecl} {schema : Schema}
    {ds : List Diagnostic} (h : Collects (parsedTrait args decl) schema ds) (hne : ds ≠ []) :
    compileTrait .collectAll args decl = .error (ds ++ laterNotes schema) := by
  obtain ⟨next, hnext⟩ := collects_stages h
  have hclean : clean (do resolving (← parsedTrait args decl) Stage.all) .collectAll =
      ⟨none, ds ++ laterNotes schema⟩ := by
    rw [clean_of_ne_nil (by simp [hnext.reported, hne]), hnext.reported]
  have hcompiling : compilingTrait args decl .collectAll = ⟨none, ds ++ laterNotes schema⟩ := by
    show andThen _ _ .collectAll = _
    rw [andThen, hclean]
  rw [compileTrait, hcompiling]

/-! ### A method that is refused -/

theorem collects_required {method : Method} (h : method.body = none) :
    Collects (declaredBy (.method method)) (none, (declaredMember method).toOption)
      (refusal? (declaredMember method)).toList := by
  have hitem : declaredBy (.method method) =
      do return (none, ← check (declaredMember method)) := by
    rw [declaredBy, h]
    rfl
  rw [hitem, ← List.append_nil (refusal? _).toList]
  exact collects_bind (collects_check _) (collects_done _)

section Refused

variable {method : Method} {d : Diagnostic} (hrequired : method.body = none)
  (hrefused : declaredMember method = .error d)

include hrequired hrefused

theorem collects_refused : Collects (declaredBy (.method method)) (none, none) [d] := by
  have hcollects := collects_required hrequired
  rw [hrefused] at hcollects
  exact hcollects

theorem declaration_refused : declaration (.method method) = (none, none) := by
  rw [declaration, (collects_refused hrequired hrefused).returns]
  rfl

theorem complaints_refused : complaints (.method method) = [d] :=
  (collects_refused hrequired hrefused).reported

end Refused

theorem withItems_insert {schema : Schema} {decl : TraitDecl} {before after : List TraitItem}
    {item : TraitItem} (h : declaration item = (none, none)) :
    withItems schema decl (before ++ item :: after) =
      { withItems schema decl (before ++ after) with
        decl := cleaned { decl with items := before ++ item :: after } } := by
  simp [withItems, h]

/-- A required method that is refused, inserted among the items of a trait, changes nothing of the
schema but the trait, and all that is reported of the trait stays. There is one more diagnostic,
that of the method: it stands behind what is reported of the trait up to the method, and in front of
the rest and of what the later stages report. -/
theorem compile_inserted {args item : List Tree} {decl other : TraitDecl} {schema : Schema}
    {before after : List TraitItem} {method : Method} {d : Diagnostic}
    (hparse : Parser.parseAll TraitDecl.parser item Position.start = .ok decl)
    (hschema : Returns (parse args item) .collectAll schema)
    (hitems : decl.items = before ++ after)
    (hother : other = { decl with items := before ++ .method method :: after })
    (hrequired : method.body = none) (hrefused : declaredMember method = .error d) :
    ∃ front back later,
      (parsedTrait args { decl with items := before } .collectAll).reported = front ∧
      (parse args item .collectAll).reported = front ++ back ∧
      diagnostics (compile .collectAll args item) = front ++ (back ++ later) ∧
      parsedTrait args other .collectAll =
        ⟨some { schema with decl := cleaned other }, front ++ d :: back⟩ ∧
      compileTrait .collectAll args other = .error (front ++ d :: (back ++ later)) ∧
      ∀ tokens, Parser.parseAll TraitDecl.parser tokens Position.start = .ok other →
        parse args tokens = parsedTrait args other ∧
          compile .collectAll args tokens = compileTrait .collectAll args other := by
  obtain ⟨options, found, hoptions, hfound, hparsed⟩ := parse_parts hschema
  obtain rfl : found = decl := by
    rw [hparse] at hfound
    cases hfound
    rfl
  rw [hparsed] at hschema
  obtain ⟨notes, -, hself, hall⟩ := collects_ofTrait hschema
  have htrait (items : List TraitItem) : Collects (parsedTrait args { found with items })
      (withItems schema found items)
      (genericComplaints found ++ (notes ++ items.flatMap complaints)) := by
    rw [parsedTrait, hoptions]
    exact hall items
  have hwithout := hall found.items
  rw [← hself, ← hparsed, hitems, List.flatMap_append] at hwithout
  have hwith := htrait (before ++ .method method :: after)
  rw [← hother, withItems_insert (declaration_refused hrequired hrefused), ← hother, ← hitems,
    ← hself, List.flatMap_append, List.flatMap_cons,
    complaints_refused hrequired hrefused] at hwith
  have hlater : laterNotes { schema with decl := cleaned other } = laterNotes schema := rfl
  have hcompile := compileTrait_of_collects hwith (by simp)
  rw [hlater] at hcompile
  refine ⟨genericComplaints found ++ (notes ++ before.flatMap complaints),
    after.flatMap complaints, laterNotes schema, (htrait before).reported, ?_, ?_, ?_, ?_, ?_⟩
  · simpa using hwithout.reported
  · simpa using diagnostics_of_collects hwithout
  · simpa [Collects] using hwith
  · simpa using hcompile
  · exact fun tokens htokens =>
      ⟨parse_eq_parsedTrait htokens, compile_eq_compileTrait htokens .collectAll⟩

/-! ### A method of the draft -/

/-- A method of an item, if it is required and refused. -/
def refusedMethod? : TraitItem → Option Method
  | .method item =>
    if item.body.isNone && (declaredMember item).toOption.isNone then some item else none
  | .const _ | .other _ => none

theorem refusedMethod?_eq_some {item : TraitItem} {method : Method}
    (h : refusedMethod? item = some method) :
    method.body = none ∧ ∃ d, declaredMember method = .error d := by
  cases item with
  | const | other => cases h
  | method item =>
    obtain ⟨htest, rfl⟩ : (item.body.isNone && (declaredMember item).toOption.isNone) = true ∧
        item = method := by simpa [refusedMethod?] using h
    rw [Bool.and_eq_true, Option.isNone_iff_eq_none] at htest
    refine ⟨htest.1, ?_⟩
    cases hmember : declaredMember item with
    | error d => exact ⟨d, rfl⟩
    | ok member => simp [hmember, Except.toOption] at htest

theorem draft_refused :
    (Parser.parseAll TraitDecl.parser draftItem Position.start).toOption.map
        (fun decl => (decl.items.findSome? refusedMethod?).isSome) = some true ∧
      (diagnostics (compile .collectAll draftArgs draftItem)).length = 3 := by
  decide +kernel

/-- The refused method of the draft, in the middle of its items once more. The draft is parsed with
two diagnostics, and the later stages add a third one; now there is a fourth one. -/
theorem compile_inserted_draft : ∃ decl method other schema ds,
    Parser.parseAll TraitDecl.parser draftItem Position.start = .ok decl ∧
      other = { decl with items := decl.items.take 2 ++ .method method :: decl.items.drop 2 } ∧
      Returns (parse draftArgs draftItem) .collectAll schema ∧
      Returns (parsedTrait draftArgs other) .collectAll { schema with decl := cleaned other } ∧
      (parsedTrait draftArgs other .collectAll).reported.length = 3 ∧
      compileTrait .collectAll draftArgs other = .error ds ∧ ds.length = 4 := by
  obtain ⟨hdraft, hcount⟩ := draft_refused
  obtain ⟨decl, hdecl, hfound⟩ := Option.map_eq_some_iff.1 hdraft
  obtain ⟨method, hmethod⟩ := Option.isSome_iff_exists.1 hfound
  obtain ⟨item, -, hitem⟩ := List.exists_of_findSome?_eq_some hmethod
  obtain ⟨hrequired, d, hrefused⟩ := refusedMethod?_eq_some hitem
  obtain ⟨schema, hschema, hreported, -⟩ := exists_draft
  have hparse : Parser.parseAll TraitDecl.parser draftItem Position.start = .ok decl := by
    cases hresult : Parser.parseAll TraitDecl.parser draftItem Position.start with
    | ok found => simpa [hresult, Except.toOption] using hdecl
    | error e => simp [hresult, Except.toOption] at hdecl
  have hitems : decl.items = decl.items.take 2 ++ decl.items.drop 2 :=
    (List.take_append_drop 2 decl.items).symm
  obtain ⟨front, back, later, -, hbase, hall, hother, hcompile, -⟩ :=
    compile_inserted hparse hschema hitems rfl hrequired hrefused
  refine ⟨decl, method, _, schema, _, hparse, rfl, hschema, congrArg Outcome.value hother, ?_,
    hcompile, ?_⟩
  · rw [hbase] at hreported
    rw [hother]
    simp only [List.length_append, List.length_cons] at hreported ⊢
    omega
  · rw [hall] at hcount
    simp only [List.length_append, List.length_cons] at hcount ⊢
    omega

end Preferences.Schema
