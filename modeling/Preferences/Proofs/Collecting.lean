import Preferences.Proofs.Defaults

/-! Collecting runs. A run that collects everything is aborted by nothing but a fatal report, so it
can be put together from its parts: their values, and their diagnostics in turn. The parser of a
trait then is a function of its items one by one, and of what stands in front of them. -/

namespace Preferences.Schema

open Preferences.Source Preferences.Syntax Report

/-- The run that collects everything ends with the value `a` and has reported `ds`. -/
def Collects (r : Report α) (a : α) (ds : List Diagnostic) : Prop := r .collectAll = ⟨some a, ds⟩

theorem Collects.returns {r : Report α} {a : α} {ds : List Diagnostic} (h : Collects r a ds) :
    Returns r .collectAll a := congrArg Outcome.value h

theorem Collects.reported {r : Report α} {a : α} {ds : List Diagnostic} (h : Collects r a ds) :
    (r .collectAll).reported = ds := congrArg Outcome.reported h

namespace Report

theorem collects_of_returns {r : Report α} {a : α} (h : Returns r .collectAll a) :
    Collects r a (r .collectAll).reported := by
  unfold Collects
  rw [← h]

theorem collects_done (a : α) : Collects (done a) a [] := rfl

theorem collects_report (d : Diagnostic) : Collects (report d) () [d] := rfl

theorem collects_andThen {r : Report α} {f : α → Report β} {a : α} {b : β}
    {ds es : List Diagnostic} (hr : Collects r a ds) (hf : Collects (f a) b es) :
    Collects (andThen r f) b (ds ++ es) := by
  unfold Collects andThen at *
  rw [hr]
  dsimp only
  rw [hf]

theorem collects_bind {r : Report α} {f : α → Report β} {a : α} {b : β} {ds es : List Diagnostic}
    (hr : Collects r a ds) (hf : Collects (f a) b es) : Collects (r >>= f) b (ds ++ es) :=
  collects_andThen hr hf

theorem collects_check (result : Except Diagnostic α) :
    Collects (check result) result.toOption (refusal? result).toList := by
  cases result <;> rfl

theorem collects_each {f : α → Report β} {found : α → β} {notes : α → List Diagnostic}
    (h : ∀ a, Collects (f a) (found a) (notes a)) (as : List α) :
    Collects (each f as) (as.map found) (as.flatMap notes) := by
  induction as with
  | nil => exact collects_done []
  | cons a as ih =>
    rw [List.flatMap_cons, ← List.append_nil (as.flatMap notes)]
    exact collects_andThen (h a) (collects_andThen ih (collects_done _))

end Report

/-! ### Items of a trait -/

/-- What an item declares where everything is collected. -/
def declaration (item : TraitItem) : Option DefaultConst × Option Member :=
  (declaredBy item .collectAll).value.getD (none, none)

/-- What is reported of an item where everything is collected. -/
def complaints (item : TraitItem) : List Diagnostic := (declaredBy item .collectAll).reported

theorem collects_checkProvided (sig : Signature) (access adapters : List Attribute) :
    ∃ ds, Collects (checkProvided sig access adapters) () ds := by
  cases access <;> cases adapters <;> exact ⟨_, rfl⟩

/-- No item ends the run. -/
theorem exists_declaredBy (item : TraitItem) :
    ∃ found ds, Collects (declaredBy item) found ds := by
  unfold declaredBy
  split
  · exact ⟨_, _, collects_bind (collects_check _) (collects_done _)⟩
  · dsimp only
    split
    · obtain ⟨ds, hds⟩ := collects_checkProvided _ _ _
      exact ⟨_, _, collects_bind hds (collects_done _)⟩
    · exact ⟨_, _, collects_bind (collects_check _) (collects_done _)⟩
  · exact ⟨_, _, collects_done _⟩

theorem collects_declaredBy (item : TraitItem) :
    Collects (declaredBy item) (declaration item) (complaints item) := by
  obtain ⟨found, ds, h⟩ := exists_declaredBy item
  rw [declaration, complaints, h]
  exact h

/-! ### Traits -/

/-- What is reported of a trait in front of its adapters. -/
def genericComplaints (decl : TraitDecl) : List Diagnostic :=
  if decl.generics.isEmpty then []
  else [.declaration decl.generics.pos "preference traits cannot be generic"]

/-- The schema of a trait, had the trait these items. -/
def withItems (schema : Schema) (decl : TraitDecl) (items : List TraitItem) : Schema :=
  { schema with
    decl := cleaned { decl with items }
    members := items.filterMap fun item => (declaration item).2
    defaults := items.filterMap fun item => (declaration item).1 }

theorem collects_schemaIn {options : Options} {decl : TraitDecl} {namespaceName : TextLiteral}
    {adapters : List AdapterBinding} {notes : List Diagnostic}
    (h : Collects (bindAdapters [] (decl.attrs.filter isAdapterAttr)) adapters notes) :
    Collects (schemaIn options decl namespaceName) {
      namespaceName
      implName := (options.implName.map (·.text)).getD (bareName decl.name.text ++ "Impl")
      runtime := options.runtime.getD defaultRuntime
      decl := cleaned decl
      members := decl.items.filterMap fun item => (declaration item).2
      defaults := decl.items.filterMap fun item => (declaration item).1
      adapters } (notes ++ decl.items.flatMap complaints) := by
  have hitems := collects_each collects_declaredBy decl.items
  rw [← List.append_nil (decl.items.flatMap complaints)]
  refine collects_bind h (collects_bind hitems ?_)
  simp only [List.filterMap_map, Function.comp_def]
  exact collects_done _

theorem collects_generic (decl : TraitDecl) {r : Report α} {a : α} {ds : List Diagnostic}
    (h : Collects r a ds) :
    Collects (do
      if !decl.generics.isEmpty then
        report (.declaration decl.generics.pos "preference traits cannot be generic")
      r) a (genericComplaints decl ++ ds) := by
  unfold genericComplaints
  cases decl.generics.isEmpty with
  | true => exact h
  | false => exact collects_bind (collects_report _) h

/-- A trait that is not refused as a whole is read item by item, behind its adapters. -/
theorem collects_ofTrait {options : Options} {decl : TraitDecl} {schema : Schema}
    (h : Returns (ofTrait options decl) .collectAll schema) :
    ∃ notes, Collects (bindAdapters [] (decl.attrs.filter isAdapterAttr)) schema.adapters notes ∧
      schema = withItems schema decl decl.items ∧
      ∀ items, Collects (ofTrait options { decl with items }) (withItems schema decl items)
        (genericComplaints decl ++ (notes ++ items.flatMap complaints)) := by
  obtain ⟨namespaceName, hname, hschema⟩ := returns_ofTrait h
  obtain ⟨adapters, hadapters, -⟩ := returns_bind.1 hschema
  have hbound := collects_of_returns hadapters
  unfold ofTrait at h ⊢
  rw [hname] at h ⊢
  have hall (items : List TraitItem) := collects_generic decl
    (@collects_schemaIn options { decl with items } namespaceName _ _ hbound)
  obtain rfl := Option.some.inj (h.symm.trans (hall decl.items).returns)
  exact ⟨_, hbound, rfl, hall⟩

/-! ### Declarations -/

theorem parse_eq_ofTrait {args item : List Tree} {options : Options} {decl : TraitDecl}
    (hoptions : Options.ofTrees args = .ok options)
    (hdecl : Parser.parseAll TraitDecl.parser item Position.start = .ok decl) :
    parse args item = ofTrait options decl := by
  unfold parse
  rw [hoptions, hdecl]
  rfl

/-- A declaration that is not refused as a whole has options and a trait. -/
theorem parse_parts {mode : Mode} {args item : List Tree} {schema : Schema}
    (h : Returns (parse args item) mode schema) :
    ∃ options decl, Options.ofTrees args = .ok options ∧
      Parser.parseAll TraitDecl.parser item Position.start = .ok decl ∧
      parse args item = ofTrait options decl := by
  obtain ⟨options, decl, _, hoptions, hdecl, -, -⟩ := parse_schemaIn h
  exact ⟨options, decl, hoptions, hdecl, parse_eq_ofTrait hoptions hdecl⟩

end Preferences.Schema
