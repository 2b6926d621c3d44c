import Preferences.Proofs.Delegation

/-! Generation cannot fail. Every check that a generator makes of a member holds of the members that
the stages before it leave, so a declaration is refused by those stages or not at all. -/

namespace Preferences.Schema

open Preferences.Source Preferences.Syntax Report

/-! ### The checks of the generators -/

/-- All that a generator may refuse a member for, found in order: the default of a read, what a
typed member delegates to, and a setter's value, which no adapter takes synchronously. -/
structure Member.Checked (schema : Schema) (member : Member) : Prop where
  default : member.access.needsDefault = true → ∃ const, boundDefault schema member = .ok const
  target : member.access.isTyped = true → ∃ found, Schema.target member = .ok found
  value : member.access.isSetter = true → ∃ name, Schema.valueParam member = .ok name
  sync : member.access = .setSync → ∃ kind, Schema.target member = .ok (.inl kind)

theorem Access.isTyped_of_needsDefault {access : Access} (h : access.needsDefault = true) :
    access.isTyped = true := by
  cases access <;> first | rfl | cases h

section Checks

variable {schema : Schema} {member : Member}

/-- A typed member delegates to a kind, or to an adapter unless it is a synchronous setter. -/
theorem Member.Resolved.target_eq (h : member.Resolved schema.defaults)
    (htyped : member.access.isTyped = true) :
    ∃ found, Schema.target member = .ok found ∧
      (member.access = .setSync → ∃ kind, found = .inl kind) := by
  obtain ⟨key, ty, hkeyed⟩ := h.typed htyped
  cases hstorage : Storage.ofType ty with
  | native kind => exact ⟨_, h.target_native hkeyed hstorage, fun _ => ⟨kind, rfl⟩⟩
  | adapted =>
    obtain ⟨bound, htarget, -, hsync⟩ := h.target_adapted hkeyed hstorage
    exact ⟨_, htarget, fun haccess => absurd haccess hsync⟩

theorem Member.Resolved.checked (h : member.Resolved schema.defaults) : member.Checked schema where
  default hneeds := by
    obtain ⟨key, ty, hkeyed⟩ := h.typed (Access.isTyped_of_needsDefault hneeds)
    obtain ⟨const, hconst, -⟩ := h.boundDefault_eq hkeyed hneeds
    exact ⟨const, hconst⟩
  target htyped := by
    obtain ⟨found, hfound, -⟩ := h.target_eq htyped
    exact ⟨found, hfound⟩
  value hsetter := by
    obtain ⟨name, hname⟩ := h.valueParam_eq hsetter
    exact ⟨name, by rw [Schema.valueParam, hname]⟩
  sync haccess := by
    obtain ⟨found, hfound, hsync⟩ := h.target_eq (by rw [haccess]; rfl)
    obtain ⟨kind, rfl⟩ := hsync haccess
    exact ⟨kind, hfound⟩

/-- A resolved member has a method. -/
theorem accessorFor_resolved (h : member.Resolved schema.defaults) :
    ∃ method, accessorFor schema member.access member = .ok method := by
  obtain ⟨call, hcall, -⟩ := callFor_resolved h
  exact ⟨_, by rw [accessorFor, hcall]; rfl⟩

end Checks

/-! ### All members -/

theorem exists_forall₂ {R : α → β → Prop} {as : List α} (h : ∀ a ∈ as, ∃ b, R a b) :
    ∃ bs, List.Forall₂ R as bs := by
  induction as with
  | nil => exact ⟨[], .nil⟩
  | cons a as ih =>
    obtain ⟨b, hb⟩ := h a List.mem_cons_self
    obtain ⟨bs, hbs⟩ := ih fun a ha => h a (List.mem_cons_of_mem _ ha)
    exact ⟨b :: bs, .cons hb hbs⟩

/-- The members of a schema without a diagnostic are resolved. -/
theorem resolved_of_gives {mode : Mode} {args item : List Tree} {schema : Schema}
    (h : Gives (resolved args item) mode schema) :
    ∀ member ∈ schema.members, member.Resolved schema.defaults := by
  obtain ⟨parsed, hparsed, hresolving⟩ := gives_bind.1 h
  exact (resolved_members (parse_parsed hparsed.returns) hresolving).1

/-- A schema with resolved members has a method for each of them, and nothing is reported. -/
theorem gives_accessors_of_resolved {schema : Schema}
    (h : ∀ member ∈ schema.members, member.Resolved schema.defaults) :
    ∃ methods, ∀ mode, Gives (accessors schema) mode methods := by
  obtain ⟨methods, hmethods⟩ := exists_forall₂ fun member hmember =>
    accessorFor_resolved (h member hmember)
  exact ⟨methods, fun mode => gives_accessors.2 hmethods⟩

/-- Nothing is generated behind a diagnostic. -/
theorem reported_of_resolved {mode : Mode} {args item : List Tree} {d : Diagnostic}
    {ds : List Diagnostic} (h : (resolved args item mode).reported = d :: ds) :
    (compiling args item mode).reported = d :: ds := by
  have hclean : clean (resolved args item) mode = ⟨none, d :: ds⟩ := by simp [clean, h]
  show (andThen (clean (resolved args item)) _ mode).reported = d :: ds
  simp [andThen, hclean]

/-- Without a diagnostic until then, all methods are generated and nothing is reported. -/
theorem compiling_of_resolved {mode : Mode} {args item : List Tree} {schema : Schema}
    (h : Gives (resolved args item) mode schema) :
    ∃ methods, Gives (accessors schema) mode methods ∧
      Gives (compiling args item) mode ⟨schema, methods⟩ := by
  obtain ⟨methods, hmethods⟩ := gives_accessors_of_resolved (resolved_of_gives h)
  exact ⟨methods, hmethods mode, gives_bind.2 ⟨schema, gives_clean.2 h, gives_bind.2 ⟨methods,
    hmethods mode, gives_pure.2 rfl⟩⟩⟩

/-- What is reported of a declaration is reported before generation. -/
theorem compiling_reported (args item : List Tree) (mode : Mode) :
    (compiling args item mode).reported = (resolved args item mode).reported := by
  cases hreported : (resolved args item mode).reported with
  | cons d ds => exact reported_of_resolved hreported
  | nil =>
    obtain ⟨schema, hschema⟩ := (resolved_lawful args item).gives_of_reported_nil hreported
    obtain ⟨methods, -, hgives⟩ := compiling_of_resolved hschema
    exact congrArg Outcome.reported hgives

/-- What is reported of a declaration is reported before generation. Without a diagnostic until
then, every check that a generator makes holds, and the declaration compiles to exactly one method
for each of its members. -/
theorem generation_never_fails (args item : List Tree) (mode : Mode) :
    (compiling args item mode).reported = (resolved args item mode).reported ∧
      ((resolved args item mode).reported = [] → ∃ schema methods,
        Gives (resolved args item) mode schema ∧
        (∀ member ∈ schema.members, member.Checked schema) ∧
        List.Forall₂ (fun member method => accessorFor schema member.access member = .ok method)
          schema.members methods ∧
        Gives (accessors schema) mode methods ∧
        compile mode args item = .ok ⟨schema, methods⟩) := by
  refine ⟨compiling_reported args item mode, fun hreported => ?_⟩
  obtain ⟨schema, hschema⟩ := (resolved_lawful args item).gives_of_reported_nil hreported
  obtain ⟨methods, hmethods, hgives⟩ := compiling_of_resolved hschema
  exact ⟨schema, methods, hschema,
    fun member hmember => (resolved_of_gives hschema member hmember).checked,
    gives_accessors.1 hmethods, hmethods, compile_eq_ok_iff.2 hgives⟩

/-! ### A label -/

/-- A declaration of a label, whose key and type are spelled in several ways, and of more. -/
def labelItem : List Tree :=
  (Tree.ofText? ("#[adapter(Unit => ByName)] trait P \x7b " ++
    "#[default(name = \"label\")] const D: &'static str = \"\"; " ++
    "#[get(name = \"\\x6cabel\")] fn label(&self) -> (std::string::String); " ++
    "#[set] fn set_label(&self, text: &str); #[set] fn set_unit(&self, unit: Unit); " ++
    "#[remove] fn forget(&self, key: &str); fn twice(&self) -> u8 \x7b 2 \x7d \x7d")).getD []

def labelArgs : List Tree := (Tree.ofText? "name = \"p\"").getD []

theorem label_outline : (compile .failFast labelArgs labelItem).toOption.map outline =
    some ([(.get, some "label", some (.native .string)),
      (.set, some "label", some (.native .string)), (.set, some "unit", some .adapted),
      (.remove, none, none)], [.native .string]) := by
  decide +kernel

/-- The declaration of the label is generated, with every check made of its four members. -/
theorem generation_never_fails_label :
    (resolved labelArgs labelItem .failFast).reported = [] ∧ ∃ schema methods,
      compile .failFast labelArgs labelItem = .ok ⟨schema, methods⟩ ∧
        ∀ member ∈ schema.members, member.Checked schema := by
  obtain ⟨compiled, hcompile, -⟩ := compile_of_outline label_outline
  obtain ⟨hreported, hgenerated⟩ := generation_never_fails labelArgs labelItem .failFast
  have hnone : (resolved labelArgs labelItem .failFast).reported = [] :=
    hreported.symm.trans (congrArg Outcome.reported (compile_eq_ok_iff.1 hcompile))
  obtain ⟨schema, methods, -, hchecked, -, -, hcompiled⟩ := hgenerated hnone
  exact ⟨hnone, schema, methods, hcompiled, hchecked⟩

end Preferences.Schema
