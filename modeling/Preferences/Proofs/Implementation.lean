import Preferences.Proofs.Generation
import Preferences.Proofs.Required

/-! The generated implementation. It has a method for each required method of the trait, in the
order of the trait and with the same signature, and no other ones. The body of each is one call, and
takes nothing from the scope of its method but `self` and the method's only parameter. -/

namespace Preferences.Schema

open Preferences.Source Preferences.Syntax

/-! ### Names that a body uses -/

/-- An argument of a generated call, token by token, with the names that it takes from the scope of
its method: the gateway, a literal, a parameter, a default of the trait, or a borrowed string. -/
inductive Argument (schema : Schema) : Code → List String → Prop where
  | gateway :
      Argument schema [.plain "&", .plain "self", .plain ".", .plain "gateway"] ["self"]
  | literal {lit : TextLiteral} (hlit : lit.ReadsBack) :
      Argument schema [.plain lit.spelling] []
  | param (name : Name) : Argument schema [.plain name.text] [name.text]
  | constant {const : DefaultConst} (hconst : const ∈ schema.defaults) :
      Argument schema [.plain "<", .plain "Self", .plain "as", .plain schema.decl.name.text,
        .plain ">", .plain "::", .plain const.name.text] []
  | borrowed {value : Code} {names : List String} (hvalue : Argument schema value names) :
      Argument schema [.plain "::", .plain "core", .plain "::", .plain "convert", .plain "::",
        .plain "AsRef", .plain "::", .plain "<", .plain "str", .plain ">", .plain "::",
        .plain "as_ref", .parens (.plain "&" :: value)] names

/-- Arguments with commas between them, with the names of all. -/
inductive Arguments (schema : Schema) : Code → List String → Prop where
  | last {arg : Code} {names : List String} (harg : Argument schema arg names) :
      Arguments schema arg names
  | cons {arg args : Code} {names others : List String} (harg : Argument schema arg names)
      (hargs : Arguments schema args others) :
      Arguments schema (arg ++ .plain "," :: args) (names ++ others)

/-- Code that is one call, of a gateway operation or of an operation of an adapter for a type, with
the names that its arguments take from the scope of the method. -/
inductive OneCall (schema : Schema) : Code → List String → Prop where
  | gateway (operation : String) {args : Code} {names : List String}
      (hargs : Arguments schema args names) :
      OneCall schema (schema.runtime.code ++
        [.plain "::", .plain "Gateway", .plain "::", .plain operation, .parens args]) names
  | adapter (bound : AdapterBinding) (operation : String) {args : Code} {names : List String}
      (hargs : Arguments schema args names) :
      OneCall schema (.plain "<" :: bound.adapter.code ++ .plain "as" :: schema.runtime.code ++
        [.plain "::", .plain "PreferenceAdapter", .plain "<"] ++ bound.valueType.code ++
        [.plain ">>", .plain "::", .plain operation, .parens args]) names

/-- What the scope of a method offers: itself, and for setters and for tests and removals of a key
that is passed also its only parameter, by its plain name. -/
inductive Scope (access : Access) (sig : Signature) : List String → Prop where
  | alone {receiver : Receiver} (hparams : sig.params = [.self receiver])
      (haccess : access.isSetter = false) : Scope access sig ["self"]
  | param {receiver : Receiver} {attrs : List Attribute} {pattern : Pattern} {ty : Ty} {name : Name}
      (hparams : sig.params = [.self receiver, .typed attrs pattern ty])
      (hname : plainName? pattern = some name)
      (haccess : access.isSetter = true ∨ access = .contains ∨ access = .remove) :
      Scope access sig ["self", name.text]

/-- The names of parameters in a key. -/
def Key.names : Key → List String
  | fixed _ => []
  | parameter name => [name.text]

/-- The names of parameters in a call. -/
def Call.names : Call → List String
  | read _ _ key _ | adapterRead _ _ key _ | contains key | remove key => key.names
  | write _ _ key value | adapterWrite _ key value => key.names ++ [value.text]
  | clear => []

/-! ### Bodies -/

section Bodies

variable {schema : Schema} {member : Member}

theorem argument_key {key : Key} (hreads : ∀ lit, key = .fixed lit → lit.ReadsBack) :
    Argument schema [key.piece] key.names := by
  cases key with
  | fixed lit => exact .literal (hreads lit rfl)
  | parameter name => exact .param name

/-- A value is borrowed as a string or passed as it is. -/
theorem argument_argumentCode {value : Code} {names : List String} (kind : Store.Kind)
    (h : Argument schema value names) : Argument schema (argumentCode kind value) names := by
  by_cases hkind : kind = .string
  · rw [hkind]
    exact .borrowed h
  · rwa [argumentCode, if_neg hkind]

theorem arguments_separated {args : List Code} {names : List (List String)}
    (h : List.Forall₂ (Argument schema) args names) (hne : args ≠ []) :
    Arguments schema (Code.separated (.plain ",") args) names.flatten := by
  induction h with
  | nil => exact absurd rfl hne
  | @cons arg names args others harg hargs ih =>
    cases args with
    | nil =>
      cases hargs
      rw [List.flatten_singleton]
      exact .last harg
    | cons next rest => exact .cons harg (ih (List.cons_ne_nil next rest))

theorem oneCall_gatewayCall (operation : String) {args : List Code} {names : List (List String)}
    (h : List.Forall₂ (Argument schema) args names) :
    OneCall schema (gatewayCall schema operation args) ("self" :: names.flatten) := by
  have hargs := arguments_separated (.cons .gateway h) (List.cons_ne_nil gatewayCode args)
  have hcall := OneCall.gateway operation hargs
  simpa [gatewayCall, gatewayCode, Code.words, Code.commaList] using hcall

theorem oneCall_adapterCall (bound : AdapterBinding) (operation : String) {args : List Code}
    {names : List (List String)} (h : List.Forall₂ (Argument schema) args names) :
    OneCall schema (adapterCall schema bound operation args) (names.flatten ++ ["self"]) := by
  have hargs := arguments_separated (List.rel_append h (.cons .gateway .nil))
    (List.append_ne_nil_of_right_ne_nil args (List.cons_ne_nil gatewayCode []))
  have hcall := OneCall.adapter bound operation hargs
  simpa [adapterCall, gatewayCode, Code.words, Code.commaList] using hcall

/-- What a member delegates to is one call, which uses `self` and the parameters in it. -/
theorem oneCall_of_delegates (hreads : ∀ lit, member.key = .fixed lit → lit.ReadsBack)
    {call : Call} (h : Delegates schema.defaults member call) :
    ∃ used, OneCall schema (call.code schema) used ∧ used.Perm ("self" :: call.names) := by
  cases h with
  | @read watch key ty kind const htyped hkind hdefault =>
    have hkey : Argument schema [key.piece] [] := .literal (hreads key htyped.key)
    have hconst : Argument schema (defaultCode schema const) [] :=
      .constant (of_selected hdefault).1
    exact ⟨_, oneCall_gatewayCall _
      (.cons hkey (.cons (argument_argumentCode kind hconst) .nil)), .refl _⟩
  | @write sync key ty kind name htyped hkind hname =>
    have hkey : Argument schema [key.piece] [] := .literal (hreads key htyped.key)
    exact ⟨_, oneCall_gatewayCall _
      (.cons hkey (.cons (argument_argumentCode kind (.param name)) .nil)), .refl _⟩
  | @adapterRead watch key ty bound const htyped hadapted hsame hdefault =>
    have hkey : Argument schema [key.piece] [] := .literal (hreads key htyped.key)
    have hconst : Argument schema (defaultCode schema const) [] :=
      .constant (of_selected hdefault).1
    exact ⟨_, oneCall_adapterCall bound _ (.cons hkey (.cons hconst .nil)), .refl _⟩
  | @adapterWrite key ty bound name htyped hadapted hsame hname =>
    have hkey : Argument schema [key.piece] [] := .literal (hreads key htyped.key)
    -- An adapter takes the gateway last, so the names come in the other order.
    exact ⟨_, oneCall_adapterCall bound _ (.cons hkey (.cons (.param name) .nil)),
      .swap "self" name.text []⟩
  | contains | remove =>
    refine ⟨_, oneCall_gatewayCall _ (.cons (argument_key hreads) .nil), ?_⟩
    simp [Call.names]
  | clear => exact ⟨_, oneCall_gatewayCall _ .nil, .refl _⟩

end Bodies

/-! ### Scopes -/

section Scopes

variable {sig : Signature} {access : Access}

theorem scope_alone (hparams : paramsAfterSelf sig = .ok []) (haccess : access.isSetter = false) :
    Scope access sig ["self"] := by
  obtain ⟨receiver, rest, hself, hrest⟩ := paramsAfterSelf_ok hparams
  cases hrest
  exact .alone hself haccess

theorem scope_param {pattern : Pattern} {ty : Ty} {name : Name}
    (hparams : paramsAfterSelf sig = .ok [(pattern, ty)]) (hname : plainName? pattern = some name)
    (haccess : access.isSetter = true ∨ access = .contains ∨ access = .remove) :
    Scope access sig ["self", name.text] := by
  obtain ⟨receiver, rest, hself, hrest⟩ := paramsAfterSelf_ok hparams
  obtain ⟨param, others, ⟨attrs, rfl⟩, hothers, rfl⟩ := List.forall₂_cons_right_iff.1 hrest
  cases hothers
  exact .param hself hname haccess

/-- The scope of a method whose key is fixed, or is its parameter. -/
theorem scope_key {explicit : Option TextLiteral} {params : List (Pattern × Ty)} {key : Key}
    {valueType : Option Ty} {value : Option Name} (hparams : paramsAfterSelf sig = .ok params)
    (hshape : keyShape sig access explicit params = .ok ⟨key, valueType, value⟩)
    (haccess : access = .contains ∨ access = .remove) : Scope access sig ("self" :: key.names) := by
  rcases keyShape_ok hshape with ⟨rfl, hkey⟩ | ⟨pattern, ty, name, rfl, hname, hkey⟩
  · cases hkey
    refine scope_alone hparams ?_
    rcases haccess with rfl | rfl <;> rfl
  · cases hkey
    exact scope_param hparams hname (.inr haccess)

/-- The scope of a setter has the parameter that its value comes from. -/
theorem scope_value {explicit : Option TextLiteral} {params : List (Pattern × Ty)} {key : Key}
    {valueType : Option Ty} {name : Name} (hparams : paramsAfterSelf sig = .ok params)
    (hshape : writeShape sig access explicit params = .ok ⟨key, valueType, some name⟩)
    (haccess : access.isSetter = true) : Scope access sig ["self", name.text] := by
  obtain ⟨pattern, ty, found, rfl, hname, hvalue⟩ := writeShape_ok hshape
  cases hvalue
  exact scope_param hparams hname (.inl haccess)

/-- A member's call takes its parameters from the method that declares the member. -/
theorem scope_of_delegates {method : Method} {member : Member} {defaults : List DefaultConst}
    (hmember : Declares method member) {call : Call} (h : Delegates defaults member call) :
    Scope member.access method.signature ("self" :: call.names) := by
  obtain ⟨mark, explicit, params, -, -, -, -, hparams, hshape, -⟩ := declares_ok hmember
  cases h with
  | read watch htyped _ _ | adapterRead watch htyped _ _ _ =>
    rw [htyped.access] at hshape ⊢
    cases watch <;>
      (obtain ⟨rfl, -⟩ := readShape_ok hshape
       exact scope_alone hparams rfl)
  | write sync htyped _ hname =>
    rw [htyped.access, hname] at hshape
    rw [htyped.access]
    cases sync <;> exact scope_value hparams hshape rfl
  | adapterWrite htyped _ _ hname =>
    rw [htyped.access, hname] at hshape
    rw [htyped.access]
    exact scope_value hparams hshape rfl
  | contains haccess =>
    rw [haccess] at hshape ⊢
    exact scope_key hparams hshape (.inl rfl)
  | remove haccess =>
    rw [haccess] at hshape ⊢
    exact scope_key hparams hshape (.inr rfl)
  | clear haccess =>
    rw [haccess] at hshape ⊢
    obtain ⟨rfl, -⟩ := clearShape_ok hshape
    exact scope_alone hparams rfl

end Scopes

/-! ### The implementation -/

/-- The generated method implements a required one: it has the same signature, and its body is one
call that uses what the scope of the method offers, and all of it. -/
structure Implements (schema : Schema) (method : Method) (accessor : Accessor) : Prop where
  signature : accessor.signature = method.signature
  body : ∃ mark access names used, method.attrs.filter isAccessAttr = [mark] ∧
    Access.ofPath? mark.path = some access ∧ Scope access method.signature names ∧
    OneCall schema (accessor.call.code schema) used ∧ used.Perm names

theorem implements_of_declares {schema : Schema} {method : Method} {member : Member}
    {accessor : Accessor} (hmember : Declares method member)
    (hreads : ∀ lit, member.key = .fixed lit → lit.ReadsBack)
    (h : Generated schema.defaults member accessor) : Implements schema method accessor := by
  obtain ⟨mark, _, _, hmark, haccess, -, -, -, -, hsig⟩ := declares_ok hmember
  obtain ⟨used, hcall, hused⟩ := oneCall_of_delegates hreads h.call
  exact ⟨h.signature.trans hsig, mark, member.access, _, used, hmark, haccess,
    scope_of_delegates hmember h.call, hcall, hused⟩

/-- A compiled trait is implemented by one method for each method that it requires, in the order of
the trait, and by nothing else. The signatures are those of the trait as it is put out. -/
theorem implementation_covers_required {mode : Mode} {args item : List Tree} {compiled : Compiled}
    (h : compile mode args item = .ok compiled) :
    (∃ decl, Parser.parseAll TraitDecl.parser item Position.start = .ok decl ∧
      compiled.schema.decl = cleaned decl ∧
      List.Forall₂ (Implements compiled.schema) (requiredMethods decl) compiled.methods) ∧
    compiled.methods.map (·.signature) =
      (requiredMethods compiled.schema.decl).map (·.signature) ∧
    compiled.code = compiled.schema.decl.code ++ structCode compiled.schema ++
      inherentCode compiled.schema ++ ([.plain "impl", .plain "<", .plain "G", .plain ":"] ++
        compiled.schema.runtime.code ++ [.plain "::", .plain "Gateway", .plain ">",
          .plain compiled.schema.decl.name.text, .plain "for", .plain compiled.schema.implName,
          .plain "<", .plain "G", .plain ">", .braces (compiled.methods.flatMap fun accessor =>
            accessor.signature.code ++ [.braces (accessor.call.code compiled.schema)])]) := by
  obtain ⟨decl, hdecl, hcleaned, hmembers⟩ := compile_declares h
  have himplements : List.Forall₂ (Implements compiled.schema) (requiredMethods decl)
      compiled.methods := by
    have hreads : ∀ member ∈ compiled.schema.members, ∀ lit, member.key = .fixed lit →
        lit.ReadsBack := fun member hmember lit => compile_readsBack h hmember
    have hgenerated := List.forall₂_and_left _ _ |>.2 ⟨hreads, (compile_generated h).1⟩
    exact forall₂_comp_of_mem hmembers hgenerated fun method _ member accessor hdeclares hmember =>
      implements_of_declares hdeclares hmember.1 hmember.2
  refine ⟨⟨decl, hdecl, hcleaned, himplements⟩, ?_, ?_⟩
  · rw [hcleaned, requiredMethods_cleaned]
    have hsignatures : List.Forall₂ Eq (compiled.methods.map (·.signature))
        ((requiredMethods decl).map (·.signature)) := by
      rw [List.forall₂_map_left_iff, List.forall₂_map_right_iff]
      exact himplements.flip.imp fun accessor method himplement => himplement.signature
    rwa [List.forall₂_eq_eq_eq] at hsignatures
  · have hmethods : (Accessor.code compiled.schema) = fun accessor =>
        accessor.signature.code ++ [.braces (accessor.call.code compiled.schema)] := rfl
    simp [Compiled.code, implementationCode, hmethods, Code.words, Name.piece]

/-- The trait of the label requires four methods, and each of them is implemented. -/
theorem implementation_covers_required_label : ∃ compiled decl,
    compile .failFast labelArgs labelItem = .ok compiled ∧ compiled.schema.decl = cleaned decl ∧
      (requiredMethods decl).length = 4 ∧
      List.Forall₂ (Implements compiled.schema) (requiredMethods decl) compiled.methods := by
  obtain ⟨compiled, hcompile, houtline⟩ := compile_of_outline label_outline
  obtain ⟨⟨decl, -, hcleaned, himplements⟩, -, -⟩ := implementation_covers_required hcompile
  have hmembers : compiled.schema.members.length = 4 := by
    rw [outline, Prod.mk.injEq] at houtline
    have hlength := congrArg List.length houtline.1
    rwa [List.length_map] at hlength
  refine ⟨compiled, decl, hcompile, hcleaned, ?_, himplements⟩
  rw [himplements.length_eq, ← (compile_generated hcompile).1.length_eq, hmembers]

end Preferences.Schema
