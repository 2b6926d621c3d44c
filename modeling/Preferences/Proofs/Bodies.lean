import Preferences.Schema.Body

/-! The bodies of generated methods, token by token. A body is read as a call if and only if it is
written as that call is, and every call is generated as it is written. -/

namespace Preferences.Schema

open Preferences.Source Preferences.Store Preferences.Syntax

/-! ### Tokens -/

/-- A value of a kind as it is passed to a gateway. -/
inductive Passes : Kind → Code → Code → Prop where
  | borrowed (value : Code) : Passes .string value
      [.plain "::", .plain "core", .plain "::", .plain "convert", .plain "::", .plain "AsRef",
        .plain "::", .plain "<", .plain "str", .plain ">", .plain "::", .plain "as_ref",
        .parens (.plain "&" :: value)]
  | plain {kind : Kind} (value : Code) (hkind : kind ≠ .string) : Passes kind value value

/-- The tokens of a body that is one call: of a gateway operation, which has the gateway as its
first argument, or of an operation of an adapter, which has it as its last one. -/
inductive BodyCall.Written (schema : Schema) : BodyCall → Code → Prop where
  | read {watch : Bool} {kind : Kind} {operation : String} {fallback : Code} (key const : String)
      (hoperation : Operation.ofName? operation = some (.read watch kind))
      (hfallback : Passes kind [.plain "<", .plain "Self", .plain "as",
        .plain schema.decl.name.text, .plain ">", .plain "::", .plain const] fallback) :
      Written schema (.read watch kind key const) (schema.runtime.code ++
        [.plain "::", .plain "Gateway", .plain "::", .plain operation,
          .parens ([.plain "&", .plain "self", .plain ".", .plain "gateway", .plain ",",
            .plain key, .plain ","] ++ fallback)])
  | write {sync : Bool} {kind : Kind} {operation : String} {passed : Code} (key value : String)
      (hoperation : Operation.ofName? operation = some (.write sync kind))
      (hpassed : Passes kind [.plain value] passed) :
      Written schema (.write sync kind key value) (schema.runtime.code ++
        [.plain "::", .plain "Gateway", .plain "::", .plain operation,
          .parens ([.plain "&", .plain "self", .plain ".", .plain "gateway", .plain ",",
            .plain key, .plain ","] ++ passed)])
  | adapterRead (watch : Bool) (adapter valueType : Code) (key const : String) :
      Written schema
        (.adapterRead watch (adapterPath schema.runtime.code adapter valueType) key const)
        (adapterPath schema.runtime.code adapter valueType ++
          [.plain "::", .plain (if watch then "observe" else "get"),
            .parens [.plain key, .plain ",", .plain "<", .plain "Self", .plain "as",
              .plain schema.decl.name.text, .plain ">", .plain "::", .plain const, .plain ",",
              .plain "&", .plain "self", .plain ".", .plain "gateway"]])
  | adapterWrite (adapter valueType : Code) (key value : String) :
      Written schema (.adapterWrite (adapterPath schema.runtime.code adapter valueType) key value)
        (adapterPath schema.runtime.code adapter valueType ++
          [.plain "::", .plain "put", .parens [.plain key, .plain ",", .plain value, .plain ",",
            .plain "&", .plain "self", .plain ".", .plain "gateway"]])
  | contains (key : String) :
      Written schema (.contains key) (schema.runtime.code ++
        [.plain "::", .plain "Gateway", .plain "::", .plain "contains",
          .parens [.plain "&", .plain "self", .plain ".", .plain "gateway", .plain ",",
            .plain key]])
  | remove (key : String) :
      Written schema (.remove key) (schema.runtime.code ++
        [.plain "::", .plain "Gateway", .plain "::", .plain "remove",
          .parens [.plain "&", .plain "self", .plain ".", .plain "gateway", .plain ",",
            .plain key]])
  | clear :
      Written schema .clear (schema.runtime.code ++
        [.plain "::", .plain "Gateway", .plain "::", .plain "clear",
          .parens [.plain "&", .plain "self", .plain ".", .plain "gateway"]])

/-! ### Reading -/

theorem passed?_eq_some {kind : Kind} {code value : Code} :
    passed? kind code = some value ↔ Passes kind value code := by
  constructor
  · intro h
    unfold passed? at h
    split at h
    · rename_i hkind
      unfold borrowed? at h
      split at h
      · cases h
        rw [hkind]
        exact .borrowed _
      · cases h
    · rename_i hkind
      cases h
      exact .plain _ hkind
  · rintro (_ | ⟨_, hkind⟩)
    · rfl
    · exact if_neg hkind

theorem constant?_eq_some {traitName name : String} {code : Code} :
    constant? traitName code = some name ↔ code = [.plain "<", .plain "Self", .plain "as",
      .plain traitName, .plain ">", .plain "::", .plain name] := by
  constructor
  · intro h
    unfold constant? at h
    split at h
    · split at h
      · rename_i hself
        cases h
        rw [hself]
      · cases h
    · cases h
  · rintro rfl
    exact if_pos rfl

namespace Operation

variable {name : String}

theorem eq_contains (h : ofName? name = some .contains) : name = "contains" := by
  unfold ofName? at h
  split at h <;> first | rfl | cases h

theorem eq_remove (h : ofName? name = some .remove) : name = "remove" := by
  unfold ofName? at h
  split at h <;> first | rfl | cases h

theorem eq_clear (h : ofName? name = some .clear) : name = "clear" := by
  unfold ofName? at h
  split at h <;> first | rfl | cases h

end Operation

theorem eq_of_watches? {operation : String} {watch : Bool} (h : watches? operation = some watch) :
    operation = if watch then "observe" else "get" := by
  unfold watches? at h
  split at h <;> cases h <;> rfl

namespace BodyCall

variable {schema : Schema}

theorem ofBody?_gateway {operation : String} {found : Operation} {args : Code}
    (hoperation : Operation.ofName? operation = some found) :
    ofBody? schema (schema.runtime.code ++ [.plain "::", .plain "Gateway", .plain "::",
      .plain operation, .parens args]) = ofGateway? schema.decl.name.text found args := by
  simp [ofBody?, hoperation]

theorem ofBody?_adapter (operation : String) (adapter valueType args : Code) :
    ofBody? schema (adapterPath schema.runtime.code adapter valueType ++ [.plain "::",
      .plain operation, .parens args]) = ofAdapter? schema.decl.name.text
        (adapterPath schema.runtime.code adapter valueType) operation args := by
  have hpath : IsAdapterPath schema.runtime.code
      (adapterPath schema.runtime.code adapter valueType) := ⟨adapter, valueType, rfl⟩
  have hne : adapterPath schema.runtime.code adapter valueType ≠
      schema.runtime.code ++ [.plain "::", .plain "Gateway"] := by
    intro h
    have hlast := congrArg List.getLast? h
    rw [adapterPath, List.getLast?_concat] at hlast
    simp [List.getLast?_append] at hlast
  simp [ofBody?, hpath, hne]

theorem ofBody?_of_written {call : BodyCall} {body : Code} (h : call.Written schema body) :
    ofBody? schema body = some call := by
  cases h with
  | read key const hoperation hfallback =>
    rw [ofBody?_gateway hoperation]
    simp [ofGateway?, passed?_eq_some.2 hfallback, constant?]
  | write key value hoperation hpassed =>
    rw [ofBody?_gateway hoperation]
    simp [ofGateway?, passed?_eq_some.2 hpassed]
  | adapterRead watch adapter valueType key const =>
    rw [ofBody?_adapter]
    cases watch <;> exact if_pos rfl
  | adapterWrite adapter valueType key value =>
    rw [ofBody?_adapter]
    simp [ofAdapter?]
  | contains key =>
    have hname : Operation.ofName? "contains" = some .contains := rfl
    rw [ofBody?_gateway hname]
    rfl
  | remove key =>
    have hname : Operation.ofName? "remove" = some .remove := rfl
    rw [ofBody?_gateway hname]
    rfl
  | clear =>
    have hname : Operation.ofName? "clear" = some .clear := rfl
    rw [ofBody?_gateway hname]
    rfl

theorem written_of_ofGateway? {operation : String} {found : Operation} {args : Code}
    {call : BodyCall} (hoperation : Operation.ofName? operation = some found)
    (h : ofGateway? schema.decl.name.text found args = some call) :
    call.Written schema (schema.runtime.code ++ [.plain "::", .plain "Gateway", .plain "::",
      .plain operation, .parens args]) := by
  unfold ofGateway? at h
  split at h
  · split at h
    · obtain ⟨name, hname, h⟩ := Option.bind_eq_some_iff.1 h
      obtain ⟨const, hconst, h⟩ := Option.bind_eq_some_iff.1 h
      cases h
      rw [passed?_eq_some] at hname
      rw [constant?_eq_some] at hconst
      rw [hconst] at hname
      exact .read _ _ hoperation hname
    · split at h
      · rename_i hpassed
        cases h
        exact .write _ _ hoperation (passed?_eq_some.1 hpassed)
      · cases h
    · cases h
      rw [Operation.eq_contains hoperation]
      exact .contains _
    · cases h
      rw [Operation.eq_remove hoperation]
      exact .remove _
    · cases h
      rw [Operation.eq_clear hoperation]
      exact .clear
    · cases h
  · cases h

theorem written_of_ofAdapter? {operation : String} {adapter valueType args : Code}
    {call : BodyCall} (h : ofAdapter? schema.decl.name.text
      (adapterPath schema.runtime.code adapter valueType) operation args = some call) :
    call.Written schema (adapterPath schema.runtime.code adapter valueType ++
      [.plain "::", .plain operation, .parens args]) := by
  unfold ofAdapter? at h
  split at h
  · split at h
    · rename_i hself
      obtain ⟨watch, hwatch, rfl⟩ := Option.map_eq_some_iff.1 h
      rw [hself, eq_of_watches? hwatch]
      exact .adapterRead watch ..
    · cases h
  · split at h
    · rename_i hput
      cases h
      rw [hput]
      exact .adapterWrite ..
    · cases h
  · cases h

/-- A body is read as a call if and only if it is written as that call is. -/
theorem ofBody?_eq_some {call : BodyCall} {body : Code} :
    ofBody? schema body = some call ↔ call.Written schema body := by
  refine ⟨fun h => ?_, ofBody?_of_written⟩
  unfold ofBody? at h
  split at h
  · rename_i args operation path heq
    have hbody : body = path.reverse ++ [.plain "::", .plain operation, .parens args] := by
      rw [← body.reverse_reverse, heq]
      simp
    rw [hbody]
    split at h
    · rename_i hpath
      obtain ⟨found, hfound, h⟩ := Option.bind_eq_some_iff.1 h
      rw [hpath, List.append_assoc]
      exact written_of_ofGateway? hfound h
    · split at h
      · rename_i hpath
        obtain ⟨adapter, valueType, hpath⟩ := hpath
        rw [hpath] at h ⊢
        exact written_of_ofAdapter? h
      · cases h
  · cases h

end BodyCall

/-! ### Generated bodies -/

/-- The token of a key: its literal as it is spelled, or the name of the parameter. -/
def Key.token : Key → String
  | fixed lit => lit.spelling
  | parameter name => name.text

/-- A generated call, as its body spells it. -/
def Call.inBody (schema : Schema) : Call → BodyCall
  | read watch kind key fallback => .read watch kind key.token fallback.name.text
  | write sync kind key value => .write sync kind key.token value.text
  | adapterRead watch bound key fallback =>
    .adapterRead watch (adapterPath schema.runtime.code bound.adapter.code bound.valueType.code)
      key.token fallback.name.text
  | adapterWrite bound key value =>
    .adapterWrite (adapterPath schema.runtime.code bound.adapter.code bound.valueType.code)
      key.token value.text
  | contains key => .contains key.token
  | remove key => .remove key.token
  | clear => .clear

section Generated

variable (schema : Schema)

theorem Key.piece_eq (key : Key) : key.piece = .plain key.token := by
  cases key <;> rfl

theorem passes_argumentCode (kind : Kind) (value : Code) :
    Passes kind value (argumentCode kind value) := by
  by_cases hkind : kind = .string
  · rw [hkind]
    exact .borrowed value
  · rw [argumentCode, if_neg hkind]
    exact .plain value hkind

theorem ofName?_read (watch : Bool) (kind : Kind) :
    Operation.ofName? (readVerb watch ++ "_" ++ kind.name) = some (.read watch kind) := by
  cases watch <;> cases kind <;> decide

theorem ofName?_write (sync : Bool) (kind : Kind) :
    Operation.ofName? ("put_" ++ kind.name ++ if sync then "_sync" else "") =
      some (.write sync kind) := by
  cases sync <;> cases kind <;> decide

theorem gatewayCall_value (operation key : String) (value : Code) :
    gatewayCall schema operation [[.plain key], value] = schema.runtime.code ++
      [.plain "::", .plain "Gateway", .plain "::", .plain operation,
        .parens ([.plain "&", .plain "self", .plain ".", .plain "gateway", .plain ",", .plain key,
          .plain ","] ++ value)] := by
  simp [gatewayCall, gatewayCode, Code.commaList, Code.separated, Code.words]

theorem gatewayCall_key (operation key : String) :
    gatewayCall schema operation [[.plain key]] = schema.runtime.code ++
      [.plain "::", .plain "Gateway", .plain "::", .plain operation,
        .parens [.plain "&", .plain "self", .plain ".", .plain "gateway", .plain ",",
          .plain key]] := by
  simp [gatewayCall, gatewayCode, Code.commaList, Code.separated, Code.words]

theorem gatewayCall_nil (operation : String) :
    gatewayCall schema operation [] = schema.runtime.code ++
      [.plain "::", .plain "Gateway", .plain "::", .plain operation,
        .parens [.plain "&", .plain "self", .plain ".", .plain "gateway"]] := by
  simp [gatewayCall, gatewayCode, Code.commaList, Code.separated, Code.words]

theorem adapterCall_value (bound : AdapterBinding) (operation key : String) (value : Code) :
    adapterCall schema bound operation [[.plain key], value] =
      adapterPath schema.runtime.code bound.adapter.code bound.valueType.code ++
        [.plain "::", .plain operation, .parens (.plain key :: .plain "," :: value ++
          [.plain ",", .plain "&", .plain "self", .plain ".", .plain "gateway"])] := by
  simp [adapterCall, adapterPath, gatewayCode, Code.commaList, Code.separated, Code.words]

/-- The body that is generated for a call is written as the call is. -/
theorem Call.code_written (call : Call) :
    (call.inBody schema).Written schema (call.code schema) := by
  cases call with
  | read watch kind key fallback =>
    rw [Call.code, Key.piece_eq, gatewayCall_value]
    exact .read _ _ (ofName?_read watch kind) (passes_argumentCode kind _)
  | write sync kind key value =>
    rw [Call.code, Key.piece_eq, gatewayCall_value]
    exact .write _ _ (ofName?_write sync kind) (passes_argumentCode kind _)
  | adapterRead watch bound key fallback =>
    rw [Call.code, Key.piece_eq, adapterCall_value]
    exact .adapterRead watch ..
  | adapterWrite bound key value =>
    rw [Call.code, Key.piece_eq, adapterCall_value]
    exact .adapterWrite ..
  | contains key =>
    rw [Call.code, Key.piece_eq, gatewayCall_key]
    exact .contains _
  | remove key =>
    rw [Call.code, Key.piece_eq, gatewayCall_key]
    exact .remove _
  | clear =>
    rw [Call.code, gatewayCall_nil]
    exact .clear

end Generated

end Preferences.Schema
