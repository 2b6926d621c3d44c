import Preferences.Proofs.Bodies
import Preferences.Proofs.Generation
import Preferences.Proofs.Required

/-! Accessors of one key agree. However the key and the type of a typed member are spelled, the body
of its method is settled by what the spellings mean: the storage, the operation or the type of the
adapter, and the key and the type of the default. -/

namespace Preferences.Schema

open Preferences.Source Preferences.Syntax

/-! ### Bodies of typed members -/

/-- A default of a schema with a key, and with a type that `typeKey` identifies. -/
structure DefaultConst.Serves (schema : Schema) (key typeKey : String) (const : DefaultConst) :
    Prop where
  declared : const ∈ schema.defaults
  key : const.key = key
  type : const.ty.key = typeKey

/-- The body of a method that accesses a key whose values have the type that `typeKey` identifies.
It is written as a single call: of a gateway operation of the kind that stores them, or of an
operation of an adapter for that type. Its literal spells the key, and what it falls back on is a
default of the key and the type. -/
inductive Touches (schema : Schema) (key typeKey : String) : Access → Storage → Code → Prop where
  | read (watch : Bool) {kind : Store.Kind} {lit : TextLiteral} {const : DefaultConst} {body : Code}
      (hkey : lit.Spells key) (hdefault : const.Serves schema key typeKey)
      (hbody : BodyCall.Written schema (.read watch kind lit.spelling const.name.text) body) :
      Touches schema key typeKey (if watch then .observe else .get) (.native kind) body
  | write (sync : Bool) {kind : Store.Kind} {lit : TextLiteral} {name : Name} {body : Code}
      (hkey : lit.Spells key)
      (hbody : BodyCall.Written schema (.write sync kind lit.spelling name.text) body) :
      Touches schema key typeKey (if sync then .setSync else .set) (.native kind) body
  | adapterRead (watch : Bool) {bound : AdapterBinding} {lit : TextLiteral} {const : DefaultConst}
      {body : Code} (hbound : bound.valueType.key = typeKey) (hkey : lit.Spells key)
      (hdefault : const.Serves schema key typeKey)
      (hbody : BodyCall.Written schema (.adapterRead watch
        (adapterPath schema.runtime.code bound.adapter.code bound.valueType.code)
        lit.spelling const.name.text) body) :
      Touches schema key typeKey (if watch then .observe else .get) .adapted body
  | adapterWrite {bound : AdapterBinding} {lit : TextLiteral} {name : Name} {body : Code}
      (hbound : bound.valueType.key = typeKey) (hkey : lit.Spells key)
      (hbody : BodyCall.Written schema (.adapterWrite
        (adapterPath schema.runtime.code bound.adapter.code bound.valueType.code)
        lit.spelling name.text) body) :
      Touches schema key typeKey .set .adapted body

/-- The method of a member that accesses a key: it has the signature of the member, and in its code
a body that accesses the key is all that follows this signature. -/
structure Accessor.Handles (schema : Schema) (key typeKey : String) (storage : Storage)
    (member : Member) (method : Accessor) : Prop where
  signature : method.signature = member.signature
  body : ∃ body, method.code schema = member.signature.code ++ [.braces body] ∧
    Touches schema key typeKey member.access storage body

theorem Member.Typed.unique {member : Member} {access access' : Access} {key key' : TextLiteral}
    {ty ty' : Ty} (h : member.Typed access key ty) (h' : member.Typed access' key' ty') :
    access = access' ∧ key = key' ∧ ty = ty' :=
  ⟨h.access.symm.trans h'.access, Key.fixed.inj (h.key.symm.trans h'.key),
    Option.some.inj (h.valueType.symm.trans h'.valueType)⟩

/-- The only default that a member selects has its key and its type. -/
theorem serves_of_selected {schema : Schema} {key : String} {ty : Ty} {const : DefaultConst}
    (h : selected schema.defaults key ty = [const]) : const.Serves schema key ty.key := by
  obtain ⟨hdeclared, hkey, hsame⟩ := of_selected h
  exact ⟨hdeclared, hkey, Ty.same_iff.1 hsame⟩

/-- What a typed member delegates to is settled by its key and its type. -/
theorem touches_of_delegates {schema : Schema} {member : Member} {access : Access}
    {lit : TextLiteral} {ty : Ty} {call : Call} (htyped : member.Typed access lit ty)
    (haccess : access.isTyped = true) (hlit : lit.Spells lit.value)
    (h : Delegates schema.defaults member call) :
    Touches schema lit.value ty.key access (Storage.ofType ty) (call.code schema) := by
  have hbody := call.code_written schema
  cases h with
  | read watch htyped' hkind hdefault =>
    obtain ⟨rfl, rfl, rfl⟩ := htyped.unique htyped'
    rw [hkind]
    exact .read watch hlit (serves_of_selected hdefault) hbody
  | write sync htyped' hkind hname =>
    obtain ⟨rfl, rfl, rfl⟩ := htyped.unique htyped'
    rw [hkind]
    exact .write sync hlit hbody
  | adapterRead watch htyped' hadapted hsame hdefault =>
    obtain ⟨rfl, rfl, rfl⟩ := htyped.unique htyped'
    rw [hadapted]
    exact .adapterRead watch (Ty.same_iff.1 hsame) hlit (serves_of_selected hdefault) hbody
  | adapterWrite htyped' hadapted hsame hname =>
    obtain ⟨rfl, rfl, rfl⟩ := htyped.unique htyped'
    rw [hadapted]
    exact .adapterWrite (Ty.same_iff.1 hsame) hlit hbody
  | contains h | remove h | clear h =>
    rw [← htyped.access, h] at haccess
    cases haccess

/-! ### Compiled members -/

section Compiled

variable {mode : Mode} {args item : List Tree} {compiled : Compiled}

/-- A typed member of a compiled declaration: its type, its storage, and its method. -/
theorem compile_handles (h : compile mode args item = .ok compiled) {place : Nat} {member : Member}
    (hmember : compiled.schema.members[place]? = some member)
    (haccess : member.access.isTyped = true) {lit : TextLiteral} {key : String}
    (hkey : member.key = .fixed lit) (hlit : lit.Spells key) :
    ∃ ty method, member.typedKey? = some (key, ty) ∧ member.valueType = some ty ∧
      member.storage = some (Storage.ofType ty) ∧ compiled.methods[place]? = some method ∧
      method.Handles compiled.schema key ty.key (Storage.ofType ty) member := by
  have hmem := List.mem_of_getElem? hmember
  have hresolved := (compile_resolved h).1 member hmem
  -- The value that is kept of a literal is what its spelling means.
  have hspells := (compile_readsBack h hmem hkey).spells
  obtain rfl := hspells.unique hlit
  obtain ⟨lit', ty, htyped⟩ := hresolved.typed haccess
  obtain rfl := Key.fixed.inj (htyped.key.symm.trans hkey)
  rcases getElem?_of_forall₂ (compile_generated h).1 place with
    ⟨hnone, -⟩ | ⟨found, method, hfound, hmethod, hgenerated⟩
  · rw [hmember] at hnone
    cases hnone
  · obtain rfl := Option.some.inj (hmember.symm.trans hfound)
    have htouches := touches_of_delegates htyped haccess hspells hgenerated.call
    have hcode : method.code compiled.schema =
        member.signature.code ++ [.braces (method.call.code compiled.schema)] := by
      rw [Accessor.code, hgenerated.signature]
    refine ⟨ty, method, ?_, htyped.valueType, ?_, hmethod, hgenerated.signature, _, hcode,
      htouches⟩
    · simp [Member.typedKey?, haccess, hkey, htyped.valueType, Key.name?]
    · rw [hresolved.storage, htyped.valueType, Option.map_some]

/-- Typed members whose keys spell the same text agree, however key and type are spelled. Their
types are one type and have one storage. Both bodies are an operation of the kind that this is, or
of an adapter for this type, on a literal that spells the text; and what a read falls back on is a
default of this key and this type. -/
theorem accessors_of_key_agree (h : compile mode args item = .ok compiled) {i j : Nat}
    {m n : Member} (hm : compiled.schema.members[i]? = some m)
    (hn : compiled.schema.members[j]? = some n) (hmtyped : m.access.isTyped = true)
    (hntyped : n.access.isTyped = true) {lit lit' : TextLiteral} {key : String}
    (hmkey : m.key = .fixed lit) (hnkey : n.key = .fixed lit') (hlit : lit.Spells key)
    (hlit' : lit'.Spells key) :
    ∃ typeKey storage a b,
      m.valueType.map Ty.key = some typeKey ∧ n.valueType.map Ty.key = some typeKey ∧
      m.storage = some storage ∧ n.storage = some storage ∧
      compiled.methods[i]? = some a ∧ a.Handles compiled.schema key typeKey storage m ∧
      compiled.methods[j]? = some b ∧ b.Handles compiled.schema key typeKey storage n := by
  obtain ⟨ty, a, hmkeyed, hmtype, hmstorage, ha, hahandles⟩ :=
    compile_handles h hm hmtyped hmkey hlit
  obtain ⟨ty', b, hnkeyed, hntype, hnstorage, hb, hbhandles⟩ :=
    compile_handles h hn hntyped hnkey hlit'
  have hsame : ty'.same ty = true := (compile_resolved h).2 n (List.mem_of_getElem? hn) m
    (List.mem_of_getElem? hm) key ty' ty hnkeyed hmkeyed
  rw [Storage.ofType_eq_of_same hsame] at hnstorage hbhandles
  rw [Ty.same_iff.1 hsame] at hbhandles
  refine ⟨ty.key, Storage.ofType ty, a, b, ?_, ?_, hmstorage, hnstorage, ha, hahandles, hb,
    hbhandles⟩
  · rw [hmtype, Option.map_some]
  · rw [hntype, Option.map_some, Ty.same_iff.1 hsame]

/-- A key of a compiled declaration is spelled by its literal. -/
theorem spells_of_name? (h : compile mode args item = .ok compiled) {member : Member}
    (hmember : member ∈ compiled.schema.members) {key : String}
    (hname : member.key.name? = some key) : ∃ lit, member.key = .fixed lit ∧ lit.Spells key := by
  cases hkey : member.key with
  | fixed lit =>
    rw [hkey] at hname
    cases hname
    exact ⟨lit, rfl, (compile_readsBack h hmember hkey).spells⟩
  | parameter name =>
    rw [hkey] at hname
    cases hname

end Compiled

/-- The getter and the setter of the label, which spell it and its type differently, agree. -/
theorem accessors_of_key_agree_label : ∃ compiled getter setter typeKey,
    compile .failFast labelArgs labelItem = .ok compiled ∧
      compiled.schema.members[0]? = some getter ∧ compiled.schema.members[1]? = some setter ∧
      getter.access = .get ∧ setter.access = .set ∧
      getter.valueType.map Ty.key = some typeKey ∧ setter.valueType.map Ty.key = some typeKey ∧
      ∃ a b, compiled.methods[0]? = some a ∧ compiled.methods[1]? = some b ∧
        a.Handles compiled.schema "label" typeKey (.native .string) getter ∧
        b.Handles compiled.schema "label" typeKey (.native .string) setter := by
  obtain ⟨compiled, hcompile, houtline⟩ := compile_of_outline label_outline
  simp only [outline, Prod.mk.injEq, List.map_eq_cons_iff] at houtline
  obtain ⟨⟨getter, _, hmembers, ⟨hget, hgetKey, hgetType⟩, setter, _, rfl, ⟨hset, hsetKey, -⟩, -⟩,
    -⟩ := houtline
  have hgetter : compiled.schema.members[0]? = some getter := by rw [hmembers]; rfl
  have hsetter : compiled.schema.members[1]? = some setter := by rw [hmembers]; rfl
  obtain ⟨lit, hlit, hspells⟩ :=
    spells_of_name? hcompile (List.mem_of_getElem? hgetter) hgetKey
  obtain ⟨lit', hlit', hspells'⟩ :=
    spells_of_name? hcompile (List.mem_of_getElem? hsetter) hsetKey
  obtain ⟨typeKey, storage, a, b, htype, htype', hstorage, -, ha, hread, hb, hwrite⟩ :=
    accessors_of_key_agree hcompile hgetter hsetter (by rw [hget]; rfl) (by rw [hset]; rfl)
      hlit hlit' hspells hspells'
  have hnative : storage = .native .string := by
    have hresolved := (compile_resolved hcompile).1 getter (List.mem_of_getElem? hgetter)
    rw [hresolved.storage, hgetType] at hstorage
    exact (Option.some.inj hstorage).symm
  rw [hnative] at hread hwrite
  exact ⟨compiled, getter, setter, typeKey, hcompile, hgetter, hsetter, hget, hset, htype, htype',
    a, b, ha, hb, hread, hwrite⟩

end Preferences.Schema
