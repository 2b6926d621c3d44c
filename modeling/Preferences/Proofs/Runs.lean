import Mathlib.Data.List.Induction
import Preferences.Proofs.Contents
import Preferences.Proofs.Methods
import Preferences.Store.Codecs

/-! Runs of generated methods, each by the call that its body is read as. The declaration alone
tells what a key with a native type holds after a run: the value that a setter of the key was last
called with, unless it was removed since. -/

namespace Preferences.Schema

open Preferences.Source Preferences.Store Preferences.Syntax

/-! ### Runs -/

/-- A call of a generated method: the place of its member, what is passed, and what the adapters do
this time. -/
structure Invocation (α : Type) where
  place : Nat
  passed : Passed α
  adapter : Code → Adapter α

/-- Calls the method at a place on a store, by what its code spells. The constants of the trait have
values by their names. -/
def Compiled.invoke (compiled : Compiled) (constant : String → Datum α) (store : Store)
    (call : Invocation α) : Given α × Store × List Event :=
  match compiled.methods[call.place]? with
  | some method =>
    method.run ⟨constant, call.adapter⟩ .full call.passed store compiled.schema
  | none => (.illTyped, store, [])

/-- The store after some calls, one after another, on an empty one. -/
def Compiled.run (compiled : Compiled) (constant : String → Datum α)
    (calls : List (Invocation α)) : Store :=
  calls.foldl (fun store call => (compiled.invoke constant store call).2.1) .empty

/-! ### What a declaration says of a run -/

/-- A datum as the values of a type are: one of the kind that stores the type, or else one that an
adapter stores. -/
def Datum.Fits (datum : Datum α) (ty : Ty) : Prop :=
  match Storage.ofType ty, datum with
  | .native kind, .native value => value.kind = kind
  | .adapted, .adapted _ => True
  | _, _ => False

/-- A call that a compiler lets pass, with adapters that leave other keys alone. -/
structure Invocation.Allowed (members : List Member) (call : Invocation α) : Prop where
  passed : ∀ member ty, members[call.place]? = some member → member.access.isSetter = true →
    member.valueType = some ty → call.passed.value.Fits ty
  adapter : ∀ path, (call.adapter path).Local

/-- What a call of a member's method makes of a key: a value, or nothing that is stored. Most calls
leave it as it is. -/
def Member.effect (member : Member) (passed : Passed α) (key : String) :
    Option (Option (Datum α)) :=
  match member.access with
  | .set | .setSync => if member.key.name? = some key then some (some passed.value) else none
  | .remove => if member.key.resolve passed.key = key then some none else none
  | .clear => some none
  | .get | .observe | .contains => none

/-- The value that the last setter of a key was called with, if the key was not removed since. -/
def lastSet (members : List Member) (key : String) (calls : List (Invocation α)) :
    Option (Datum α) :=
  (calls.reverse.findSome? fun call =>
    members[call.place]?.bind fun member => member.effect call.passed key).join

/-- What a read gives of a key that was last set to `last`: a value that agrees with it, or the
fallback where there is none. -/
def ReadsAs (last : Option (Datum α)) (fallback : Datum α) (value : Value) : Prop :=
  match last with
  | none => fallback = .native value
  | some set => ∃ written, set = .native written ∧ value.agrees written = true

/-! ### Keys with a native type -/

theorem typedKey?_of_typed {member : Member} {access : Access} {lit : TextLiteral} {ty : Ty}
    (h : member.Typed access lit ty) (haccess : access.isTyped = true) :
    member.typedKey? = some (lit.value, ty) := by
  simp [Member.typedKey?, h.access, haccess, h.key, h.valueType, Key.name?]

/-- All typed members with the key have types that are stored natively as one kind. -/
def NativeKey (members : List Member) (key : String) (kind : Kind) : Prop :=
  ∀ member ∈ members, ∀ ty, member.typedKey? = some (key, ty) → Storage.ofType ty = .native kind

theorem nativeKey_of_oneType {members : List Member} (hone : OneType members) {member : Member}
    (hmember : member ∈ members) {key : String} {ty : Ty} {kind : Kind}
    (hkey : member.typedKey? = some (key, ty)) (hkind : Storage.ofType ty = .native kind) :
    NativeKey members key kind := by
  intro other hother ty' hkey'
  have hsame := hone other hother member hmember key ty' ty hkey' hkey
  rw [Storage.ofType_eq_of_same hsame, hkind]

theorem Datum.fits_native {datum : Datum α} {ty : Ty} {kind : Kind} (h : datum.Fits ty)
    (hkind : Storage.ofType ty = .native kind) :
    ∃ value, datum = .native value ∧ value.kind = kind := by
  unfold Datum.Fits at h
  rw [hkind] at h
  cases datum with
  | native value => exact ⟨value, rfl, h⟩
  | adapted _ => exact absurd h id

/-- What a key with a native type holds when `last` was the last value that it was set to. -/
def Holds (store : Store) (key : String) (kind : Kind) (last : Option (Datum α)) : Prop :=
  match last with
  | none => store.values.get? key = none
  | some set => ∃ written stored, set = .native written ∧ written.kind = kind ∧
      store.values.get? key = some stored ∧ stored.agrees written = true

theorem Holds.congr {store after : Store} {key : String} {kind : Kind} {last : Option (Datum α)}
    (h : Holds store key kind last) (hget : after.values.get? key = store.values.get? key) :
    Holds after key kind last := by
  cases last with
  | none => exact hget.trans h
  | some set =>
    obtain ⟨written, stored, hset, hkind, hstored, hagrees⟩ := h
    exact ⟨written, stored, hset, hkind, hget.trans hstored, hagrees⟩

/-! ### Single calls -/

section Calls

variable (permission : Permission) (store : Store)

theorem runRead_values (watch : Bool) (kind : Kind) (key : String) (fallback : Datum α) :
    (runRead store watch kind key fallback).2.1.values = store.values := by
  unfold runRead
  split
  · rfl
  · cases watch <;> rfl

theorem runWrite_native (sync : Bool) (key : String) (value : Value) :
    (runWrite .full store sync value.kind key (.native value : Datum α)).2.1 =
      (store.write key value).1 := by
  rw [runWrite, Datum.ofKind?, if_pos rfl]
  cases sync <;> rfl

theorem runWrite_get?_of_ne (sync : Bool) (kind : Kind) {key other : String} (value : Datum α)
    (hne : other ≠ key) :
    (runWrite permission store sync kind key value).2.1.values.get? other =
      store.values.get? other := by
  unfold runWrite
  split
  · rfl
  · rename_i value _
    cases sync with
    | false => exact permission.put_get?_of_ne store value hne
    | true =>
      cases permission with
      | full => exact write_get?_of_ne store value hne
      | readOnly => rfl

variable {adapter : Adapter α}

theorem runAdapterRead_get?_of_ne (hlocal : adapter.Local) (watch : Bool) {key other : String}
    (fallback : Datum α) (hne : other ≠ key) :
    (runAdapterRead permission store watch adapter key fallback).2.1.values.get? other =
      store.values.get? other := by
  unfold runAdapterRead
  split
  · rfl
  · rename_i value _
    cases watch with
    | false => exact hlocal.get permission store value hne
    | true => exact hlocal.observe permission store value hne

theorem runAdapterWrite_get?_of_ne (hlocal : adapter.Local) {key other : String} (value : Datum α)
    (hne : other ≠ key) :
    (runAdapterWrite permission store adapter key value).2.1.values.get? other =
      store.values.get? other := by
  unfold runAdapterWrite
  split
  · rfl
  · exact hlocal.put permission store _ hne

end Calls

/-! ### The effect of calls -/

section Effects

variable {member : Member} {lit : TextLiteral} {ty : Ty} {key : String}

theorem effect_of_read (passed : Passed α) (watch : Bool)
    (htyped : member.Typed (if watch then .observe else .get) lit ty) :
    member.effect passed key = none := by
  rw [Member.effect, htyped.access]
  cases watch <;> rfl

theorem effect_of_write (passed : Passed α) (sync : Bool)
    (htyped : member.Typed (if sync then .setSync else .set) lit ty) :
    member.effect passed key = if lit.value = key then some (some passed.value) else none := by
  rw [Member.effect, htyped.access, htyped.key]
  cases sync <;> simp [Key.name?]

theorem NativeKey.storage {members : List Member} {kind : Kind}
    (hnative : NativeKey members key kind) (hmember : member ∈ members) {access : Access}
    (htyped : member.Typed access lit ty) (haccess : access.isTyped = true)
    (heq : lit.value = key) : Storage.ofType ty = .native kind := by
  subst heq
  exact hnative member hmember ty (typedKey?_of_typed htyped haccess)

/-- No member with an adapter has a key with a native type. -/
theorem NativeKey.ne_of_adapted {members : List Member} {kind : Kind}
    (hnative : NativeKey members key kind) (hmember : member ∈ members) {access : Access}
    (htyped : member.Typed access lit ty) (haccess : access.isTyped = true)
    (hadapted : Storage.ofType ty = .adapted) : key ≠ lit.value := by
  intro heq
  rw [hnative.storage hmember htyped haccess heq.symm] at hadapted
  cases hadapted

end Effects

/-- After one call of a member's method, a key with a native type holds what the declaration says of
that call. -/
theorem run_holds {members : List Member} {defaults : List DefaultConst} {member : Member}
    {call : Call} {key : String} {kind : Kind} {meaning : Meaning α} {passed : Passed α}
    {store : Store} {last : Option (Datum α)} (hnative : NativeKey members key kind)
    (hmember : member ∈ members) (hcall : Delegates defaults member call)
    (hlocal : ∀ bound, (meaning.adapter bound).Local)
    (hpassed : ∀ ty, member.access.isSetter = true → member.valueType = some ty →
      passed.value.Fits ty) (hstore : Holds store key kind last) :
    Holds (call.run meaning .full passed store).2.1 key kind
      ((member.effect passed key).getD last) := by
  cases hcall with
  | read watch htyped hkind hdefault =>
    rw [effect_of_read passed watch htyped]
    exact hstore.congr (congrArg (·.get? key) (runRead_values store watch _ _ _))
  | @write sync lit ty written name htyped hkind hname =>
    rw [effect_of_write passed sync htyped]
    split
    · rename_i heq
      have hsetter : member.access.isSetter = true := by
        rw [htyped.access]
        cases sync <;> rfl
      have hstorage := hnative.storage hmember htyped (by cases sync <;> rfl) heq
      obtain ⟨value, hvalue, rfl⟩ :=
        Datum.fits_native (hpassed ty hsetter htyped.valueType) hstorage
      rw [hstorage] at hkind
      cases hkind
      obtain ⟨stored, hstored, hagrees⟩ := write_get?_self store lit.value value
      refine ⟨value, stored, hvalue, rfl, ?_, hagrees⟩
      rw [Call.run, hvalue, runWrite_native, ← heq]
      exact hstored
    · rename_i hne
      exact hstore.congr (runWrite_get?_of_ne .full store sync written _ (Ne.symm hne))
  | adapterRead watch htyped hadapted hsame hdefault =>
    rw [effect_of_read passed watch htyped]
    have hne := hnative.ne_of_adapted hmember htyped (by cases watch <;> rfl) hadapted
    exact hstore.congr (runAdapterRead_get?_of_ne .full store (hlocal _) watch _ hne)
  | adapterWrite htyped hadapted hsame hname =>
    have hne := hnative.ne_of_adapted hmember htyped rfl hadapted
    rw [effect_of_write passed false htyped, if_neg (Ne.symm hne)]
    exact hstore.congr (runAdapterWrite_get?_of_ne .full store (hlocal _) _ hne)
  | contains haccess =>
    rw [Member.effect, haccess]
    exact hstore
  | remove haccess =>
    rw [Member.effect, haccess]
    have hget := remove_get? store (member.key.resolve passed.key) key
    dsimp only
    split
    · rename_i heq
      rwa [if_pos heq.symm] at hget
    · rename_i hne
      rw [if_neg (Ne.symm hne)] at hget
      exact hstore.congr hget
  | clear haccess =>
    rw [Member.effect, haccess]
    exact congrArg (·.get? key) (clear_values store)

/-! ### Whole runs -/

theorem lastSet_append (members : List Member) (key : String) (calls : List (Invocation α))
    (call : Invocation α) : lastSet members key (calls ++ [call]) =
      ((members[call.place]?.bind fun member => member.effect call.passed key).getD
        (lastSet members key calls)) := by
  rw [lastSet, List.reverse_append, List.reverse_singleton, List.singleton_append,
    List.findSome?_cons]
  cases members[call.place]?.bind fun member => member.effect call.passed key <;> rfl

theorem run_append (compiled : Compiled) (constant : String → Datum α)
    (calls : List (Invocation α)) (call : Invocation α) :
    compiled.run constant (calls ++ [call]) =
      (compiled.invoke constant (compiled.run constant calls) call).2.1 := by
  rw [Compiled.run, List.foldl_append]
  rfl

section Compiled

variable {mode : Mode} {args item : List Tree} {compiled : Compiled}

/-- A call of a method does what the call does that the method was generated from. -/
theorem invoke_eq_run (h : compile mode args item = .ok compiled) (constant : String → Datum α)
    (store : Store) {call : Invocation α} {method : Accessor}
    (hmethod : compiled.methods[call.place]? = some method) :
    compiled.invoke constant store call =
      method.call.run (Names.meaning ⟨constant, call.adapter⟩ compiled.schema) .full call.passed
        store := by
  rw [Compiled.invoke, hmethod]
  exact run_method h hmethod _ .full call.passed store

/-- After a run a key with a native type holds what the declaration says of its calls. -/
theorem run_holds_lastSet (h : compile mode args item = .ok compiled)
    (constant : String → Datum α) {calls : List (Invocation α)} {key : String} {kind : Kind}
    (hnative : NativeKey compiled.schema.members key kind)
    (hcalls : ∀ call ∈ calls, call.Allowed compiled.schema.members) :
    Holds (compiled.run constant calls) key kind
      (lastSet compiled.schema.members key calls) := by
  induction calls using List.reverseRecOn with
  | nil => exact Entries.get?_empty key
  | append_singleton calls call ih =>
    have hbefore := ih fun earlier hearlier => hcalls earlier (List.mem_append_left _ hearlier)
    have hallowed := hcalls call (List.mem_append_right _ (List.mem_singleton_self call))
    rw [run_append, lastSet_append]
    rcases getElem?_of_forall₂ (compile_generated h).1 call.place with
      ⟨hmember, hmethod⟩ | ⟨member, method, hmember, hmethod, hgen⟩
    · rw [hmember, Compiled.invoke, hmethod]
      exact hbefore
    · rw [hmember, invoke_eq_run h constant _ hmethod]
      exact run_holds hnative (List.mem_of_getElem? hmember) hgen.call
        (fun bound => hallowed.adapter _)
        (fun ty hsetter htype => hallowed.passed member ty hmember hsetter htype) hbefore

end Compiled

/-! ### Getters -/

/-- The call of a getter whose type is stored natively. -/
theorem call_of_get {defaults : List DefaultConst} {member : Member} {call : Call}
    {key : TextLiteral} {ty : Ty} {kind : Kind} (hcall : Delegates defaults member call)
    (htyped : member.Typed .get key ty) (hkind : Storage.ofType ty = .native kind) :
    ∃ const, selected defaults key.value ty = [const] ∧
      call = .read false kind (.fixed key) const := by
  have hread {watch : Bool} {key' : TextLiteral} {ty' : Ty}
      (htyped' : member.Typed (if watch then .observe else .get) key' ty') :
      watch = false ∧ key' = key ∧ ty' = ty := by
    have haccess := htyped.access.symm.trans htyped'.access
    have hkey := htyped'.key.symm.trans htyped.key
    have htype := htyped'.valueType.symm.trans htyped.valueType
    cases watch with
    | true => cases haccess
    | false => exact ⟨rfl, Key.fixed.inj hkey, Option.some.inj htype⟩
  have hother {access : Access} (h : member.access = access) : access = .get :=
    h.symm.trans htyped.access
  cases hcall with
  | read watch htyped' hkind' hdefault =>
    obtain ⟨rfl, rfl, rfl⟩ := hread htyped'
    rw [hkind] at hkind'
    cases hkind'
    exact ⟨_, hdefault, rfl⟩
  | adapterRead watch htyped' hadapted hsame hdefault =>
    obtain ⟨rfl, rfl, rfl⟩ := hread htyped'
    rw [hkind] at hadapted
    cases hadapted
  | write sync htyped' hkind' hname =>
    have haccess := hother htyped'.access
    cases sync <;> cases haccess
  | adapterWrite htyped' hadapted hsame hname => cases hother htyped'.access
  | contains haccess => cases hother haccess
  | remove haccess => cases hother haccess
  | clear haccess => cases hother haccess

/-- A read of a key that holds nothing, or a value of the kind that is read. -/
theorem runRead_of_holds {store : Store} {key : String} {kind : Kind} {last : Option (Datum α)}
    {fallback : Value} (hholds : Holds store key kind last) (hkind : fallback.kind = kind) :
    ∃ value, runRead store false kind key (.native fallback : Datum α) =
        (.datum (.native value), store, []) ∧ ReadsAs last (.native fallback) value := by
  have hread : runRead store false kind key (.native fallback : Datum α) =
      (.datum (.native (store.read key fallback).1), store, (store.read key fallback).2) := by
    rw [runRead, Datum.ofKind?, if_pos hkind]
    rfl
  cases last with
  | none =>
    refine ⟨fallback, ?_, rfl⟩
    have hnone : store.values.get? key = none := hholds
    rw [hread, Store.read, hnone]
    rfl
  | some set =>
    obtain ⟨written, stored, hset, hwritten, hstored, hagrees⟩ := hholds
    refine ⟨stored, ?_, written, hset, hagrees⟩
    have hsame : stored.kind = fallback.kind := by
      rw [Value.kind_eq_of_agrees hagrees, hwritten, hkind]
    rw [hread, Store.read, hstored, decode]
    simp [hsame]

/-- A getter whose type is stored natively gives the value that a setter of its key was last called
with, if the key was not removed since, and else the value of the only default with its key and its
type. It changes nothing and has nothing to tell, of a value of another kind least of all. All
methods are called by what their code spells. -/
theorem get_returns_last_set {mode : Mode} {args item : List Tree} {compiled : Compiled}
    (h : compile mode args item = .ok compiled) {constant : String → Datum α}
    (hconstant : ∀ const ∈ compiled.schema.defaults, (constant const.name.text).Fits const.ty)
    {calls : List (Invocation α)} (hcalls : ∀ call ∈ calls, call.Allowed compiled.schema.members)
    {get : Invocation α} {member : Member} {key : TextLiteral} {ty : Ty} {kind : Kind}
    (hmember : compiled.schema.members[get.place]? = some member)
    (htyped : member.Typed .get key ty) (hkind : Storage.ofType ty = .native kind) :
    ∃ const value, selected compiled.schema.defaults key.value ty = [const] ∧
      compiled.invoke constant (compiled.run constant calls) get =
        (.datum (.native value), compiled.run constant calls, []) ∧
      ReadsAs (lastSet compiled.schema.members key.value calls) (constant const.name.text)
        value := by
  obtain ⟨hgenerated, hone⟩ := compile_generated h
  have hmem := List.mem_of_getElem? hmember
  have hnative := nativeKey_of_oneType hone hmem (typedKey?_of_typed htyped rfl) hkind
  have hholds := run_holds_lastSet h constant hnative hcalls
  rcases getElem?_of_forall₂ hgenerated get.place with
    ⟨hnone, -⟩ | ⟨found, method, hfound, hmethod, hgen⟩
  · rw [hmember] at hnone
    cases hnone
  · rw [hmember] at hfound
    cases hfound
    obtain ⟨const, hselected, hcall⟩ := call_of_get hgen.call htyped hkind
    have hconst : const ∈ selected compiled.schema.defaults key.value ty := by
      rw [hselected]
      exact List.mem_singleton_self const
    obtain ⟨hdefault, hmatch⟩ := List.mem_filter.1 hconst
    have hsame : const.ty.same ty = true := (Bool.and_eq_true _ _ ▸ hmatch).2
    obtain ⟨fallback, hfallback, hfallbackKind⟩ := Datum.fits_native (hconstant const hdefault)
      ((Storage.ofType_eq_of_same hsame).trans hkind)
    obtain ⟨value, hvalue, hlast⟩ := runRead_of_holds hholds hfallbackKind
    rw [← hfallback] at hvalue hlast
    refine ⟨const, value, hselected, ?_, hlast⟩
    rw [invoke_eq_run h constant _ hmethod, hcall]
    exact hvalue

/-! ### A flag -/

/-- A declaration of a flag, with a getter and a setter. -/
def flagItem : List Tree :=
  (Tree.ofText? ("trait P \x7b #[default] const DEFAULT_A: bool = true; " ++
    "#[get] fn get_a(&self) -> bool; #[set] fn set_a(&self, value: bool); \x7d")).getD []

def flagArgs : List Tree := (Tree.ofText? "name = \"p\"").getD []

def flagDefault : String → Datum String := fun _ => .native (.boolean true)

def flagCall (place : Nat) (b : Bool) : Invocation String :=
  ⟨place, ⟨"", .native (.boolean b)⟩, fun _ => Codec.text.adapter⟩

theorem flag_outline : (compile .failFast flagArgs flagItem).toOption.map outline =
    some ([(.get, some "a", some (.native .boolean)), (.set, some "a", some (.native .boolean))],
      [.native .boolean]) := by
  decide +kernel

/-- The compiled flag: a getter and a setter of one key, with one default, all of them native. -/
theorem flag_compiled : ∃ compiled getter setter lit ty const,
    compile .failFast flagArgs flagItem = .ok compiled ∧
      compiled.schema.members = [getter, setter] ∧ compiled.schema.defaults = [const] ∧
      getter.Typed .get lit ty ∧ lit.value = "a" ∧ Storage.ofType ty = .native .boolean ∧
      setter.access = .set ∧ setter.key.name? = some "a" ∧
      setter.valueType.map Storage.ofType = some (.native .boolean) ∧
      Storage.ofType const.ty = .native .boolean := by
  obtain ⟨compiled, hcompile, houtline⟩ := compile_of_outline flag_outline
  simp only [outline, Prod.mk.injEq, List.map_eq_cons_iff, List.map_eq_nil_iff] at houtline
  obtain ⟨⟨getter, others, hmembers, ⟨hget, hgetKey, hgetType⟩, setter, rest, rfl,
    ⟨hset, hsetKey, hsetType⟩, rfl⟩, const, consts, hdefaults, hconst, rfl⟩ := houtline
  obtain ⟨ty, hty, hkind⟩ := Option.map_eq_some_iff.1 hgetType
  cases hkey : getter.key with
  | fixed lit =>
    rw [hkey] at hgetKey
    exact ⟨compiled, getter, setter, lit, ty, const, hcompile, hmembers, hdefaults,
      ⟨hget, hkey, hty⟩, Option.some.inj hgetKey, hkind, hset, hsetKey, hsetType, hconst⟩
  | parameter _ =>
    rw [hkey] at hgetKey
    cases hgetKey

theorem boolean_fits {ty : Ty} (h : Storage.ofType ty = .native .boolean) (b : Bool) :
    (Datum.native (.boolean b) : Datum String).Fits ty := by
  unfold Datum.Fits
  rw [h]
  rfl

/-- The flag reads as it was set. -/
theorem get_returns_last_set_flag : ∃ compiled,
    compile .failFast flagArgs flagItem = .ok compiled ∧
      compiled.invoke flagDefault (compiled.run flagDefault [flagCall 1 false])
          (flagCall 0 false) =
        (.datum (.native (.boolean false)), compiled.run flagDefault [flagCall 1 false], []) := by
  obtain ⟨compiled, getter, setter, lit, ty, const, hcompile, hmembers, hdefaults, htyped, hlit,
    hkind, hset, hsetKey, hsetType, hconst⟩ := flag_compiled
  have hconstant : ∀ const ∈ compiled.schema.defaults,
      (flagDefault const.name.text).Fits const.ty := by
    intro other hother
    rw [hdefaults, List.mem_singleton] at hother
    rw [hother]
    exact boolean_fits hconst true
  have hcalls : ∀ call ∈ [flagCall 1 false], call.Allowed compiled.schema.members := by
    intro call hcall
    rw [List.mem_singleton.1 hcall]
    refine ⟨fun member ty' hmember _ hty' => boolean_fits ?_ false,
      fun _ => Codec.text.adapter_local⟩
    rw [hmembers] at hmember
    cases hmember
    rw [hty'] at hsetType
    exact Option.some.inj hsetType
  have hmember : compiled.schema.members[(flagCall 0 false).place]? = some getter := by
    rw [hmembers]
    rfl
  obtain ⟨_, value, -, hinvoke, hreads⟩ :=
    get_returns_last_set hcompile hconstant hcalls hmember htyped hkind
  have hlast : lastSet compiled.schema.members lit.value [flagCall 1 false] =
      some (.native (.boolean false)) := by
    simp [lastSet, flagCall, hmembers, Member.effect, hset, hsetKey, hlit]
  rw [hlast] at hreads
  obtain ⟨written, hwritten, hagrees⟩ := hreads
  cases hwritten
  have hvalue : value = .boolean false := by
    cases value <;> simp_all [Value.agrees, Value.equals, Value.isNaN]
  exact ⟨compiled, hcompile, hvalue ▸ hinvoke⟩

end Preferences.Schema
