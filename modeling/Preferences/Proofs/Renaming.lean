import Preferences.Proofs.Respelling

/-! Traits whose items have other names. Nothing of what an item declares depends on its name but
the name itself and the key, and that only where neither an attribute nor a parameter gives it. So
traits that differ in names declare the same but for those, with complaints about both or neither,
and as long as the keys of values stay, the same is bound to their members. -/

namespace Preferences.Syntax

open Source

def Method.withName (name : Name) (method : Method) : Method :=
  { method with signature := { method.signature with name } }

def TraitItem.name? : TraitItem → Option Name
  | .const item => some item.name
  | .method item => some item.signature.name
  | .other _ => none

/-- Items that are the same but for their names, which are related by `R`. -/
inductive TraitItem.Renamed (R : Name → Name → Prop) : TraitItem → TraitItem → Prop where
  | const {item : ConstItem} {name} (h : R item.name name) :
      Renamed R (.const item) (.const { item with name })
  | method {item : Method} {name} (h : R item.signature.name name) :
      Renamed R (.method item) (.method (item.withName name))
  | other {code} : Renamed R (.other code) (.other code)

/-- Traits that are the same but for the names of their items. -/
inductive TraitDecl.Renamed (R : Name → Name → Prop) (decl : TraitDecl) : TraitDecl → Prop where
  | mk {items} (h : List.Forall₂ (TraitItem.Renamed R) decl.items items) :
      Renamed R decl { decl with items }

section Symmetry

variable {R : Name → Name → Prop} (hsymm : ∀ a b, R a b → R b a)

include hsymm

theorem TraitItem.Renamed.symm {item found : TraitItem} (h : item.Renamed R found) :
    found.Renamed R item := by
  cases h with
  | const h => exact .const (hsymm _ _ h)
  | method h => exact .method (hsymm _ _ h)
  | other => exact .other

theorem TraitDecl.Renamed.symm {decl other : TraitDecl} (h : decl.Renamed R other) :
    other.Renamed R decl := by
  cases h with
  | mk h => exact .mk (h.imp fun _ _ => TraitItem.Renamed.symm hsymm).flip

end Symmetry

end Preferences.Syntax

namespace Preferences.Schema

open Preferences.Source Preferences.Syntax

/-! ### Where keys come from -/

/-- The ways from a name to the key that it stands for. -/
inductive Derivation where
  | constant
  | method (access : Access)
  deriving DecidableEq, Repr

namespace Derivation

def key : Derivation → String → String
  | constant => constKey
  | method access => access.key

/-- Whether a typed value goes with the key. -/
def isTyped : Derivation → Bool
  | constant => true
  | method access => access.isTyped

/-- How the key of a method comes from its name. It does not where the attribute writes one, where
it is a parameter, and where the method clears all keys. -/
def ofKey? : Option TextLiteral → Access → Key → Option Derivation
  | none, .clear, _ => none
  | none, access, .fixed _ => some (.method access)
  | _, _, _ => none

end Derivation

/-- The attributes that make an item a default or a member. -/
def declaringMarks : TraitItem → List Attribute
  | .const item => item.attrs.filter isDefaultAttr
  | .method item => item.attrs.filter isAccessAttr
  | .other _ => []

/-- The key that is written in attributes. -/
def writtenKey? (marks : List Attribute) : Option TextLiteral :=
  marks.findSome? fun mark => (keyName mark).toOption.join

/-- How the key of what an item declares comes from its name, if it does. -/
def derivation? (item : TraitItem) : Option Derivation :=
  let written := writtenKey? (declaringMarks item)
  match declaration item with
  | (some _, _) => if written.isSome then none else some .constant
  | (none, some member) => Derivation.ofKey? written member.access member.key
  | (none, none) => none

/-- The decoded key of what an item declares, if it declares something with a fixed key. -/
def declaredKey? (item : TraitItem) : Option String :=
  match declaration item with
  | (some const, _) => some const.key
  | (none, some member) => member.key.name?
  | (none, none) => none

theorem writtenKey?_single {mark : Attribute} {written : Option TextLiteral}
    (h : keyName mark = .ok written) : writtenKey? [mark] = written := by
  simp [writtenKey?, h, Except.toOption]

/-! ### Defaults and members with other names -/

/-- Defaults that differ in names and keys at most. -/
structure DefaultConst.Renamed (a b : DefaultConst) : Prop where
  ty : a.ty = b.ty

/-- Members that differ in names and fixed keys at most: what is bound to them is the same. -/
structure Member.Renamed (m n : Member) : Prop where
  signature : n.signature = { m.signature with name := n.signature.name }
  access : m.access = n.access
  isFixed : m.key.name?.isSome = n.key.name?.isSome
  valueType : m.valueType = n.valueType
  valueParam : m.valueParam = n.valueParam
  localAdapter : m.localAdapter = n.localAdapter
  storage : m.storage = n.storage
  adapter : m.adapter = n.adapter
  default : m.default = n.default

/-! ### Items -/

section Shapes

variable {a b : Signature} {access : Access} {explicit : Option TextLiteral}
  {params : List (Pattern × Ty)} {shape : Shape} {ty : Ty}

theorem readType_congr (houtput : a.output = b.output) (haccess : access = .get ∨ access = .observe)
    (h : readType a access = .ok ty) : readType b access = .ok ty := by
  rcases haccess with rfl | rfl
  · rw [readType_get, ← houtput]
    exact readType_get.1 h
  · rw [readType_observe, ← houtput]
    exact readType_observe.1 h

/-- What becomes of a key under another name. -/
structure KeyRenamed (explicit : Option TextLiteral) (access : Access) (name : Name)
    (key other : Key) : Prop where
  isFixed : key.name?.isSome = other.name?.isSome
  derivation : Derivation.ofKey? explicit access other = Derivation.ofKey? explicit access key
  kept : Derivation.ofKey? explicit access key = none → other.name? = key.name?
  derived : ∀ derivation, Derivation.ofKey? explicit access key = some derivation →
    other.name? = some (derivation.key name.text)

theorem keyRenamed_same {key : Key} (h : Derivation.ofKey? explicit access key = none)
    (name : Name) : KeyRenamed explicit access name key key where
  isFixed := rfl
  derivation := rfl
  kept _ := rfl
  derived _ hderivation := by
    rw [h] at hderivation
    cases hderivation

theorem keyRenamed_derived (haccess : access ≠ .clear) :
    KeyRenamed explicit access b.name (.fixed (explicit.getD (derivedKey a access)))
      (.fixed (explicit.getD (derivedKey b access))) := by
  cases explicit with
  | some lit => exact keyRenamed_same (by cases access <;> rfl) b.name
  | none =>
    have hmethod (lit : TextLiteral) :
        Derivation.ofKey? none access (.fixed lit) = some (.method access) := by
      cases access
      case clear => exact absurd rfl haccess
      all_goals rfl
    refine ⟨rfl, by rw [hmethod, hmethod], fun hnone => ?_, fun derivation hsome => ?_⟩
    · rw [hmethod] at hnone
      cases hnone
    · rw [hmethod] at hsome
      cases hsome
      rfl

/-- A shape under another name is the same but for the key. -/
theorem shapeOf_renamed (hpos : a.name.pos = b.name.pos) (houtput : a.output = b.output)
    (h : shapeOf a access explicit params = .ok shape) :
    ∃ key, shapeOf b access explicit params = .ok { shape with key } ∧
      KeyRenamed explicit access b.name shape.key key := by
  have hdocumented := shapeOf_iff.1 ⟨shape, h⟩
  rw [houtput] at hdocumented
  obtain ⟨shape', hshape'⟩ := shapeOf_iff.2 hdocumented
  rw [hshape']
  cases access with
  | get | observe =>
    obtain ⟨ty, hty, rfl⟩ := readShape_value h
    obtain ⟨ty', hty', rfl⟩ := readShape_value hshape'
    rw [readType_congr houtput (by simp) hty] at hty'
    cases hty'
    exact ⟨_, rfl, keyRenamed_derived nofun⟩
  | set | setSync =>
    obtain ⟨pattern, ty, param, hparams, hplain, rfl⟩ := writeShape_ok h
    obtain ⟨pattern', ty', param', hparams', hplain', rfl⟩ := writeShape_ok hshape'
    rw [hparams] at hparams'
    cases hparams'
    rw [hplain] at hplain'
    cases hplain'
    exact ⟨_, rfl, keyRenamed_derived nofun⟩
  | contains | remove =>
    rcases keyShape_ok h with ⟨hparams, rfl⟩ | ⟨pattern, ty, param, hparams, hplain, rfl⟩
    · rcases keyShape_ok hshape' with ⟨-, rfl⟩ | ⟨_, _, _, hparams', -⟩
      · exact ⟨_, rfl, keyRenamed_derived nofun⟩
      · rw [hparams] at hparams'
        cases hparams'
    · rcases keyShape_ok hshape' with ⟨hparams', -⟩ | ⟨_, _, param', hparams', hplain', rfl⟩
      · rw [hparams] at hparams'
        cases hparams'
      · rw [hparams] at hparams'
        cases hparams'
        rw [hplain] at hplain'
        cases hplain'
        exact ⟨_, rfl, keyRenamed_same (by cases explicit <;> rfl) b.name⟩
  | clear =>
    obtain ⟨-, rfl⟩ := clearShape_ok h
    obtain ⟨-, rfl⟩ := clearShape_ok hshape'
    rw [← hpos]
    exact ⟨_, rfl, keyRenamed_same (by cases explicit <;> rfl) b.name⟩

end Shapes

/-- A method with another name declares the same member but for the name and the key. -/
theorem declaredMember_withName {method : Method} {name : Name} {m : Member}
    (hpos : method.signature.name.pos = name.pos) (h : declaredMember method = .ok m) :
    ∃ n, declaredMember (method.withName name) = .ok n ∧ m.Renamed n ∧
      KeyRenamed (writtenKey? (method.attrs.filter isAccessAttr)) m.access name m.key n.key := by
  obtain ⟨access, mark, explicit, adapter, params, shape, haccess, hexplicit, hadapter, hmodifiers,
    hparams, hshape, rfl⟩ := memberOf_eq_ok.1 h
  obtain ⟨hmarks, -⟩ := accessOf_iff.1 haccess
  have hwritten : writtenKey? (method.attrs.filter isAccessAttr) = explicit := by
    rw [hmarks]
    exact writtenKey?_single (explicitKey_ok hexplicit)
  -- All checks but that of the shape pass the same parts of both signatures.
  have haccess' : accessOf (method.withName name).signature
      (method.attrs.filter isAccessAttr) = .ok (access, mark) :=
    accessOf_iff.2 (accessOf_iff.1 haccess)
  have hexplicit' : explicitKey (method.withName name).signature mark = .ok explicit :=
    explicitKey_iff.2 (explicitKey_iff.1 hexplicit)
  have hadapter' : localAdapterOf (method.withName name).signature access
      (method.attrs.filter isAdapterAttr) = .ok adapter :=
    localAdapterOf_eq_ok.2 (localAdapterOf_eq_ok.1 hadapter)
  have hmodifiers' : checkModifiers (method.withName name).signature = .ok () := by
    obtain ⟨hasync, hunsafe, hconst, hvariadic, hnone, hpredicates⟩ :=
      checkModifiers_iff.1 hmodifiers
    exact checkModifiers_iff.2 ⟨hasync, hunsafe, hconst, hvariadic, hnone, hpredicates⟩
  have hparams' : paramsAfterSelf (method.withName name).signature = .ok params := by
    rw [paramsAfterSelf_iff] at hparams ⊢
    exact hparams
  obtain ⟨key, hshape', hkey⟩ :=
    @shapeOf_renamed _ (method.withName name).signature _ _ _ _ hpos rfl hshape
  refine ⟨_, memberOf_eq_ok.2 ⟨access, mark, explicit, adapter, params, _, haccess', hexplicit',
    hadapter', hmodifiers', hparams', hshape', rfl⟩, ⟨rfl, rfl, hkey.isFixed, rfl, rfl, rfl, rfl,
    rfl, rfl⟩, ?_⟩
  rw [hwritten]
  exact hkey

/-- Whether a constant is a default does not depend on its name. -/
theorem defaultOf_names (item : ConstItem) :
    (∀ name, ∃ d, defaultOf { item with name } = .error d) ∨
    (∀ name, defaultOf { item with name } = .ok none) ∨
    ∀ name, defaultOf { item with name } = .ok (some ⟨name,
      ((writtenKey? (item.attrs.filter isDefaultAttr)).map (·.value)).getD (constKey name.text),
      item.ty⟩) := by
  simp only [defaultOf]
  rcases item.attrs.filter isDefaultAttr with _ | ⟨mark, _ | ⟨second, rest⟩⟩
  · exact .inr (.inl fun _ => rfl)
  · dsimp only
    cases item.value.isNone with
    | true => exact .inl fun _ => ⟨_, rfl⟩
    | false =>
      cases hwritten : keyName mark with
      | error error => exact .inl fun _ => ⟨_, rfl⟩
      | ok written =>
        rw [writtenKey?_single hwritten]
        exact .inr (.inr fun _ => rfl)
  · exact .inl fun _ => ⟨_, rfl⟩

/-- What is declared by items with other names: the same but for names and keys, with complaints
about both or neither. The keys are the same unless they come from the names. -/
structure Redeclared (item found : TraitItem) : Prop where
  default : Option.Rel DefaultConst.Renamed (declaration item).1 (declaration found).1
  member : Option.Rel Member.Renamed (declaration item).2 (declaration found).2
  complaints : complaints item = [] ↔ complaints found = []
  derivation : derivation? found = derivation? item
  kept : derivation? item = none → declaredKey? found = declaredKey? item
  derived : ∀ derivation, derivation? item = some derivation → ∃ name,
    found.name? = some name ∧ declaredKey? found = some (derivation.key name.text)

section Found

variable {item : TraitItem}

theorem keys_of_nothing (h : declaration item = (none, none)) :
    derivation? item = none ∧ declaredKey? item = none := by
  rw [derivation?, declaredKey?, h]
  exact ⟨rfl, rfl⟩

theorem keys_of_default {const : DefaultConst} (h : declaration item = (some const, none)) :
    derivation? item =
        (if (writtenKey? (declaringMarks item)).isSome then none else some .constant) ∧
      declaredKey? item = some const.key := by
  rw [derivation?, declaredKey?, h]
  exact ⟨rfl, rfl⟩

theorem keys_of_member {member : Member} (h : declaration item = (none, some member)) :
    derivation? item =
        Derivation.ofKey? (writtenKey? (declaringMarks item)) member.access member.key ∧
      declaredKey? item = member.key.name? := by
  rw [derivation?, declaredKey?, h]
  exact ⟨rfl, rfl⟩

end Found

theorem redeclared_of_nothing {item found : TraitItem} (h : declaration item = (none, none))
    (h' : declaration found = (none, none))
    (hcomplaints : complaints item = [] ↔ complaints found = []) : Redeclared item found := by
  obtain ⟨hderivation, hkey⟩ := keys_of_nothing h
  obtain ⟨hderivation', hkey'⟩ := keys_of_nothing h'
  refine ⟨?_, ?_, hcomplaints, hderivation'.trans hderivation.symm, fun _ => hkey'.trans hkey.symm,
    fun derivation hsome => ?_⟩
  · rw [h, h']
    exact .none
  · rw [h, h']
    exact .none
  · rw [hderivation] at hsome
    cases hsome

theorem redeclared_const (item : ConstItem) (name : Name) :
    Redeclared (.const item) (.const { item with name }) := by
  obtain ⟨hfound, hcomplaints⟩ := declaration_const item
  obtain ⟨hfound', hcomplaints'⟩ := declaration_const { item with name }
  rcases defaultOf_names item with herror | hplain | hdefault
  · obtain ⟨d, hd⟩ := herror item.name
    obtain ⟨d', hd'⟩ := herror name
    rw [hd] at hfound hcomplaints
    rw [hd'] at hfound' hcomplaints'
    exact redeclared_of_nothing hfound hfound' (by simp [hcomplaints, hcomplaints', refusal?])
  · rw [hplain item.name] at hfound hcomplaints
    rw [hplain name] at hfound' hcomplaints'
    exact redeclared_of_nothing hfound hfound' (by rw [hcomplaints, hcomplaints'])
  · rw [hdefault item.name] at hfound hcomplaints
    rw [hdefault name] at hfound' hcomplaints'
    obtain ⟨hderivation, hkey⟩ := keys_of_default hfound
    obtain ⟨hderivation', hkey'⟩ := keys_of_default hfound'
    refine ⟨?_, ?_, by rw [hcomplaints, hcomplaints']; rfl, hderivation'.trans hderivation.symm, ?_,
      ?_⟩
    · rw [hfound, hfound']
      exact .some ⟨rfl⟩
    · rw [hfound, hfound']
      exact .none
    · rw [hderivation, hkey, hkey', declaringMarks]
      intro hnone
      cases hwritten : writtenKey? (item.attrs.filter isDefaultAttr) with
      | none =>
        rw [hwritten] at hnone
        cases hnone
      | some lit => rw [Option.map_some, Option.getD_some, Option.getD_some]
    · rw [hderivation, hkey', declaringMarks]
      intro derivation hsome
      cases hwritten : writtenKey? (item.attrs.filter isDefaultAttr) with
      | none =>
        rw [hwritten] at hsome
        cases hsome
        exact ⟨name, rfl, rfl⟩
      | some lit =>
        rw [hwritten] at hsome
        cases hsome

theorem redeclared_method (method : Method) {name : Name}
    (hpos : method.signature.name.pos = name.pos) :
    Redeclared (.method method) (.method (method.withName name)) := by
  cases hbody : method.body with
  | some body =>
    have hprovided : method.body.isSome = true := by
      rw [hbody]
      rfl
    obtain ⟨hfound, hcomplaints⟩ := declaration_provided hprovided
    obtain ⟨hfound', hcomplaints'⟩ := @declaration_provided (method.withName name) hprovided
    refine redeclared_of_nothing hfound hfound' ?_
    rw [hcomplaints, hcomplaints']
    rfl
  | none =>
    obtain ⟨hfound, hcomplaints⟩ := declaration_required hbody
    obtain ⟨hfound', hcomplaints'⟩ := @declaration_required (method.withName name) hbody
    cases hm : declaredMember method with
    | error d =>
      cases hn : declaredMember (method.withName name) with
      | error d' =>
        rw [hm] at hfound hcomplaints
        rw [hn] at hfound' hcomplaints'
        exact redeclared_of_nothing hfound hfound' (by simp [hcomplaints, hcomplaints', refusal?])
      | ok n =>
        -- The first name gives the first method back.
        have hback : (method.withName name).withName method.signature.name = method := rfl
        obtain ⟨m, hm', -⟩ := @declaredMember_withName _ method.signature.name _ hpos.symm hn
        rw [hback, hm] at hm'
        cases hm'
    | ok m =>
      obtain ⟨n, hn, hrenamed, hkey⟩ := declaredMember_withName hpos hm
      rw [hm] at hfound hcomplaints
      rw [hn] at hfound' hcomplaints'
      obtain ⟨hderivation, hdeclared⟩ := keys_of_member hfound
      obtain ⟨hderivation', hdeclared'⟩ := keys_of_member hfound'
      refine ⟨?_, ?_, by rw [hcomplaints, hcomplaints']; rfl, ?_, ?_, ?_⟩
      · rw [hfound, hfound']
        exact .none
      · rw [hfound, hfound']
        exact .some hrenamed
      · rw [hderivation', hderivation, ← hrenamed.access]
        exact hkey.derivation
      · rw [hderivation, hdeclared', hdeclared]
        exact hkey.kept
      · rw [hderivation, hdeclared']
        exact fun derivation hname => ⟨name, rfl, hkey.derived derivation hname⟩

theorem redeclared {R : Name → Name → Prop} (hpos : ∀ a b, R a b → a.pos = b.pos)
    {item found : TraitItem} (h : item.Renamed R found) : Redeclared item found := by
  cases h with
  | @const item name => exact redeclared_const item name
  | @method item name h => exact redeclared_method item (hpos _ _ h)
  | other => exact redeclared_of_nothing rfl rfl .rfl

/-! ### Members -/

/-- Members that differ in their names, and in the keys of no values. -/
structure Member.Kept (m n : Member) : Prop extends m.Renamed n where
  key : m.access.isTyped = true → m.key.name? = n.key.name?

/-- Defaults that differ in their names at most. -/
structure DefaultConst.Kept (a b : DefaultConst) : Prop extends a.Renamed b where
  key : a.key = b.key

theorem adapterFor_renamed {m n : Member} (h : m.Renamed n) (adapters : List AdapterBinding)
    (storage : Storage) (ty : Ty) :
    (adapterFor adapters m storage ty).toOption = (adapterFor adapters n storage ty).toOption := by
  simp only [adapterFor, h.access, h.localAdapter]
  cases storage with
  | native kind => cases n.localAdapter <;> rfl
  | adapted =>
    dsimp only
    split
    · rfl
    · split
      · split <;> rfl
      · split <;> rfl

/-- No name or key matters where storages and adapters are bound. -/
theorem bindMember_renamed {m n : Member} (h : m.Renamed n) (adapters : List AdapterBinding) :
    (bindMember adapters m).1.Renamed (bindMember adapters n).1 ∧
      ((bindMember adapters m).2 = none ↔ (bindMember adapters n).2 = none) := by
  cases hty : m.valueType with
  | none =>
    rw [bindMember_untyped hty, bindMember_untyped (h.valueType.symm.trans hty)]
    exact ⟨h, .rfl⟩
  | some ty =>
    rw [bindMember_typed hty, bindMember_typed (h.valueType.symm.trans hty)]
    have hadapter := adapterFor_renamed h adapters (Storage.ofType ty) ty
    generalize adapterFor adapters m (Storage.ofType ty) ty = result at hadapter
    generalize adapterFor adapters n (Storage.ofType ty) ty = result' at hadapter
    cases result with
    | error d =>
      cases result' with
      | error d' => exact ⟨{ h with storage := rfl }, by simp⟩
      | ok => cases hadapter
    | ok adapter =>
      cases result' with
      | error d' => cases hadapter
      | ok adapter' =>
        cases hadapter
        exact ⟨{ h with storage := rfl, adapter := rfl }, .rfl⟩

section Defaults

variable {defaults others : List DefaultConst}
  (hdefaults : List.Forall₂ DefaultConst.Kept defaults others)

include hdefaults

theorem fitsAt_kept (key : String) (ty : Ty) (place : Nat) :
    FitsAt defaults key ty place ↔ FitsAt others key ty place := by
  unfold FitsAt
  rcases getElem?_of_forall₂ hdefaults place with
    ⟨hnone, hnone'⟩ | ⟨const, const', hconst, hconst', hkept⟩
  · simp [hnone, hnone']
  · simp [hconst, hconst', hkept.key, hkept.ty]

theorem resolveDefault_kept {m n : Member} (h : m.Kept n) (htyped : m.access.isTyped = true)
    (place : Nat) :
    resolveDefault m defaults = .ok place ↔ resolveDefault n others = .ok place := by
  simp only [resolveDefault_eq_ok, h.key htyped, h.valueType, fitsAt_kept hdefaults]

theorem bindDefault_kept {m n : Member} (h : m.Kept n) :
    (bindDefault defaults m).1.Renamed (bindDefault others n).1 ∧
      ((bindDefault defaults m).2 = none ↔ (bindDefault others n).2 = none) := by
  have hsame : n.access.needsDefault = m.access.needsDefault := by rw [h.access]
  unfold bindDefault
  rw [hsame]
  cases hneeds : m.access.needsDefault with
  | false => exact ⟨h.toRenamed, .rfl⟩
  | true =>
    have htyped : m.access.isTyped = true := by
      rcases needsDefault_iff.1 hneeds with haccess | haccess <;> rw [haccess] <;> rfl
    have hplace := resolveDefault_kept hdefaults h htyped
    generalize resolveDefault m defaults = result at hplace
    generalize resolveDefault n others = result' at hplace
    rw [if_pos rfl, if_pos rfl]
    cases result with
    | ok place =>
      rw [(hplace place).1 rfl]
      exact ⟨{ h.toRenamed with default := rfl }, .rfl⟩
    | error d =>
      cases result' with
      | ok place => cases (hplace place).2 rfl
      | error d' => exact ⟨h.toRenamed, by simp⟩

end Defaults

theorem Member.Kept.typedKey? {m n : Member} (h : m.Kept n) :
    Member.typedKey? m = Member.typedKey? n := by
  unfold Member.typedKey?
  rw [← h.access]
  split
  · rename_i htyped
    rw [h.key htyped, h.valueType]
  · rfl

end Preferences.Schema

namespace Preferences

open Source Syntax Schema

/-! ### Schemas -/

/-- Schemas of traits that differ in the names of their items. -/
structure Schema.Renamed (a b : Schema) : Prop where
  namespaceName : a.namespaceName = b.namespaceName
  implName : a.implName = b.implName
  runtime : a.runtime = b.runtime
  members : List.Forall₂ Member.Renamed a.members b.members
  defaults : List.Forall₂ DefaultConst.Renamed a.defaults b.defaults
  adapters : a.adapters = b.adapters

/-- Schemas that differ in names, and in the keys of no values. -/
structure Schema.Kept (a b : Schema) : Prop extends a.Renamed b where
  keptMembers : List.Forall₂ Member.Kept a.members b.members
  keptDefaults : List.Forall₂ DefaultConst.Kept a.defaults b.defaults

namespace Schema

/-- The later stages report something of both schemas or of neither. -/
theorem Kept.laterNotes {a b : Schema} (h : a.Kept b) :
    Schema.laterNotes a = [] ↔ Schema.laterNotes b = [] := by
  have hkeys : a.members.map Member.typedKey? = b.members.map Member.typedKey? :=
    map_eq_of_forall₂ (h.keptMembers.imp fun _ _ => Member.Kept.typedKey?)
  rw [laterNotes_eq_nil_iff, laterNotes_eq_nil_iff, OneType.congr hkeys, ← h.adapters]
  refine and_congr ?_ (and_congr ?_ .rfl)
  · exact forall_mem_of_forall₂ h.members fun _ _ hm => (bindMember_renamed hm a.adapters).2
  · exact forall_mem_of_forall₂ h.keptMembers fun _ _ hm => (bindDefault_kept h.keptDefaults hm).2

/-- All stages bind the same. -/
theorem Kept.resolved {a b : Schema} (h : a.Kept b) :
    (resolve .collectAll a Stage.all).schema.Kept (resolve .collectAll b Stage.all).schema := by
  have hmember {m n : Member} (hm : m.Kept n) :
      (m.after a Stage.all).Kept (n.after b Stage.all) := by
    have hstored : (bindMember a.adapters m).1.Renamed (bindMember b.adapters n).1 := by
      rw [← h.adapters]
      exact (bindMember_renamed hm.toRenamed a.adapters).1
    have hsettled := (bindDefault_kept h.keptDefaults hm).1
    exact { hm with
      storage := hstored.storage, adapter := hstored.adapter, default := hsettled.default }
  have hmembers : List.Forall₂ Member.Kept (a.members.map (Member.after a Stage.all))
      (b.members.map (Member.after b Stage.all)) := by
    rw [List.forall₂_map_left_iff, List.forall₂_map_right_iff]
    exact h.keptMembers.imp fun _ _ => hmember
  rw [resolve_collectAll, resolve_collectAll]
  exact { h with
    members := hmembers.imp fun _ _ => Member.Kept.toRenamed, keptMembers := hmembers }

end Schema

end Preferences

namespace Preferences.Schema

open Preferences.Source Preferences.Syntax

/-! ### Traits -/

/-- The names that keys come from, in the ways that pass the test, are the same in both traits. -/
def SameNames (test : Derivation → Bool) (decl other : TraitDecl) : Prop :=
  List.Forall₂ (fun item found => ∀ derivation, derivation? item = some derivation →
    test derivation = true → item.name? = found.name?) decl.items other.items

/-- The decoded keys of members that have fixed ones, and those of defaults. -/
def decodedKeys (schema : Schema) : List (Option String) × List String :=
  (schema.members.map (·.key.name?), schema.defaults.map (·.key))

theorem ofKey?_isTyped {written : Option TextLiteral} {access : Access} {key : Key}
    {derivation : Derivation} (h : Derivation.ofKey? written access key = some derivation) :
    derivation.isTyped = access.isTyped := by
  unfold Derivation.ofKey? at h
  split at h
  · cases h
  · cases h
    rfl
  · cases h

/-- An item declares a default, a member, or nothing. -/
theorem declaration_cases (item : TraitItem) : declaration item = (none, none) ∨
    (∃ const, declaration item = (some const, none)) ∨
    ∃ member, declaration item = (none, some member) := by
  cases item with
  | other => exact .inl rfl
  | const item =>
    rw [(declaration_const item).1]
    cases (defaultOf item).toOption.join with
    | none => exact .inl rfl
    | some const => exact .inr (.inl ⟨const, rfl⟩)
  | method method =>
    cases hbody : method.body with
    | some body => exact .inl (declaration_provided (by rw [hbody]; rfl)).1
    | none =>
      rw [(declaration_required hbody).1]
      cases (declaredMember method).toOption with
      | none => exact .inl rfl
      | some member => exact .inr (.inr ⟨member, rfl⟩)

section Items

variable {item found : TraitItem}

/-- Both items declare a default, or both a member, or both nothing. -/
theorem Redeclared.cases (h : Redeclared item found) :
    (declaration item = (none, none) ∧ declaration found = (none, none)) ∨
    (∃ a b, declaration item = (some a, none) ∧ declaration found = (some b, none) ∧
      a.Renamed b) ∨
    ∃ m n, declaration item = (none, some m) ∧ declaration found = (none, some n) ∧
      m.Renamed n := by
  have hdefault := h.default
  have hmember := h.member
  generalize declaration found = there at hdefault hmember
  obtain ⟨first, second⟩ := there
  rcases declaration_cases item with hitem | ⟨a, hitem⟩ | ⟨m, hitem⟩ <;>
    rw [hitem] at hdefault hmember <;> cases hdefault <;> cases hmember
  · exact .inl ⟨hitem, rfl⟩
  · rename_i b hab
    exact .inr (.inl ⟨a, b, hitem, rfl, hab⟩)
  · rename_i n hmn
    exact .inr (.inr ⟨m, n, hitem, rfl, hmn⟩)

/-- Items declare the same key if and only if their defaults and their members have the same. -/
theorem Redeclared.sameKey_iff (h : Redeclared item found) :
    declaredKey? found = declaredKey? item ↔
      (declaration item).2.map (·.key.name?) = (declaration found).2.map (·.key.name?) ∧
      (declaration item).1.map (·.key) = (declaration found).1.map (·.key) := by
  unfold declaredKey?
  rcases h.cases with ⟨hitem, hfound⟩ | ⟨a, b, hitem, hfound, -⟩ | ⟨m, n, hitem, hfound, -⟩ <;>
    rw [hitem, hfound] <;> simp [eq_comm]

/-- If the key of a value does not change, what is declared differs in names alone. -/
theorem Redeclared.keeps (h : Redeclared item found)
    (hsame : ∀ derivation, derivation? item = some derivation → derivation.isTyped = true →
      declaredKey? found = declaredKey? item) :
    Option.Rel DefaultConst.Kept (declaration item).1 (declaration found).1 ∧
      Option.Rel Member.Kept (declaration item).2 (declaration found).2 := by
  rcases h.cases with ⟨hitem, hfound⟩ | ⟨a, b, hitem, hfound, hrenamed⟩ |
    ⟨m, n, hitem, hfound, hrenamed⟩
  · rw [hitem, hfound]
    exact ⟨.none, .none⟩
  · obtain ⟨hderivation, hkey⟩ := keys_of_default hitem
    have hkeys : declaredKey? found = declaredKey? item := by
      cases hway : derivation? item with
      | none => exact h.kept hway
      | some derivation =>
        refine hsame derivation hway ?_
        rw [hway] at hderivation
        split at hderivation <;> cases hderivation
        rfl
    rw [hkey, (keys_of_default hfound).2] at hkeys
    rw [hitem, hfound]
    exact ⟨.some { hrenamed with key := (Option.some.inj hkeys).symm }, .none⟩
  · obtain ⟨hderivation, hkey⟩ := keys_of_member hitem
    have hkeys (htyped : m.access.isTyped = true) : declaredKey? found = declaredKey? item := by
      cases hway : derivation? item with
      | none => exact h.kept hway
      | some derivation =>
        exact hsame derivation hway ((ofKey?_isTyped (hderivation.symm.trans hway)).trans htyped)
    rw [hkey, (keys_of_member hfound).2] at hkeys
    rw [hitem, hfound]
    exact ⟨.none, .some { hrenamed with key := fun htyped => (hkeys htyped).symm }⟩

end Items

section Names

variable {R : Name → Name → Prop} {item found : TraitItem} {name other : Name}

theorem eq_of_name?_eq (h : item.Renamed R found) (hname : item.name? = found.name?) :
    found = item := by
  cases h with
  | const | method =>
    cases hname
    rfl
  | other => rfl

theorem names_related (h : item.Renamed R found) (hname : item.name? = some name)
    (hother : found.name? = some other) : R name other := by
  cases h with
  | const h | method h =>
    cases hname
    cases hother
    exact h
  | other => cases hname

/-- A derived key is the one that the item's own name stands for. -/
theorem declaredKey?_of_derivation {derivation : Derivation}
    (h : derivation? item = some derivation) :
    ∃ name, item.name? = some name ∧ declaredKey? item = some (derivation.key name.text) := by
  have hself : item.Renamed Eq item := by
    cases item with
    | const item => exact @TraitItem.Renamed.const Eq item item.name rfl
    | method method => exact @TraitItem.Renamed.method Eq method method.signature.name rfl
    | other => exact .other
  exact (redeclared (by rintro _ _ rfl; rfl) hself).derived derivation h

/-- A declared key stays exactly if the name that it comes from does, where no two related names
stand for the same key. -/
theorem sameKey_iff_sameName (hpos : ∀ a b, R a b → a.pos = b.pos)
    (hapart : ∀ a b, R a b → ∀ derivation : Derivation,
      derivation.key a.text = derivation.key b.text → a = b) (h : item.Renamed R found) :
    declaredKey? found = declaredKey? item ↔
      ∀ derivation, derivation? item = some derivation → item.name? = found.name? := by
  constructor
  · intro hkeys derivation hderivation
    obtain ⟨name, hname, hkey⟩ := declaredKey?_of_derivation hderivation
    obtain ⟨other, hother, hkey'⟩ := (redeclared hpos h).derived derivation hderivation
    rw [hkey, hkey'] at hkeys
    rw [hname, hother, hapart name other (names_related h hname hother) derivation
      (Option.some.inj hkeys).symm]
  · intro hsame
    cases hderivation : derivation? item with
    | none => exact (redeclared hpos h).kept hderivation
    | some derivation => rw [eq_of_name?_eq h (hsame derivation hderivation)]

end Names

theorem isSome_map_of_rel {R : α → β → Prop} {x : Option α} {y : Option β} (h : Option.Rel R x y)
    (f : α → γ) (g : β → δ) : (x.map f).isSome = (y.map g).isSome := by
  cases h <;> rfl

/-- Of lists side by side, where the same places are kept, the same is kept if and only if the same
stands at each place. -/
theorem filterMap_eq_iff {f : α → Option γ} {g : β → Option γ} {as : List α} {bs : List β}
    (h : List.Forall₂ (fun a b => (f a).isSome = (g b).isSome) as bs) :
    as.filterMap f = bs.filterMap g ↔ List.Forall₂ (fun a b => f a = g b) as bs := by
  induction h with
  | nil => simp
  | @cons a b as bs hab _ ih =>
    rw [List.filterMap_cons, List.filterMap_cons, List.forall₂_cons, ← ih]
    cases hf : f a <;> cases hg : g b <;> simp_all

/-- Names matter no more where all keys that pass the test are written. -/
theorem sameNames_of_written {R : Name → Name → Prop} {test : Derivation → Bool}
    {decl other : TraitDecl} (h : decl.Renamed R other)
    (hwritten : ∀ item ∈ decl.items, (derivation? item).all (fun way => !test way) = true) :
    SameNames test decl other := by
  cases h with
  | mk hitems =>
    refine ((List.forall₂_and_left ..).2 ⟨hwritten, hitems⟩).imp ?_
    rintro item found ⟨hitem, -⟩ derivation hderivation htest
    rw [hderivation, Option.all_some, htest] at hitem
    cases hitem

section Traits

variable {R : Name → Name → Prop} (hpos : ∀ a b, R a b → a.pos = b.pos) {schema : Schema}
  {decl other : TraitDecl} {items others : List TraitItem}

include hpos

theorem withItems_renamed (h : List.Forall₂ (TraitItem.Renamed R) items others) :
    (withItems schema decl items).Renamed (withItems schema decl others) := by
  have hredeclared := h.imp fun _ _ => redeclared hpos
  refine ⟨rfl, rfl, rfl, ?_, ?_, rfl⟩
  · exact List.rel_filterMap (fun _ _ hitem => hitem.member) hredeclared
  · exact List.rel_filterMap (fun _ _ hitem => hitem.default) hredeclared

/-- Where the names stay that keys of values come from, so do these keys. -/
theorem withItems_kept (h : List.Forall₂ (TraitItem.Renamed R) decl.items items)
    (hsame : SameNames Derivation.isTyped decl { decl with items }) :
    (withItems schema decl decl.items).Kept (withItems schema decl items) := by
  have hkept := List.Forall₂.mp (fun item found hitem hnames =>
    (redeclared hpos hitem).keeps fun derivation hderivation htyped => by
      rw [eq_of_name?_eq hitem (hnames derivation hderivation htyped)]) h hsame
  refine { withItems_renamed hpos h with keptMembers := ?_, keptDefaults := ?_ }
  · exact List.rel_filterMap (fun _ _ hitem => hitem.2) hkept
  · exact List.rel_filterMap (fun _ _ hitem => hitem.1) hkept

/-- All keys stay if and only if the names do that keys come from. -/
theorem withItems_keys (hapart : ∀ a b, R a b → ∀ derivation : Derivation,
      derivation.key a.text = derivation.key b.text → a = b)
    (h : List.Forall₂ (TraitItem.Renamed R) decl.items items) :
    decodedKeys (withItems schema decl decl.items) = decodedKeys (withItems schema decl items) ↔
      SameNames (fun _ => true) decl { decl with items } := by
  have hmembers := h.imp fun item found hitem => isSome_map_of_rel (redeclared hpos hitem).member
    (fun m : Member => m.key.name?) fun n : Member => n.key.name?
  have hdefaults := h.imp fun item found hitem => isSome_map_of_rel
    (redeclared hpos hitem).default (fun const : DefaultConst => const.key)
    fun const : DefaultConst => const.key
  have hitem {item found : TraitItem} (hrenamed : item.Renamed R found) :=
    (redeclared hpos hrenamed).sameKey_iff.symm.trans (sameKey_iff_sameName hpos hapart hrenamed)
  simp only [decodedKeys, withItems, List.map_filterMap, Prod.mk.injEq,
    filterMap_eq_iff hmembers, filterMap_eq_iff hdefaults]
  constructor
  · rintro ⟨hmembers, hdefaults⟩
    have hboth := List.Forall₂.mp (fun _ _ => And.intro) hmembers hdefaults
    exact List.Forall₂.mp (fun _ _ hrenamed hkeys derivation hderivation _ =>
      (hitem hrenamed).1 hkeys derivation hderivation) h hboth
  · intro hsame
    have hboth := List.Forall₂.mp (fun _ _ hrenamed hnames =>
      (hitem hrenamed).2 fun derivation hderivation => hnames derivation hderivation rfl) h hsame
    exact ⟨hboth.imp fun _ _ => And.left, hboth.imp fun _ _ => And.right⟩

/-- A trait with other names is read as this one is: with the same items but for names and keys, and
with something reported of both or of neither. -/
theorem ofTrait_renamed {options : Options} {ds : List Diagnostic} (h : decl.Renamed R other)
    (hcollects : Collects (ofTrait options decl) schema ds) :
    ∃ es, Collects (ofTrait options other) (withItems schema decl other.items) es ∧
      (ds = [] ↔ es = []) ∧ schema = withItems schema decl decl.items := by
  cases h with
  | @mk items hitems =>
    obtain ⟨notes, -, hself, hall⟩ := collects_ofTrait hcollects.returns
    refine ⟨_, hall items, ?_, hself⟩
    have hreported := hcollects.reported.symm.trans (hall decl.items).reported
    have hcomplaints : decl.items.flatMap complaints = [] ↔ items.flatMap complaints = [] := by
      rw [List.flatMap_eq_nil_iff, List.flatMap_eq_nil_iff]
      exact forall_mem_of_forall₂ hitems fun _ _ hitem => (redeclared hpos hitem).complaints
    simp only [hreported, List.append_eq_nil_iff, hcomplaints]

theorem sameNames_symm {test : Derivation → Bool} (h : decl.Renamed R other)
    (hsame : SameNames test decl other) : SameNames test other decl := by
  cases h with
  | mk hitems =>
    refine (List.Forall₂.mp (fun item found hitem hnames derivation hderivation htest => ?_) hitems
      hsame).flip
    rw [(redeclared hpos hitem).derivation] at hderivation
    exact (hnames derivation hderivation htest).symm

/-- A trait that compiles still does so with other names, to a schema that binds the same, if the
names stay that keys of values come from. -/
theorem compileTrait_renamed {mode : Mode} {args : List Tree} {compiled : Compiled}
    (h : decl.Renamed R other) (hsame : SameNames Derivation.isTyped decl other)
    (hcompile : compileTrait mode args decl = .ok compiled) :
    ∃ renamed, compileTrait mode args other = .ok renamed ∧
      compiled.schema.Kept renamed.schema := by
  obtain ⟨options, parsed, hoptions, hparsed, hlater, hschema⟩ :=
    compileTrait_iff.1 ⟨compiled, hcompile, rfl⟩
  obtain ⟨es, hother, hnil, hself⟩ := ofTrait_renamed hpos h hparsed
  have hkept : parsed.Kept (withItems parsed decl other.items) := by
    cases h with
    | mk hitems =>
      rw [hself]
      exact withItems_kept hpos hitems hsame
  obtain rfl := hnil.1 rfl
  obtain ⟨renamed, hrenamed, hschema'⟩ := (@compileTrait_iff mode args other _).2
    ⟨options, _, hoptions, hother, hkept.laterNotes.1 hlater, rfl⟩
  refine ⟨renamed, hrenamed, ?_⟩
  rw [← hschema, hschema']
  exact hkept.resolved

end Traits

end Preferences.Schema
