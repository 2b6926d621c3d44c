import Preferences.Proofs.Report
import Preferences.Schema.Declaration

/-! What the parser promises of a member: a value type if and only if its access is typed, a fixed
key then, a value parameter if and only if it is a setter, and nothing bound yet. -/

namespace Preferences.Schema

open Preferences.Source Preferences.Syntax Report

theorem ok_of_bind {x : Except ε α} {f : α → Except ε β} {b : β} (h : (x >>= f) = .ok b) :
    ∃ a, x = .ok a ∧ f a = .ok b := by
  cases x with
  | error e => cases h
  | ok a => exact ⟨a, rfl, h⟩

theorem exists_ok_bind {x : Except ε α} {f : α → Except ε β} :
    (∃ b, (x >>= f) = .ok b) ↔ ∃ a, x = .ok a ∧ ∃ b, f a = .ok b := by
  constructor
  · rintro ⟨b, h⟩
    obtain ⟨a, ha, hb⟩ := ok_of_bind h
    exact ⟨a, ha, b, hb⟩
  · rintro ⟨a, rfl, b, hb⟩
    exact ⟨b, hb⟩

theorem error_of_bind {x : Except ε α} {f : α → Except ε β} {e : ε} (h : (x >>= f) = .error e) :
    x = .error e ∨ ∃ a, x = .ok a ∧ f a = .error e := by
  cases x with
  | error e' =>
    cases h
    exact .inl rfl
  | ok a => exact .inr ⟨a, rfl, h⟩

theorem ok_of_toOption {x : Except ε α} {a : α} (h : x.toOption = some a) : x = .ok a := by
  cases x with
  | error e => cases h
  | ok b =>
    cases h
    rfl

/-- Whether the access writes a value. -/
def Access.isSetter : Access → Bool
  | .set | .setSync => true
  | _ => false

/-- A shape as members of an access have it. -/
structure Shape.Fits (access : Access) (shape : Shape) : Prop where
  valueType : shape.valueType.isSome = access.isTyped
  valueParam : shape.valueParam.isSome = access.isSetter
  fixed : access.isTyped = true → ∃ lit, shape.key = .fixed lit

section Shapes

variable {sig : Signature} {access : Access} {explicit : Option TextLiteral}
  {params : List (Pattern × Ty)} {shape : Shape}

theorem readShape_ok (h : readShape sig access explicit params = .ok shape) :
    params = [] ∧
      ∃ ty, shape = ⟨.fixed (explicit.getD (derivedKey sig access)), some ty, none⟩ := by
  unfold readShape at h
  dsimp only at h
  split at h
  · cases h
  · rename_i hempty
    obtain ⟨ty, -, h⟩ := ok_of_bind h
    split at h
    · cases h
    · cases h
      exact ⟨by simpa using hempty, ty, rfl⟩

theorem writeShape_ok (h : writeShape sig access explicit params = .ok shape) :
    ∃ pattern ty name, params = [(pattern, ty)] ∧ plainName? pattern = some name ∧
      shape = ⟨.fixed (explicit.getD (derivedKey sig access)), some ty, some name⟩ := by
  unfold writeShape at h
  split at h
  · rename_i pattern ty
    obtain ⟨_, -, h⟩ := ok_of_bind h
    split at h
    · cases h
    · rename_i name hname
      cases h
      exact ⟨pattern, ty, name, rfl, hname, rfl⟩
  · cases h

/-- The key is fixed, or else it is the only parameter. -/
theorem keyShape_ok (h : keyShape sig access explicit params = .ok shape) :
    (params = [] ∧ shape = ⟨.fixed (explicit.getD (derivedKey sig access)), none, none⟩) ∨
      ∃ pattern ty name, params = [(pattern, ty)] ∧ plainName? pattern = some name ∧
        shape = ⟨.parameter name, none, none⟩ := by
  unfold keyShape at h
  obtain ⟨_, -, h⟩ := ok_of_bind h
  dsimp only at h
  split at h
  · cases h
    exact .inl ⟨rfl, rfl⟩
  · split at h
    · split at h
      · cases h
      · cases h
      · cases h
        exact .inr ⟨_, _, _, rfl, ‹_›, rfl⟩
    · cases h
  · cases h

theorem clearShape_ok (h : clearShape sig explicit params = .ok shape) :
    params = [] ∧ shape = ⟨.fixed (.ofValue "" sig.name.pos), none, none⟩ := by
  unfold clearShape at h
  split at h
  · cases h
  · rename_i hempty
    split at h
    · cases h
    · split at h
      · cases h
      · cases h
        exact ⟨by simpa using hempty, rfl⟩

theorem shapeOf_fits (h : shapeOf sig access explicit params = .ok shape) : shape.Fits access := by
  cases access with
  | get | observe =>
    obtain ⟨-, ty, rfl⟩ := readShape_ok h
    exact ⟨rfl, rfl, fun _ => ⟨_, rfl⟩⟩
  | set | setSync =>
    obtain ⟨pattern, ty, name, -, -, rfl⟩ := writeShape_ok h
    exact ⟨rfl, rfl, fun _ => ⟨_, rfl⟩⟩
  | contains | remove =>
    obtain ⟨-, rfl⟩ | ⟨pattern, ty, name, -, -, rfl⟩ := keyShape_ok h <;> exact ⟨rfl, rfl, nofun⟩
  | clear =>
    obtain ⟨-, rfl⟩ := clearShape_ok h
    exact ⟨rfl, rfl, nofun⟩

end Shapes

/-! ### Parameters -/

/-- The parameters behind a receiver are those that are read, whatever attributes they have. -/
theorem typedParams_ok {sig : Signature} {params : List Param} {typed : List (Pattern × Ty)}
    (h : typedParams sig params = .ok typed) :
    List.Forall₂ (fun param entry => ∃ attrs, param = .typed attrs entry.1 entry.2) params
      typed := by
  induction params generalizing typed with
  | nil =>
    cases h
    exact .nil
  | cons param rest ih =>
    cases param with
    | self receiver => cases h
    | typed attrs pattern ty =>
      obtain ⟨others, hothers, h⟩ := ok_of_bind h
      cases h
      exact .cons ⟨attrs, rfl⟩ (ih hothers)

theorem paramsAfterSelf_ok {sig : Signature} {typed : List (Pattern × Ty)}
    (h : paramsAfterSelf sig = .ok typed) :
    ∃ receiver rest, sig.params = .self receiver :: rest ∧
      List.Forall₂ (fun param entry => ∃ attrs, param = .typed attrs entry.1 entry.2) rest
        typed := by
  unfold paramsAfterSelf at h
  split at h
  · rename_i receiver rest hparams
    split at h
    · exact ⟨receiver, rest, hparams, typedParams_ok h⟩
    · cases h
  · cases h
  · cases h

/-! ### Parsed members -/

theorem accessOf_ok {sig : Signature} {marks : List Attribute} {access : Access} {mark : Attribute}
    (h : accessOf sig marks = .ok (access, mark)) :
    marks = [mark] ∧ Access.ofPath? mark.path = some access := by
  unfold accessOf at h
  split at h
  · cases h
  · split at h
    · rename_i hpath
      cases h
      exact ⟨rfl, hpath⟩
    · cases h
  · cases h

theorem explicitKey_ok {sig : Signature} {mark : Attribute} {explicit : Option TextLiteral}
    (h : explicitKey sig mark = .ok explicit) : keyName mark = .ok explicit := by
  unfold explicitKey at h
  cases hname : keyName mark with
  | error error =>
    rw [hname] at h
    cases h
  | ok found =>
    rw [hname] at h
    cases h
    rfl

theorem localAdapterOf_eq_ok {sig : Signature} {access : Access} {marks : List Attribute}
    {adapter : Option AdapterBinding} : localAdapterOf sig access marks = .ok adapter ↔
      (marks = [] ∧ adapter = none) ∨ ∃ attr binding, marks = [attr] ∧
        adapterOf attr = .ok binding ∧ access.isTyped = true ∧ adapter = some binding := by
  constructor
  · intro h
    unfold localAdapterOf at h
    split at h
    · cases h
      exact .inl ⟨rfl, rfl⟩
    · rename_i attr
      obtain ⟨binding, hbinding, h⟩ := ok_of_bind h
      split at h
      · cases h
        exact .inr ⟨attr, binding, rfl, hbinding, ‹_›, rfl⟩
      · cases h
    · cases h
  · rintro (⟨rfl, rfl⟩ | ⟨attr, binding, rfl, hbinding, htyped, rfl⟩)
    · rfl
    · rw [localAdapterOf, hbinding]
      exact if_pos htyped

/-- All that makes a member, and the member that it makes. -/
theorem memberOf_eq_ok {sig : Signature} {marks adapters : List Attribute} {member : Member} :
    memberOf sig marks adapters = .ok member ↔ ∃ access mark explicit localAdapter params shape,
      accessOf sig marks = .ok (access, mark) ∧ explicitKey sig mark = .ok explicit ∧
      localAdapterOf sig access adapters = .ok localAdapter ∧ checkModifiers sig = .ok () ∧
      paramsAfterSelf sig = .ok params ∧ shapeOf sig access explicit params = .ok shape ∧
      member = {
        signature := sig, access, key := shape.key, valueType := shape.valueType,
        valueParam := shape.valueParam, localAdapter, storage := none, adapter := none,
        default := none } := by
  constructor
  · intro h
    obtain ⟨⟨access, mark⟩, haccess, h⟩ := ok_of_bind h
    obtain ⟨explicit, hexplicit, h⟩ := ok_of_bind h
    obtain ⟨localAdapter, hadapter, h⟩ := ok_of_bind h
    obtain ⟨_, hmodifiers, h⟩ := ok_of_bind h
    obtain ⟨params, hparams, h⟩ := ok_of_bind h
    obtain ⟨shape, hshape, h⟩ := ok_of_bind h
    cases h
    exact ⟨access, mark, explicit, localAdapter, params, shape, haccess, hexplicit, hadapter,
      hmodifiers, hparams, hshape, rfl⟩
  · rintro ⟨access, mark, explicit, localAdapter, params, shape, haccess, hexplicit, hadapter,
      hmodifiers, hparams, hshape, rfl⟩
    rw [memberOf, haccess]
    show (explicitKey sig mark >>= _) = _
    rw [hexplicit]
    show (localAdapterOf sig access adapters >>= _) = _
    rw [hadapter]
    show (checkModifiers sig >>= _) = _
    rw [hmodifiers]
    show (paramsAfterSelf sig >>= _) = _
    rw [hparams]
    show (shapeOf sig access explicit params >>= _) = _
    rw [hshape]
    rfl

/-- All that makes a member: the one access attribute, the key that it names, a signature without
modifiers, and the shape that its parameters give. -/
theorem memberOf_ok {sig : Signature} {access adapters : List Attribute} {member : Member}
    (h : memberOf sig access adapters = .ok member) :
    ∃ mark explicit params, access = [mark] ∧ Access.ofPath? mark.path = some member.access ∧
      keyName mark = .ok explicit ∧ checkModifiers sig = .ok () ∧
      paramsAfterSelf sig = .ok params ∧ shapeOf sig member.access explicit params =
        .ok ⟨member.key, member.valueType, member.valueParam⟩ ∧ member.signature = sig := by
  obtain ⟨kind, mark, explicit, _, params, shape, haccess, hexplicit, -, hmodifiers, hparams,
    hshape, rfl⟩ := memberOf_eq_ok.1 h
  obtain ⟨hmark, hpath⟩ := accessOf_ok haccess
  exact ⟨mark, explicit, params, hmark, hpath, explicitKey_ok hexplicit, hmodifiers, hparams,
    hshape, rfl⟩

/-- A member as the parser makes it. -/
structure Member.Parsed (member : Member) : Prop where
  shape : Shape.Fits member.access ⟨member.key, member.valueType, member.valueParam⟩
  storage : member.storage = none
  adapter : member.adapter = none
  default : member.default = none

theorem memberOf_parsed {sig : Signature} {access adapters : List Attribute} {member : Member}
    (h : memberOf sig access adapters = .ok member) : member.Parsed := by
  obtain ⟨_, _, _, _, _, _, -, -, -, -, -, hshape, rfl⟩ := memberOf_eq_ok.1 h
  exact ⟨shapeOf_fits hshape, rfl, rfl, rfl⟩

/-! ### Parsed declarations -/

theorem declaredBy_member {mode : Mode} {item : TraitItem} {const : Option DefaultConst}
    {member : Member} (h : Returns (declaredBy item) mode (const, some member)) :
    ∃ sig access adapters, memberOf sig access adapters = .ok member := by
  unfold declaredBy at h
  split at h
  · obtain ⟨found, -, h⟩ := returns_bind.1 h
    cases returns_pure.1 h
  · dsimp only at h
    split at h
    · obtain ⟨_, -, h⟩ := returns_bind.1 h
      cases returns_pure.1 h
    · obtain ⟨found, hfound, h⟩ := returns_bind.1 h
      cases returns_pure.1 h
      exact ⟨_, _, _, returns_check_some.1 hfound⟩
  · cases returns_pure.1 h

theorem schemaIn_member {mode : Mode} {options : Options} {decl : TraitDecl}
    {namespaceName : TextLiteral} {schema : Schema}
    (h : Returns (schemaIn options decl namespaceName) mode schema) {member : Member}
    (hmember : member ∈ schema.members) :
    ∃ sig access adapters, memberOf sig access adapters = .ok member := by
  obtain ⟨adapters, -, h⟩ := returns_bind.1 h
  obtain ⟨declared, hdeclared, h⟩ := returns_bind.1 h
  cases returns_pure.1 h
  obtain ⟨⟨const, found⟩, hmem, rfl⟩ := List.mem_filterMap.1 hmember
  obtain ⟨item, -, hitem⟩ := exists_mem_of_forall₂ (returns_each.1 hdeclared) hmem
  exact declaredBy_member hitem

theorem returns_orFatal {mode : Mode} {result : Except SyntaxError α} {a : α} :
    Returns (orFatal result) mode a ↔ result = .ok a := by
  cases result with
  | ok b => simp [orFatal, returns_done]
  | error error => simp [orFatal, not_returns_fatal]

theorem returns_ofTrait {mode : Mode} {options : Options} {decl : TraitDecl} {schema : Schema}
    (h : Returns (ofTrait options decl) mode schema) :
    ∃ namespaceName, options.namespaceName = some namespaceName ∧
      Returns (schemaIn options decl namespaceName) mode schema := by
  unfold ofTrait at h
  split at h
  · exact absurd h not_returns_fatal
  · rename_i namespaceName hname
    dsimp only at h
    split at h
    · obtain ⟨_, -, h⟩ := returns_bind.1 h
      exact ⟨namespaceName, hname, h⟩
    · exact ⟨namespaceName, hname, h⟩

/-- All that makes a schema: options with a namespace, and a trait. -/
theorem parse_schemaIn {mode : Mode} {args item : List Tree} {schema : Schema}
    (h : Returns (parse args item) mode schema) :
    ∃ options decl namespaceName, Options.ofTrees args = .ok options ∧
      Parser.parseAll TraitDecl.parser item Position.start = .ok decl ∧
      options.namespaceName = some namespaceName ∧
      Returns (schemaIn options decl namespaceName) mode schema := by
  obtain ⟨options, hoptions, h⟩ := returns_bind.1 h
  obtain ⟨decl, hdecl, h⟩ := returns_bind.1 h
  obtain ⟨namespaceName, hname, h⟩ := returns_ofTrait h
  exact ⟨options, decl, namespaceName, returns_orFatal.1 hoptions, returns_orFatal.1 hdecl, hname,
    h⟩

/-- Whatever the parser reports of a declaration, every member that it makes is well formed. -/
theorem parse_parsed {mode : Mode} {args item : List Tree} {schema : Schema}
    (h : Returns (parse args item) mode schema) : ∀ member ∈ schema.members, member.Parsed := by
  obtain ⟨_, _, _, -, -, -, h⟩ := parse_schemaIn h
  intro member hmember
  obtain ⟨sig, access, adapters, hmade⟩ := schemaIn_member h hmember
  exact memberOf_parsed hmade

end Preferences.Schema
