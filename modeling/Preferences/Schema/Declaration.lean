import Preferences.Schema.Basic

/-! Reading a declaration into a schema. -/

namespace Preferences.Schema

open Preferences.Source Preferences.Syntax

/-! ### Preference attributes -/

def isAdapterAttr (attr : Attribute) : Bool := attr.path.isName "adapter"

def isDefaultAttr (attr : Attribute) : Bool := attr.path.isName "default"

def Access.ofPath? (path : Path) : Option Access := Access.all.find? fun access =>
  path.isName access.name

def isAccessAttr (attr : Attribute) : Bool := (Access.ofPath? attr.path).isSome

/-- An item without the attributes that mean something to preferences. -/
def withoutMarks : TraitItem → TraitItem
  | .const item => .const { item with attrs := item.attrs.filter (!isDefaultAttr ·) }
  | .method item =>
    let isMark attr := isAccessAttr attr || isAdapterAttr attr
    .method { item with attrs := item.attrs.filter (!isMark ·) }
  | .other code => .other code

/-- A trait without the attributes that mean something to preferences. -/
def cleaned (decl : TraitDecl) : TraitDecl :=
  { decl with
    attrs := decl.attrs.filter (!isAdapterAttr ·)
    items := decl.items.map withoutMarks }

/-- The binding that an `adapter` attribute makes. -/
def adapterOf (attr : Attribute) : Except Diagnostic AdapterBinding :=
  (AdapterBinding.ofAttribute attr).mapError fun error =>
    .declaration error.pos
      ("expected #[adapter(ValueType => AdapterPath)]: " ++ error.message)

/-! ### Defaults -/

/-- The default that a constant is marked as, if it is. -/
def defaultOf (item : ConstItem) : Except Diagnostic (Option DefaultConst) :=
  match item.attrs.filter isDefaultAttr with
  | [] => .ok none
  | [mark] =>
    if item.value.isNone then
      .error (.declaration item.name.pos
        ("default `" ++ item.name.text ++ "` must be a plain const with a value"))
    else
      match keyName mark with
      | .error error => .error (.declaration error.pos error.message)
      | .ok lit =>
        .ok (some ⟨item.name, (lit.map (·.value)).getD (constKey item.name.text), item.ty⟩)
  | _ :: second :: _ =>
    .error (.declaration second.pos
      ("`" ++ item.name.text ++ "` is marked #[default] more than once"))

/-! ### Members -/

section Members

variable (sig : Signature)

def malformed (pos : Position) (reason : String) : Diagnostic := .member pos sig.name.text reason

/-- The one access that a method's attributes select, and its attribute. -/
def accessOf (marks : List Attribute) : Except Diagnostic (Access × Attribute) :=
  match marks with
  | [] => .error (malformed sig sig.name.pos
      ("no preference annotation, expected one of #[get], #[observe], #[set], #[set_sync], " ++
        "#[contains], #[remove] or #[clear]"))
  | [mark] =>
    match Access.ofPath? mark.path with
    | some access => .ok (access, mark)
    | none => .error (malformed sig mark.pos "unknown access annotation")
  | _ :: second :: _ => .error (malformed sig second.pos "more than one access annotation")

/-- The key that an access attribute names, if any. -/
def explicitKey (mark : Attribute) : Except Diagnostic (Option TextLiteral) :=
  (keyName mark).mapError fun error => malformed sig error.pos error.message

/-- The adapter written on the method itself, which a typed member may have. -/
def localAdapterOf (access : Access) (marks : List Attribute) :
    Except Diagnostic (Option AdapterBinding) :=
  match marks with
  | [] => .ok none
  | [mark] => do
    let binding ← adapterOf mark
    if access.isTyped then .ok (some binding)
    else .error (malformed sig sig.name.pos "#[adapter] only applies to typed members")
  | _ :: second :: _ => .error (malformed sig second.pos "more than one #[adapter] binding")

/-- Refuses what no preference method may be. -/
def checkModifiers : Except Diagnostic Unit :=
  match sig.asyncPos with
  | some pos => .error (malformed sig pos "preference methods cannot be async")
  | none =>
    if !sig.generics.isEmpty then
      .error (malformed sig sig.generics.pos "preference methods cannot be generic")
    else if sig.isUnsafe || sig.isConst || sig.variadic.isSome then
      .error (malformed sig sig.name.pos "preference methods must be plain safe methods")
    else .ok ()

/-- The patterns and types of parameters, none of which may be a receiver. -/
def typedParams : List Param → Except Diagnostic (List (Pattern × Ty))
  | [] => .ok []
  | .typed _ pattern ty :: rest => do
    let others ← typedParams rest
    .ok ((pattern, ty) :: others)
  | .self receiver :: _ =>
    .error (malformed sig (Param.self receiver).pos "unexpected receiver")

/-- The parameters after a receiver that is a shared reference. -/
def paramsAfterSelf : Except Diagnostic (List (Pattern × Ty)) :=
  match sig.params with
  | .self receiver :: rest =>
    if receiver.reference.isSome && !receiver.isMut then typedParams sig rest
    else .error (malformed sig (Param.self receiver).pos "expected `&self` as the receiver")
  | other :: _ => .error (malformed sig other.pos "expected `&self` as the receiver")
  | [] => .error (malformed sig sig.name.pos "expected `&self` as the receiver")

/-- The declared result, unless it is the unit. -/
def resultType : Option Ty := sig.output.filter (!·.isUnit)

/-- A complaint about the result of a method. -/
def wrongResult (access : Access) (expected : String) : Diagnostic :=
  malformed sig ((sig.output.map Ty.pos).getD sig.name.pos)
    ("#[" ++ access.name ++ "] methods must " ++ expected)

/-- Where the parameters begin. -/
def paramsPos : Position := (sig.params.head?.map Param.pos).getD Position.start

/-- Where the first parameter after the receiver stands. -/
def surplusPos : Position := ((sig.params.drop 1).head?.map Param.pos).getD Position.start

/-- The name of a parameter that is nothing else. -/
def plainName? : Pattern → Option Name
  | .binding _ false _ name none => some name
  | _ => none

def derivedKey (access : Access) : TextLiteral :=
  .ofValue (access.key sig.name.text) sig.name.pos

/-- The key, the value type and the value parameter that a method's shape gives it. -/
structure Shape where
  key : Key
  valueType : Option Ty
  valueParam : Option Name

/-- The type of the value that a getter or an observer returns. -/
def readType (access : Access) : Except Diagnostic Ty :=
  match resultType sig with
  | none => .error (wrongResult sig access "return the preference value")
  | some ty =>
    match ty.unwrapped? "Observable" with
    | some inner =>
      if access = .observe then .ok inner
      else .error (wrongResult sig access
        "return the value itself, use #[observe] for an `Observable`")
    | none =>
      if access = .observe then .error (wrongResult sig access "return `Observable<T>`")
      else .ok ty

def readShape (access : Access) (explicit : Option TextLiteral) (params : List (Pattern × Ty)) :
    Except Diagnostic Shape := do
  if !params.isEmpty then
    throw (malformed sig (surplusPos sig) "getters take no parameters besides `&self`")
  let ty ← readType sig access
  if ty.isReference then
    throw (malformed sig ty.pos "preference values are returned by value")
  return ⟨.fixed (explicit.getD (derivedKey sig access)), some ty, none⟩

/-- Refuses a setter's result: nothing, or a completion where it is synchronous. -/
def checkSetterResult (access : Access) : Except Diagnostic Unit :=
  match access, resultType sig with
  | .set, none => .ok ()
  | .set, some _ => .error (wrongResult sig access "return nothing")
  | _, some ty =>
    if ty.isNamed "Completion" then .ok ()
    else .error (wrongResult sig access "return `Completion`")
  | _, none => .error (wrongResult sig access "return `Completion`")

def writeShape (access : Access) (explicit : Option TextLiteral) (params : List (Pattern × Ty)) :
    Except Diagnostic Shape :=
  match params with
  | [(pattern, ty)] => do
    checkSetterResult sig access
    match plainName? pattern with
    | none =>
      throw (malformed sig pattern.pos "the value parameter must be a plain identifier")
    | some name =>
      return ⟨.fixed (explicit.getD (derivedKey sig access)), some ty, some name⟩
  | _ => .error (malformed sig (paramsPos sig) "setters take exactly one value parameter")

/-- Refuses the result of a test for a key, or of a removal. -/
def checkKeyResult (access : Access) : Except Diagnostic Unit :=
  match access, resultType sig with
  | .contains, some ty =>
    if ty.isBool then .ok () else .error (wrongResult sig access "return `bool`")
  | .contains, none => .error (wrongResult sig access "return `bool`")
  | _, none => .ok ()
  | _, some _ => .error (wrongResult sig access "return nothing")

def keyShape (access : Access) (explicit : Option TextLiteral) (params : List (Pattern × Ty)) :
    Except Diagnostic Shape := do
  checkKeyResult sig access
  let other := malformed sig (paramsPos sig) "expected no parameters or a single `key: &str`"
  match params with
  | [] => return ⟨.fixed (explicit.getD (derivedKey sig access)), none, none⟩
  | [(pattern, ty)] =>
    if ty.isStringRef then
      match explicit, plainName? pattern with
      | some lit, _ =>
        throw (malformed sig lit.pos "a key parameter and a key name cannot be combined")
      | none, none =>
        throw (malformed sig pattern.pos "the key parameter must be a plain identifier")
      | none, some name => return ⟨.parameter name, none, none⟩
    else throw other
  | _ => throw other

def clearShape (explicit : Option TextLiteral) (params : List (Pattern × Ty)) :
    Except Diagnostic Shape :=
  if !params.isEmpty then
    .error (malformed sig (surplusPos sig) "#[clear] takes no parameters besides `&self`")
  else if (resultType sig).isSome then .error (wrongResult sig .clear "return nothing")
  else
    match explicit with
    | some lit => .error (malformed sig lit.pos "#[clear] removes every key and takes no name")
    | none => .ok ⟨.fixed (.ofValue "" sig.name.pos), none, none⟩

def shapeOf (access : Access) (explicit : Option TextLiteral) (params : List (Pattern × Ty)) :
    Except Diagnostic Shape :=
  match access with
  | .get | .observe => readShape sig access explicit params
  | .set | .setSync => writeShape sig access explicit params
  | .contains | .remove => keyShape sig access explicit params
  | .clear => clearShape sig explicit params

/-- The member that a required method declares. -/
def memberOf (access adapters : List Attribute) : Except Diagnostic Member := do
  let (access, mark) ← accessOf sig access
  let explicit ← explicitKey sig mark
  let localAdapter ← localAdapterOf sig access adapters
  checkModifiers sig
  let params ← paramsAfterSelf sig
  let shape ← shapeOf sig access explicit params
  return {
    signature := sig
    access
    key := shape.key
    valueType := shape.valueType
    valueParam := shape.valueParam
    localAdapter
    storage := none
    adapter := none
    default := none }

end Members

/-! ### The whole declaration -/

open Report

/-- Reports the preference attributes of a provided method, which has none to generate. -/
def checkProvided (sig : Signature) (access adapters : List Attribute) : Report Unit := do
  match access with
  | mark :: _ => report (malformed sig mark.pos
      "preference methods are generated and must not have a body")
  | [] => pure ()
  match adapters with
  | mark :: _ => report (malformed sig mark.pos
      "#[adapter] only applies to generated preference methods")
  | [] => pure ()

/-- What an item declares: a default, a member, or nothing. -/
def declaredBy : TraitItem → Report (Option DefaultConst × Option Member)
  | .const item => do return ((← check (defaultOf item)).join, none)
  | .method item => do
    let access := item.attrs.filter isAccessAttr
    let adapters := item.attrs.filter isAdapterAttr
    if item.body.isSome then
      checkProvided item.signature access adapters
      return (none, none)
    else return (none, ← check (memberOf item.signature access adapters))
  | .other _ => pure (none, none)

/-- The adapters that a trait's attributes bind, after those in `bound`. A type has one adapter. -/
def bindAdapters (bound : List AdapterBinding) : List Attribute → Report (List AdapterBinding)
  | [] => pure bound
  | attr :: rest => do
    match ← check (adapterOf attr) with
    | none => bindAdapters bound rest
    | some binding =>
      if bound.any fun earlier => earlier.valueType.same binding.valueType then
        report (.declaration binding.pos
          ("`" ++ binding.valueType.shown ++ "` already has an adapter"))
        bindAdapters bound rest
      else bindAdapters (bound ++ [binding]) rest

/-- A name without the mark of a raw name. -/
def bareName (name : String) : String :=
  match "r#".toList.isPrefixOf? name.toList with
  | some rest => String.ofList rest
  | none => name

/-- The path of the runtime where no option names one. -/
def defaultRuntime : Path :=
  ⟨some Position.start, [.mk ⟨"typed_prefs", Position.start, by decide⟩ .none]⟩

/-- The schema of a trait in a namespace: what its attributes and its items declare. -/
def schemaIn (options : Options) (decl : TraitDecl) (namespaceName : TextLiteral) :
    Report Schema := do
  let adapters ← bindAdapters [] (decl.attrs.filter isAdapterAttr)
  let declared ← each declaredBy decl.items
  return {
    namespaceName
    implName := (options.implName.map (·.text)).getD (bareName decl.name.text ++ "Impl")
    runtime := options.runtime.getD defaultRuntime
    decl := cleaned decl
    members := declared.filterMap (·.2)
    defaults := declared.filterMap (·.1)
    adapters }

/-- The schema of a trait whose attribute has the given options. -/
def ofTrait (options : Options) (decl : TraitDecl) : Report Schema := do
  match options.namespaceName with
  | none =>
    fatal [.declaration Position.start "missing `name = \"...\"` in #[preferences]"]
  | some namespaceName =>
    if !decl.generics.isEmpty then
      report (.declaration decl.generics.pos "preference traits cannot be generic")
    schemaIn options decl namespaceName

/-- A value, or a report of all messages of the syntax error that took its place. -/
def orFatal (result : Except SyntaxError α) : Report α :=
  match result with
  | .ok value => done value
  | .error error => fatal (Diagnostic.ofMessages error.messages)

/-- The schema of a declaration: the arguments of the attribute, and the trait. -/
def parse (args item : List Tree) : Report Schema := do
  let options ← orFatal (Options.ofTrees args)
  let decl ← orFatal (Parser.parseAll TraitDecl.parser item Position.start)
  ofTrait options decl

end Preferences.Schema
