import Preferences.Sample.Values
import Preferences.Schema.Compile
import Preferences.Schema.Run

/-! Two sample declarations: settings of an application, and settings that need adapters. -/

namespace Preferences.Sample

open Preferences.Number Preferences.Source Preferences.Schema Preferences.Store

/-- The two declarations. -/
inductive Declaration where
  | settings
  | units
  deriving DecidableEq, Repr

/-- A trait with members on lines of their own. -/
def traitText (head : String) (members : List String) : String :=
  head ++ " \x7b\n" ++ String.join (members.map fun member => "    " ++ member ++ "\n") ++ "\x7d"

/-- A declaration that is compiled from its text. -/
def compiledText (args item : String) : Option Compiled := do
  let args ← Tree.ofText? args
  let item ← Tree.ofText? item
  (compile .failFast args item).toOption

/-! ### Settings of an application -/

def settingsMembers : List String :=
  ["#[default] const DEFAULT_USERNAME: &'static str = \"guest\";",
   "#[default] const DEFAULT_AGE: i32 = 0;",
   "#[default] const DEFAULT_DARK_MODE: bool = false;",
   "#[default] const DEFAULT_FONT_SCALE: f32 = 1.0;",
   "#[default(name = \"installed_at\")] const NEVER_INSTALLED: i64 = -1;",
   "#[get] fn get_username(&self) -> String;",
   "#[observe] fn observe_username(&self) -> Observable<String>;",
   "#[set] fn set_username(&self, value: &str);",
   "#[set_sync] fn set_username_sync(&self, value: String) -> Completion;",
   "#[get] fn get_age(&self) -> i32;",
   "#[observe] fn observe_age(&self) -> Observable<i32>;",
   "#[set_sync] fn set_age_sync(&self, value: i32) -> Completion;",
   "#[get] fn get_dark_mode(&self) -> bool;",
   "#[observe] fn observe_dark_mode(&self) -> Observable<bool>;",
   "#[set] fn set_dark_mode(&self, value: bool);",
   "#[set_sync] fn set_dark_mode_sync(&self, value: bool) -> Completion;",
   "#[get] fn get_font_scale(&self) -> f32;",
   "#[observe] fn observe_font_scale(&self) -> Observable<f32>;",
   "#[set] fn set_font_scale(&self, value: f32);",
   "#[set_sync] fn set_font_scale_sync(&self, value: f32) -> Completion;",
   "#[get(name = \"installed_at\")] fn installed_at(&self) -> i64;",
   "#[observe(name = \"installed_at\")] fn watch_install(&self) -> Observable<i64>;",
   "#[set(name = \"installed_at\")] fn mark_installed(&self, value: i64);",
   "#[set_sync(name = \"installed_at\")]",
   "fn mark_installed_now(&self, value: i64) -> Completion;",
   "#[contains(name = \"installed_at\")] fn is_installed(&self) -> bool;",
   "#[remove(name = \"installed_at\")] fn forget_install(&self);",
   "#[contains] fn contains_username(&self) -> bool;",
   "#[contains] fn has(&self, key: &str) -> bool;",
   "#[remove] fn remove_username(&self);",
   "#[remove] fn remove(&self, key: &str);",
   "#[clear] fn clear(&self);"]

def settingsConstant (const : DefaultConst) : Datum Custom :=
  match const.name.text with
  | "DEFAULT_USERNAME" => .native (.string "guest")
  | "DEFAULT_AGE" => .native (.integer 0)
  | "DEFAULT_DARK_MODE" => .native (.boolean false)
  | "DEFAULT_FONT_SCALE" => .native (.float (.ofInt 1))
  | _ => .native (.long (-1))

def settings : Option Compiled :=
  compiledText "name = \"app-settings\"" (traitText "pub trait AppSettings" settingsMembers)

/-! ### Settings that need adapters -/

def unitsMembers : List String :=
  ["#[default(name = \"enum\")] const DEFAULT_ENUM: Type = Type::Three;",
   "#[default] const DEFAULT_DISTANCE: Unit = Unit::Metric;",
   "#[default] const DEFAULT_WEIGHT: Unit = Unit::Metric;",
   "#[get(name = \"enum\")] fn get_enum(&self) -> Type;",
   "#[observe(name = \"enum\")] fn observe_enum(&self) -> Observable<Type>;",
   "#[set(name = \"enum\")] fn set_enum(&self, value: Type);",
   "#[get] fn get_distance(&self) -> Unit;",
   "#[observe] fn observe_distance(&self) -> Observable<Unit>;",
   "#[set] fn set_distance(&self, value: Unit);",
   "#[get] #[adapter(Unit => ImperialOnly)] fn get_weight(&self) -> Unit;",
   "#[observe] #[adapter(Unit => ImperialOnly)] fn observe_weight(&self) -> Observable<Unit>;",
   "#[set] fn set_weight(&self, value: Unit);",
   "#[set(name = \"weight\")] #[adapter(Unit => ImperialOnly)]",
   "fn force_weight(&self, value: Unit);"]

def unitsConstant (const : DefaultConst) : Datum Custom :=
  match const.name.text with
  | "DEFAULT_ENUM" => .adapted (.choice .three)
  | _ => .adapted (.units .metric)

def units : Option Compiled :=
  compiledText "name = \"units\", impl_name = \"Adapted\""
    (traitText
      "#[adapter(Type => TypeAdapter)] #[adapter(Unit => ParseAdapter)] pub trait AdaptedSchema"
      unitsMembers)

/-- The adapter that a path stands for. -/
def adapterOf (bound : AdapterBinding) : Adapter Custom :=
  match Code.text bound.adapter.code with
  | "TypeAdapter" => Custom.ordinalAdapter
  | "ParseAdapter" => Custom.nameAdapter
  | _ => Custom.imperialAdapter

/-- The value of a declared type that a name means. -/
def customOf (bound : AdapterBinding) (name : String) : Custom :=
  match Code.text bound.valueType.code with
  | "Type" => .choice (.ofName name)
  | _ => .units ((Units.ofName? name).getD .metric)

/-! ### Methods -/

namespace Declaration

def compiled? : Declaration → Option Compiled
  | settings => Preferences.Sample.settings
  | units => Preferences.Sample.units

def meaning : Declaration → Meaning Custom
  | settings => ⟨settingsConstant, adapterOf⟩
  | units => ⟨unitsConstant, adapterOf⟩

def call? (declaration : Declaration) (method : String) : Option Call := do
  let accessor ← (← declaration.compiled?).methods.find? (·.signature.name.text = method)
  return accessor.call

/-- What a setter stores: a value of a kind, or one for an adapter. -/
def written? (declaration : Declaration) (method : String) : Option (Kind ⊕ AdapterBinding) := do
  match ← declaration.call? method with
  | .write _ kind _ _ => some (.inl kind)
  | .adapterWrite bound _ _ => some (.inr bound)
  | _ => none

def namespaceName (declaration : Declaration) : String :=
  (declaration.compiled?.map (·.schema.namespaceName.value)).getD ""

/-- The method of the application's settings that is written out: the name and the age. -/
def summary (read : String → Given Custom × Store × List Event) : String × List Event :=
  let shown (given : Given Custom) : String :=
    match given with
    | .datum (.native (.string s)) => s
    | .datum (.native (.integer n)) => toString n.toInt
    | _ => ""
  let (name, _, events) := read "get_username"
  let (age, _, more) := read "get_age"
  (shown name ++ ":" ++ shown age, events ++ more)

/-- Calls a method by its name. Besides the generated methods there are the constant of the
namespace, and for the application's settings the summary and a look at the wrapped store. -/
def invoke (declaration : Declaration) (permission : Permission) (passed : Passed Custom)
    (store : Store) (method : String) : Given Custom × Store × List Event :=
  let generated (method : String) : Given Custom × Store × List Event :=
    match declaration.call? method with
    | some call => call.run declaration.meaning permission passed store
    | none => (.illTyped, store, [])
  match declaration, method with
  | _, "NAMESPACE" => (.datum (.native (.string declaration.namespaceName)), store, [])
  | .settings, "summary" =>
    let (text, events) := summary generated
    (.datum (.native (.string text)), store, events)
  | .settings, "gateway" | .settings, "into_gateway" =>
    (.flag (store.values.contains passed.key), store, [])
  | _, method => generated method

end Declaration

end Preferences.Sample
