import Preferences.Source.SyntaxError
import Preferences.Text.Quoted

/-! Diagnostics, and computations that report them.

A report stops at the first problem or collects all of them, as its mode says. -/

namespace Preferences.Schema

open Preferences.Source

/-- All that can make a declaration fail. -/
inductive Problem where
  | unsupportedType (method ty reason : String)
  | missingDefault (method key ty hint : String)
  | ambiguousDefault (method key ty : String) (count : Nat)
  | missingAdapter (method ty reason : String)
  | malformedMember (method reason : String)
  | conflictingKey (key first second : String)
  | malformedDeclaration (reason : String)
  deriving DecidableEq, Repr

def Problem.message : Problem → String
  | unsupportedType method ty reason =>
    "unsupported preference type `" ++ ty ++ "` in `" ++ method ++ "`: " ++ reason
  | missingDefault method key ty hint =>
    "`" ++ method ++ "` needs a default for key \"" ++ key ++ "\" of type `" ++ ty ++ "`" ++ hint
  | ambiguousDefault method key ty count =>
    "`" ++ method ++ "` has " ++ toString count ++ " candidate defaults for key \"" ++ key ++
      "\" of type `" ++ ty ++ "`, expected exactly one"
  | missingAdapter method ty reason =>
    "`" ++ method ++ "` stores `" ++ ty ++ "`, which needs an adapter: " ++ reason
  | malformedMember method reason =>
    "malformed preference method `" ++ method ++ "`: " ++ reason
  | conflictingKey key first second =>
    "key \"" ++ key ++ "\" is declared as `" ++ first ++ "` and as `" ++ second ++ "`"
  | malformedDeclaration reason => reason

/-- A problem where it stands, with notes on other places. -/
structure Diagnostic where
  problem : Problem
  pos : Position
  notes : List (Position × String)
  deriving DecidableEq, Repr

namespace Diagnostic

def ofProblem (pos : Position) (problem : Problem) : Diagnostic := ⟨problem, pos, []⟩

def member (pos : Position) (method reason : String) : Diagnostic :=
  ofProblem pos (.malformedMember method reason)

def declaration (pos : Position) (reason : String) : Diagnostic :=
  ofProblem pos (.malformedDeclaration reason)

/-- The diagnostics of an error: one for each of its messages. -/
def ofMessages (messages : List (Position × String)) : List Diagnostic :=
  messages.map fun (pos, message) => declaration pos message

/-- The texts that a user sees: the message, then the notes. -/
def texts (d : Diagnostic) : List String := d.problem.message :: d.notes.map (·.2)

/-- The code that makes a compilation fail with `text`. -/
def failure (text : String) : Code :=
  Code.words ["::", "core", "::", "compile_error", "!"] ++ [.braces [.plain (Text.literal text)]]

/-- The code that shows all texts of all diagnostics. -/
def failures (ds : List Diagnostic) : Code := (ds.flatMap texts).flatMap failure

end Diagnostic

/-! ### Reports -/

inductive Mode where
  | failFast
  | collectAll
  deriving DecidableEq, Repr

/-- What a computation gave, if it was not aborted, and what it reported. -/
structure Outcome (α : Type) where
  value : Option α
  reported : List Diagnostic

/-- A computation that may report diagnostics and abort. -/
def Report (α : Type) : Type := Mode → Outcome α

namespace Report

def done (value : α) : Report α := fun _ => ⟨some value, []⟩

/-- Goes on with `f`, unless the first part was aborted. -/
def andThen (r : Report α) (f : α → Report β) : Report β := fun mode =>
  let first := r mode
  match first.value with
  | none => ⟨none, first.reported⟩
  | some value =>
    let second := f value mode
    ⟨second.value, first.reported ++ second.reported⟩

instance : Monad Report where
  pure := done
  bind := andThen

/-- Reports a diagnostic and goes on where the mode allows it. -/
def report (d : Diagnostic) : Report Unit := fun
  | .failFast => ⟨none, [d]⟩
  | .collectAll => ⟨some (), [d]⟩

/-- Reports diagnostics after which nothing can go on. -/
def fatal (ds : List Diagnostic) : Report α := fun _ => ⟨none, ds⟩

/-- The value of a step, whose diagnostic is reported if it has none. -/
def check (result : Except Diagnostic α) : Report (Option α) :=
  match result with
  | .ok value => done (some value)
  | .error d => andThen (report d) fun _ => done none

/-- Runs `f` for each element in turn. -/
def each (f : α → Report β) : List α → Report (List β)
  | [] => done []
  | a :: rest => andThen (f a) fun b => andThen (each f rest) fun bs => done (b :: bs)

/-- Aborts after a computation that reported anything. -/
def clean (r : Report α) : Report α := fun mode =>
  let outcome := r mode
  if outcome.reported.isEmpty then outcome else ⟨none, outcome.reported⟩

end Report

/-! ### Passes -/

/-- A value as a pass over it left it, and what the pass reported. An aborted pass leaves a value
too: the part of its work that was done. -/
structure Pass (α : Type) where
  value : α
  reported : List Diagnostic
  aborted : Bool

namespace Pass

/-- A list with its elements changed by `step`, in turn. A pass that is aborted at a diagnostic
leaves the elements after it as they were. -/
def overList (step : α → α × Option Diagnostic) (mode : Mode) : List α → Pass (List α)
  | [] => ⟨[], [], false⟩
  | a :: rest =>
    match step a, mode with
    | (b, none), _ =>
      let others := overList step mode rest
      ⟨b :: others.value, others.reported, others.aborted⟩
    | (b, some d), .failFast => ⟨b :: rest, [d], true⟩
    | (b, some d), .collectAll =>
      let others := overList step mode rest
      ⟨b :: others.value, d :: others.reported, others.aborted⟩

def map (f : α → β) (pass : Pass α) : Pass β := ⟨f pass.value, pass.reported, pass.aborted⟩

end Pass

end Preferences.Schema
