import Mathlib.Data.List.Forall2
import Preferences.Schema.Diagnostic

/-! Laws of reports. `Returns` says that a computation has a value, whatever it reports, and `Gives`
that it has one and nothing to report; both are taken apart along the ways of combining reports.
`Report.Lawful` relates the two modes: a fail-fast run is the run that collects everything, ended at
its first diagnostic, and no run ends early without one. All ways of combining reports keep it. -/

namespace Preferences.Schema

theorem exists_mem_of_forall₂ {R : α → β → Prop} {as : List α} {bs : List β} {b : β}
    (h : List.Forall₂ R as bs) (hb : b ∈ bs) : ∃ a ∈ as, R a b := by
  induction h with
  | nil => cases hb
  | cons hab _ ih =>
    rcases List.mem_cons.1 hb with rfl | hb
    · exact ⟨_, List.mem_cons_self, hab⟩
    · obtain ⟨a, ha, hr⟩ := ih hb
      exact ⟨a, List.mem_cons_of_mem _ ha, hr⟩

theorem getElem?_of_forall₂ {R : α → β → Prop} {as : List α} {bs : List β}
    (h : List.Forall₂ R as bs) (i : Nat) :
    (as[i]? = none ∧ bs[i]? = none) ∨ ∃ a b, as[i]? = some a ∧ bs[i]? = some b ∧ R a b := by
  induction h generalizing i with
  | nil => exact .inl ⟨rfl, rfl⟩
  | cons hab _ ih =>
    cases i with
    | zero => exact .inr ⟨_, _, rfl, rfl, hab⟩
    | succ i => exact ih i

/-! ### Values -/

/-- The computation was not aborted and has the value `a`. -/
def Returns (r : Report α) (mode : Mode) (a : α) : Prop := (r mode).value = some a

namespace Report

theorem returns_done {mode : Mode} {a b : α} : Returns (done a) mode b ↔ a = b := by
  simp [Returns, done]

theorem returns_andThen {mode : Mode} {r : Report α} {f : α → Report β} {b : β} :
    Returns (andThen r f) mode b ↔ ∃ a, Returns r mode a ∧ Returns (f a) mode b := by
  unfold Returns andThen
  obtain ⟨value, reported⟩ := r mode
  cases value <;> simp

theorem returns_bind {mode : Mode} {r : Report α} {f : α → Report β} {b : β} :
    Returns (r >>= f) mode b ↔ ∃ a, Returns r mode a ∧ Returns (f a) mode b :=
  returns_andThen

theorem returns_pure {mode : Mode} {a b : α} : Returns (pure a : Report α) mode b ↔ a = b :=
  returns_done

theorem not_returns_fatal {mode : Mode} {ds : List Diagnostic} {a : α} :
    ¬Returns (fatal ds) mode a := by
  simp [Returns, fatal]

/-- Only a step that succeeds has a value. -/
theorem returns_check_some {mode : Mode} {result : Except Diagnostic α} {a : α} :
    Returns (check result) mode (some a) ↔ result = .ok a := by
  cases result with
  | ok b => simp [check, returns_done]
  | error d => simp [check, returns_andThen, returns_done]

theorem returns_each {mode : Mode} {f : α → Report β} {as : List α} {bs : List β} :
    Returns (each f as) mode bs ↔ List.Forall₂ (fun a b => Returns (f a) mode b) as bs := by
  induction as generalizing bs with
  | nil => simp [each, returns_done, eq_comm]
  | cons a as ih =>
    simp only [each, returns_andThen, returns_done, ih, List.forall₂_cons_left_iff]
    constructor
    · rintro ⟨b, hb, rest, hrest, rfl⟩
      exact ⟨b, rest, hb, hrest, rfl⟩
    · rintro ⟨b, rest, hb, hrest, rfl⟩
      exact ⟨b, hb, rest, hrest, rfl⟩

end Report

/-! ### Computations without a diagnostic -/

/-- The computation has the value `a` and reports nothing. -/
def Gives (r : Report α) (mode : Mode) (a : α) : Prop := r mode = ⟨some a, []⟩

theorem Gives.returns {r : Report α} {mode : Mode} {a : α} (h : Gives r mode a) :
    Returns r mode a := congrArg Outcome.value h

namespace Report

theorem gives_done {mode : Mode} {a b : α} : Gives (done a) mode b ↔ a = b := by
  simp [Gives, done]

theorem gives_andThen {mode : Mode} {r : Report α} {f : α → Report β} {b : β} :
    Gives (andThen r f) mode b ↔ ∃ a, Gives r mode a ∧ Gives (f a) mode b := by
  unfold Gives andThen
  obtain ⟨value, reported⟩ := r mode
  cases value with
  | none => simp
  | some a =>
    simp only [Outcome.mk.injEq, List.append_eq_nil_iff, Option.some.injEq]
    constructor
    · rintro ⟨hvalue, rfl, hmore⟩
      exact ⟨a, ⟨rfl, rfl⟩, by rw [← hvalue, ← hmore]⟩
    · rintro ⟨_, ⟨rfl, rfl⟩, h⟩
      exact ⟨by rw [h], rfl, by rw [h]⟩

theorem gives_bind {mode : Mode} {r : Report α} {f : α → Report β} {b : β} :
    Gives (r >>= f) mode b ↔ ∃ a, Gives r mode a ∧ Gives (f a) mode b :=
  gives_andThen

theorem gives_pure {mode : Mode} {a b : α} : Gives (pure a : Report α) mode b ↔ a = b :=
  gives_done

theorem not_gives_report {mode : Mode} {d : Diagnostic} {u : Unit} : ¬Gives (report d) mode u := by
  cases mode <;> simp [Gives, report]

theorem gives_check {mode : Mode} {result : Except Diagnostic α} {found : Option α} :
    Gives (check result) mode found ↔ ∃ a, result = .ok a ∧ found = some a := by
  cases result with
  | ok a => simp [check, gives_done, eq_comm]
  | error d => simp [check, gives_andThen, not_gives_report]

theorem gives_each {mode : Mode} {f : α → Report β} {as : List α} {bs : List β} :
    Gives (each f as) mode bs ↔ List.Forall₂ (fun a b => Gives (f a) mode b) as bs := by
  induction as generalizing bs with
  | nil => simp [each, gives_done, eq_comm]
  | cons a as ih =>
    simp only [each, gives_andThen, gives_done, ih, List.forall₂_cons_left_iff]
    constructor
    · rintro ⟨b, hb, rest, hrest, rfl⟩
      exact ⟨b, rest, hb, hrest, rfl⟩
    · rintro ⟨b, rest, hb, hrest, rfl⟩
      exact ⟨b, hb, rest, hrest, rfl⟩

theorem gives_clean {mode : Mode} {r : Report α} {a : α} :
    Gives (clean r) mode a ↔ Gives r mode a := by
  unfold Gives clean
  obtain ⟨value, reported⟩ := r mode
  cases reported <;> simp

end Report

/-! ### The two modes -/

/-- An outcome, ended at its first diagnostic. -/
def Outcome.upToFirst (outcome : Outcome α) : Outcome α :=
  match outcome.reported with
  | [] => outcome
  | d :: _ => ⟨none, [d]⟩

/-- A fail-fast run is the collecting run ended at its first diagnostic, and the collecting run is
aborted only after a diagnostic. -/
structure Report.Lawful (r : Report α) : Prop where
  failFast : r .failFast = (r .collectAll).upToFirst
  ne_nil : (r .collectAll).value = none → (r .collectAll).reported ≠ []

namespace Report.Lawful

theorem done (a : α) : Lawful (Report.done a) := ⟨rfl, by simp [Report.done]⟩

theorem report (d : Diagnostic) : Lawful (Report.report d) := ⟨rfl, by simp [Report.report]⟩

/-- A report after which nothing goes on, of one diagnostic. -/
theorem fatal (d : Diagnostic) : Lawful (Report.fatal [d] : Report α) :=
  ⟨rfl, by simp [Report.fatal]⟩

theorem andThen {r : Report α} {f : α → Report β} (hr : Lawful r) (hf : ∀ a, Lawful (f a)) :
    Lawful (Report.andThen r f) := by
  obtain ⟨hfail, hne⟩ := hr
  rcases hcollect : r .collectAll with ⟨value, reported⟩
  rw [hcollect] at hfail hne
  cases reported with
  | cons d ds =>
    -- The first part has reported: a fail-fast run has ended, whatever comes behind.
    constructor
    · cases value <;> simp [Report.andThen, hfail, hcollect, Outcome.upToFirst]
    · cases value <;> simp [Report.andThen, hcollect]
  | nil =>
    cases value with
    | none => exact absurd rfl (hne rfl)
    | some a =>
      constructor
      · simp [Report.andThen, hfail, hcollect, Outcome.upToFirst, (hf a).failFast]
      · simpa [Report.andThen, hcollect] using (hf a).ne_nil

theorem bind {r : Report α} {f : α → Report β} (hr : Lawful r) (hf : ∀ a, Lawful (f a)) :
    Lawful (r >>= f) :=
  hr.andThen hf

theorem pure (a : α) : Lawful (Pure.pure a : Report α) := done a

theorem check (result : Except Diagnostic α) : Lawful (Report.check result) := by
  cases result with
  | ok a => exact done (some a)
  | error d => exact (report d).andThen fun _ => done none

theorem each {f : α → Report β} (hf : ∀ a, Lawful (f a)) (as : List α) :
    Lawful (Report.each f as) := by
  induction as with
  | nil => exact done []
  | cons a as ih => exact (hf a).andThen fun b => ih.andThen fun bs => done (b :: bs)

theorem clean {r : Report α} (hr : Lawful r) : Lawful (Report.clean r) := by
  obtain ⟨hfail, hne⟩ := hr
  rcases hcollect : r .collectAll with ⟨value, reported⟩
  rw [hcollect] at hfail hne
  cases reported with
  | nil => exact ⟨by simp [Report.clean, hfail, hcollect, Outcome.upToFirst],
      by simpa [Report.clean, hcollect] using hne⟩
  | cons d ds => exact ⟨by simp [Report.clean, hfail, hcollect, Outcome.upToFirst],
      by simp [Report.clean, hcollect]⟩

/-- In neither mode is a computation aborted without a diagnostic. -/
theorem reported_ne_nil {r : Report α} (hr : Lawful r) {mode : Mode} (h : (r mode).value = none) :
    (r mode).reported ≠ [] := by
  cases mode with
  | collectAll => exact hr.ne_nil h
  | failFast =>
    rw [hr.failFast] at h ⊢
    unfold Outcome.upToFirst at h ⊢
    split
    · rename_i hnil
      rw [hnil] at h
      exact absurd hnil (hr.ne_nil h)
    · simp

/-- A computation without a diagnostic has a value. -/
theorem gives_of_reported_nil {r : Report α} (hr : Lawful r) {mode : Mode}
    (h : (r mode).reported = []) : ∃ a, Gives r mode a := by
  cases hvalue : (r mode).value with
  | none => exact absurd h (hr.reported_ne_nil hvalue)
  | some a => exact ⟨a, by rw [Gives, ← hvalue, ← h]⟩

theorem gives_iff {r : Report α} (hr : Lawful r) {a : α} :
    Gives r .failFast a ↔ Gives r .collectAll a := by
  unfold Gives
  rw [hr.failFast]
  obtain ⟨value, reported⟩ := r .collectAll
  cases reported <;> simp [Outcome.upToFirst]

end Report.Lawful

end Preferences.Schema
