import Preferences.Proofs.Contents
import Preferences.Proofs.Watching
import Preferences.Proofs.Widening

/-! Puts, in every session that any steps lead to. A put is read back through all handles of its
store, unless the key held the zero of the other sign; and a put that is repeated does nothing,
unless its value is no number. Both are what the comparison of a put with the held value makes of
floats: it tells the two zeros not apart, and no NaN from anything. -/

namespace Preferences.Store

open Preferences.Number

/-! ### What the comparison does not tell apart -/

/-- One of two values is the float zero without a sign, and the other the one with a sign. -/
def Value.OppositeZeros (a b : Value) : Prop :=
  ∃ x y : Binary32, a = .float x ∧ b = .float y ∧ x.magnitude = 0 ∧ y.magnitude = 0 ∧
    x.isNegative ≠ y.isNegative

theorem Value.OppositeZeros.ne {a b : Value} (h : a.OppositeZeros b) : a ≠ b := by
  rintro rfl
  obtain ⟨x, y, rfl, hy, -, -, hsign⟩ := h
  cases hy
  exact hsign rfl

/-- Values that compare equal are equal, but for the two zeros. -/
theorem Value.eq_or_oppositeZeros {a b : Value} (h : a.equals b = true) :
    a = b ∨ a.OppositeZeros b := by
  cases a <;> cases b <;> simp only [equals, decide_eq_true_eq, Bool.false_eq_true] at h
  case float x y =>
    simp only [Binary32.equals, Bool.and_eq_true, Bool.or_eq_true, decide_eq_true_eq] at h
    obtain ⟨-, hbits | ⟨hx, hy⟩⟩ := h
    · exact .inl (congrArg float (congrArg Binary32.mk hbits))
    · by_cases hsign : x.isNegative = y.isNegative
      · exact .inl (congrArg float (Binary32.eq_of_magnitude (hx.trans hy.symm) hsign))
      · exact .inr ⟨x, y, rfl, rfl, hx, hy, hsign⟩
  all_goals exact .inl (congrArg _ h)

theorem Value.equals_of_oppositeZeros {a b : Value} (h : a.OppositeZeros b) :
    a.equals b = true := by
  obtain ⟨x, y, rfl, rfl, hx, hy, -⟩ := h
  simp [equals, Binary32.equals, Binary32.isNaN, hx, hy]

/-- Only a NaN does not compare equal to itself. -/
theorem Value.equals_self (a : Value) : a.equals a = !a.isNaN := by
  cases a with
  | float x => cases hnan : x.isNaN <;> simp [equals, isNaN, Binary32.equals, hnan]
  | boolean | integer | long | string => simp [equals, isNaN]

theorem Value.equals_of_isNaN {a b : Value} (h : b.isNaN = true) : a.equals b = false := by
  cases a <;> cases b <;> simp_all [equals, isNaN, Binary32.equals]

/-! ### Writes -/

theorem write_of_equals {store : Store} {key : String} {held value : Value}
    (hheld : store.values.get? key = some held) (hequal : held.equals value = true) :
    store.write key value = (store, []) := by
  rw [write, hheld, Option.any_some, if_pos hequal]

/-- A value that compares equal to nothing that is held is stored and published. -/
theorem write_of_not_equals {store : Store} {key : String} {value : Value}
    (h : (store.values.get? key).any (·.equals value) = false) :
    store.write key value =
      (({ store with values := store.values.insert key value }.publish ⟨key, some value⟩).1,
        .storing key value.kind ::
          ({ store with values := store.values.insert key value }.publish
            ⟨key, some value⟩).2) := by
  rw [write, if_neg (by simp [h])]

/-- After a write the key holds the very value, unless it held the other zero. -/
theorem write_get?_exact (store : Store) (key : String) (value : Value) :
    ∃ stored, (store.write key value).1.values.get? key = some stored ∧
      stored.kind = value.kind ∧
      (stored = value ↔
        ∀ held, store.values.get? key = some held → ¬held.OppositeZeros value) := by
  rw [write_values]
  split
  · rename_i hequal
    obtain ⟨held, hheld, hequal⟩ := (Option.any_eq_true _ _).1 hequal
    refine ⟨held, hheld, Value.kind_eq_of_equals hequal, ?_⟩
    rw [hheld]
    constructor
    · rintro rfl _ ⟨⟩ hzeros
      exact hzeros.ne rfl
    · intro hnot
      exact (Value.eq_or_oppositeZeros hequal).resolve_right (hnot held rfl)
  · rename_i hequal
    refine ⟨value, by rw [Entries.get?_insert, if_pos rfl], rfl, iff_of_true rfl ?_⟩
    intro held hheld hzeros
    rw [hheld, Option.any_some, Value.equals_of_oppositeZeros hzeros] at hequal
    exact hequal rfl

/-- After a write the key holds a value that compares equal to it, unless it is a NaN. -/
theorem write_again {value : Value} (hnan : value.isNaN = false) (store : Store) (key : String) :
    (store.write key value).1.write key value = ((store.write key value).1, []) := by
  cases hequal : (store.values.get? key).any (·.equals value) with
  | true =>
    obtain ⟨held, hheld, hequal⟩ := (Option.any_eq_true _ _).1 hequal
    rw [write_of_equals hheld hequal, write_of_equals hheld hequal]
  | false =>
    have hstored : (store.write key value).1.values.get? key = some value := by
      rw [write_values, hequal, if_neg Bool.false_ne_true, Entries.get?_insert, if_pos rfl]
    exact write_of_equals hstored (by rw [Value.equals_self, hnan]; rfl)

/-- A NaN is stored and published every time, though from the second time on the values stay. -/
theorem write_nan_again {value : Value} (hnan : value.isNaN = true) (store : Store)
    (key : String) :
    (store.write key value).1.write key value =
      (((store.write key value).1.publish ⟨key, some value⟩).1,
        .storing key value.kind :: ((store.write key value).1.publish ⟨key, some value⟩).2) := by
  have hnot (store : Store) : (store.values.get? key).any (·.equals value) = false := by
    cases store.values.get? key with
    | none => rfl
    | some held => exact Value.equals_of_isNaN hnan
  have hstored : (store.write key value).1.values.insert key value =
      (store.write key value).1.values := by
    rw [Entries.insert_of_get?]
    rw [write_values, hnot, if_neg Bool.false_ne_true, Entries.get?_insert, if_pos rfl]
  rw [write_of_not_equals (hnot _), hstored]

end Preferences.Store

namespace Preferences.Session

open Preferences.Store

/-! ### Sessions that steps lead to -/

/-- The session after some steps, one after another, from the start. -/
def reached (steps : List Step) : Session :=
  steps.foldl (fun session step => (session.step step).2.1) start

/-- Every handle leads to a store. -/
def Linked (session : Session) : Prop :=
  ∀ handle number, session.storeOf? handle = some number → number < session.stores.length

section Linked

variable {session : Session}

theorem linked_start : start.Linked := by
  intro handle number h
  cases handle with
  | zero =>
    cases h
    exact Nat.zero_lt_one
  | succ handle => cases h

/-- Whether a session is linked is a matter of its handles and the number of its stores. -/
theorem Linked.of_le {next : Session} (h : session.Linked)
    (hhandles : next.handles = session.handles)
    (hstores : session.stores.length ≤ next.stores.length) : next.Linked := by
  intro handle number hnumber
  rw [storeOf?, hhandles] at hnumber
  exact Nat.lt_of_lt_of_le (h handle number hnumber) hstores

theorem Linked.setStore (h : session.Linked) (number : Nat) (store : Store) :
    (session.setStore number store).Linked :=
  h.of_le rfl (by rw [Session.setStore, List.length_set])

theorem Linked.addStream (h : session.Linked) (number : Nat) (stream : Stream Value) :
    (session.addStream number stream).2.Linked :=
  h.of_le rfl (Nat.le_refl _)

theorem Linked.setStream (h : session.Linked) (number : Nat)
    (stream : Option (Nat × Stream Value)) : (session.setStream number stream).Linked :=
  h.of_le rfl (Nat.le_refl _)

/-- A handle is added that leads to a store. -/
theorem Linked.addHandle (h : session.Linked) {stores : List Store} {number : Nat}
    (hstores : session.stores.length ≤ stores.length) (hnumber : number < stores.length) :
    Linked { session with stores, handles := session.handles ++ [some number] } := by
  intro handle found hfound
  obtain hold | ⟨-, hnew⟩ := eq_of_getElem?_concat (Option.join_eq_some_iff.1 hfound)
  · exact Nat.lt_of_lt_of_le (h handle found (Option.join_eq_some_iff.2 hold)) hstores
  · exact Option.some.inj hnew ▸ hnumber

theorem Linked.addStore (h : session.Linked) (store : Store) : (session.addStore store).2.Linked :=
  h.addHandle (by simp) (by simp)

theorem Linked.close (h : session.Linked) (handle : Nat) :
    Linked { session with handles := session.handles.set handle none } := by
  intro other number hnumber
  rw [storeOf?, List.getElem?_set] at hnumber
  split at hnumber
  · split at hnumber <;> cases hnumber
  · exact h other number hnumber

theorem Linked.withText (h : session.Linked) (codec : Codec String) (text : String)
    {go : String → Answer × Session × List Event} (hgo : ∀ usual, (go usual).2.1.Linked) :
    (session.withText codec text go).2.1.Linked := by
  unfold Session.withText
  split
  · exact hgo _
  · exact h

theorem Linked.give (h : session.Linked) (number : Nat) (awaited : Bool)
    (given : Schema.Given Sample.Custom) : (session.give number awaited given).2.Linked := by
  cases given with
  | stream stream => exact h.addStream number _
  | nothing | datum | completion | flag | illTyped => exact h

theorem Linked.act (h : session.Linked) (handle : Nat) {number : Nat} (permission : Permission)
    (action : Action) (hnumber : number < session.stores.length) :
    (session.act handle number permission action).2.1.Linked := by
  cases action with
  | clone => exact h.addHandle (Nat.le_refl _) hnumber
  | close => exact h.close handle
  | put | putSync | remove | clear => exact h.setStore number _
  | get | contains | stored | dump => exact h
  | observe => exact (h.setStore number _).addStream number _
  | adapterGet codec _ text | adapterPut codec _ text =>
    exact h.withText codec text fun _ => h.setStore number _
  | adapterObserve codec _ text =>
    exact h.withText codec text fun _ => (h.setStore number _).addStream number _
  | call => exact (h.setStore number _).give number _ _

/-- Every step keeps all handles on stores. -/
theorem Linked.step (h : session.Linked) (step : Step) : (session.step step).2.1.Linked := by
  cases step with
  | new => exact h.addStore _
  | load text =>
    unfold Session.step
    dsimp only
    split
    · exact h.addStore _
    · exact h
  | poll stream count =>
    unfold Session.step
    dsimp only
    split
    · exact h
    · exact (h.setStore _ _).setStream stream _
  | hint stream =>
    unfold Session.step
    dsimp only
    split <;> exact h
  | drop stream =>
    unfold Session.step
    dsimp only
    split
    · exact h
    · exact (h.setStore _ _).setStream stream _
  | act handle permission action =>
    unfold Session.step
    dsimp only
    split
    · exact h
    · exact h
    · rename_i number action hhandle
      exact h.act handle permission action (h handle number hhandle)
  | unknown => exact h

end Linked

theorem reached_linked (steps : List Step) : (reached steps).Linked := by
  have hfrom (session : Session) (h : session.Linked) :
      (steps.foldl (fun session step => (session.step step).2.1) session).Linked := by
    induction steps generalizing session with
    | nil => exact h
    | cons step rest ih => exact ih _ (h.step step)
  exact hfrom start linked_start

/-! ### Puts -/

/-- The steps that put a value through a handle, plainly or in sync. -/
inductive Puts (handle : Nat) (key : String) (value : Value) : Step → Prop where
  | plain : Puts handle key value (.act handle .full (some (.put key value)))
  | sync (awaited : Bool) :
      Puts handle key value (.act handle .full (some (.putSync key value awaited)))

section Puts

variable {session : Session} {handle number : Nat} {key : String} {value : Value} {put : Step}

theorem Puts.step_eq (h : Puts handle key value put)
    (hhandle : session.storeOf? handle = some number) :
    (session.step put).2 = (session.setStore number ((session.store number).write key value).1,
      ((session.store number).write key value).2) := by
  cases h <;> simp [Session.step, hhandle, Session.act, Permission.put, Permission.putSync]

theorem store_setStore (hnumber : number < session.stores.length) (store : Store) :
    (session.setStore number store).store number = store := by
  simp [Session.store, setStore, hnumber]

theorem setStore_store (session : Session) (number : Nat) :
    session.setStore number (session.store number) = session := by
  obtain ⟨stores, handles, streams⟩ := session
  simp only [setStore, Session.store, Session.mk.injEq, and_true]
  refine List.ext_getElem (List.length_set ..) fun i _ hi => ?_
  rw [List.getElem_set]
  split
  · rename_i hsame
    subst hsame
    rw [List.getD_eq_getElem?_getD, List.getElem?_eq_getElem hi, Option.getD_some]
  · rfl

end Puts

/-- What a handle answers to an action. -/
def asked (session : Session) (handle : Nat) (action : Action) : Answer :=
  (session.step (.act handle .full (some action))).1

section Answers

variable {session : Session} {handle number : Nat}

theorem asked_stored (hhandle : session.storeOf? handle = some number) (key : String) :
    session.asked handle (.stored key) = .held ((session.store number).values.get? key) := by
  simp [asked, Session.step, hhandle, Session.act]

theorem asked_contains (hhandle : session.storeOf? handle = some number) (key : String) :
    session.asked handle (.contains key) =
      .value (.boolean ((session.store number).values.get? key).isSome) := by
  simp [asked, Session.step, hhandle, Session.act, Entries.contains]

theorem asked_get (hhandle : session.storeOf? handle = some number) (key : String)
    (fallback : Value) : session.asked handle (.get key fallback) =
      .value (decode key ((session.store number).values.get? key) fallback).1 := by
  simp [asked, Session.step, hhandle, Session.act, Store.read]

end Answers

theorem decode_some (key : String) (stored fallback : Value) :
    (decode key (some stored) fallback).1 =
      if fallback.kind = stored.kind then stored else fallback := by
  simp only [decode, @eq_comm _ fallback.kind]
  split <;> rfl

/-- In every session: what a put stores is found by every handle of the store, with the kind of the
value that was put, and by readers of that kind only; no other key changes. What is stored is the
very value that was put if and only if the key did not hold the zero of the other sign. -/
theorem put_read_back (steps : List Step) {handle number : Nat} {key : String} {value : Value}
    {put : Step} (hput : Puts handle key value put)
    (hhandle : (reached steps).storeOf? handle = some number) :
    let before := reached steps
    let after := (before.step put).2.1
    ∃ stored, stored.kind = value.kind ∧
      (∀ reader, before.storeOf? reader = some number →
        after.asked reader (.stored key) = .held (some stored) ∧
        (∀ fallback, after.asked reader (.get key fallback) =
          .value (if fallback.kind = value.kind then stored else fallback)) ∧
        after.asked reader (.contains key) = .value (.boolean true) ∧
        ∀ other, other ≠ key →
          after.asked reader (.stored other) = before.asked reader (.stored other)) ∧
      (stored = value ↔ ∀ held, before.asked handle (.stored key) = .held (some held) →
        ¬held.OppositeZeros value) := by
  intro before after
  have hstores : (after.store number) = ((before.store number).write key value).1 := by
    show Session.store (before.step put).2.1 number = _
    rw [hput.step_eq hhandle, store_setStore (reached_linked steps handle number hhandle)]
  have hhandles (reader : Nat) : after.storeOf? reader = before.storeOf? reader := by
    show Session.storeOf? (before.step put).2.1 reader = _
    rw [hput.step_eq hhandle]
    rfl
  obtain ⟨stored, hstored, hkind, hexact⟩ :=
    write_get?_exact (before.store number) key value
  refine ⟨stored, hkind, fun reader hreader => ?_, ?_⟩
  · have hafter : after.storeOf? reader = some number := (hhandles reader).trans hreader
    refine ⟨?_, fun fallback => ?_, ?_, fun other hne => ?_⟩
    · rw [asked_stored hafter, hstores, hstored]
    · rw [asked_get hafter, hstores, hstored, decode_some, hkind]
    · rw [asked_contains hafter, hstores, hstored]
      rfl
    · rw [asked_stored hafter, asked_stored hreader, hstores, write_get?_of_ne _ value hne]
  · have hheld : before.asked handle (.stored key) =
        .held ((before.store number).values.get? key) := asked_stored hhandle key
    rw [hheld]
    simpa only [Answer.held.injEq] using hexact

/-! ### A zero -/

/-- A session whose store holds a zero without a sign. -/
def zeroSteps : List Step := [.act 0 .full (some (.put "k" (.float ⟨0⟩)))]

/-- The zero with a sign. -/
def negativeZero : Value := .float ⟨0x80000000⟩

/-- A put of the zero with a sign, of which a completion tells that it is stored. -/
def putNegativeZero : Step := .act 0 .full (some (.putSync "k" negativeZero true))

/-- The zero with a sign is told to be stored, and the one without is read back. -/
theorem put_zero_not_read_back :
    let after := ((reached zeroSteps).step putNegativeZero).2.1
    ((reached zeroSteps).step putNegativeZero).1 = .stored ∧
      after.asked 0 (.stored "k") = .held (some (.float ⟨0⟩)) ∧
      after.asked 0 (.stored "k") ≠ .held (some negativeZero) := by
  intro after
  have hheld : after.asked 0 (.stored "k") = .held (some (.float ⟨0⟩)) := rfl
  refine ⟨rfl, hheld, fun hexact => ?_⟩
  rw [hheld, Answer.held.injEq] at hexact
  exact absurd hexact (by decide)

/-- A session whose store holds a number of another kind. -/
def integerSteps : List Step := [.act 0 .full (some (.put "k" (.integer 3)))]

/-- Over a number of another kind, the zero with a sign is read back. -/
theorem put_read_back_integer :
    let after := ((reached integerSteps).step putNegativeZero).2.1
    Puts 0 "k" negativeZero putNegativeZero ∧ (reached integerSteps).storeOf? 0 = some 0 ∧
      after.asked 0 (.stored "k") = .held (some negativeZero) := by
  intro after
  have hput : Puts 0 "k" negativeZero putNegativeZero := .sync true
  have hhandle : (reached integerSteps).storeOf? 0 = some 0 := rfl
  obtain ⟨stored, -, hreaders, hexact⟩ := put_read_back integerSteps hput hhandle
  have hheld : (reached integerSteps).asked 0 (.stored "k") = .held (some (.integer 3)) := rfl
  have hstored : stored = negativeZero := by
    refine hexact.2 fun held hbefore => ?_
    rw [hheld] at hbefore
    cases hbefore
    rintro ⟨x, y, hx, -⟩
    cases hx
  exact ⟨hput, hhandle, hstored ▸ (hreaders 0 hhandle).1⟩

/-! ### Repeated puts -/

/-- In every session: a put that is repeated, in whatever form and through whichever handle of the
store, leaves the whole session alone and logs nothing, if and only if its value is not a NaN. A NaN
is logged and published again, though the values stay. -/
theorem put_repeated (steps : List Step) {handle other number : Nat} {key : String} {value : Value}
    {put again : Step} (hput : Puts handle key value put) (hagain : Puts other key value again)
    (hhandle : (reached steps).storeOf? handle = some number)
    (hother : (reached steps).storeOf? other = some number) :
    let once := ((reached steps).step put).2.1
    ((once.step again).2 = (once, []) ↔ value.isNaN = false) ∧
      (value.isNaN = true → (once.step again).2 =
        (once.setStore number ((once.store number).publish ⟨key, some value⟩).1,
          .storing key value.kind :: ((once.store number).publish ⟨key, some value⟩).2)) := by
  intro once
  have honce : once =
      (reached steps).setStore number (((reached steps).store number).write key value).1 :=
    congrArg Prod.fst (hput.step_eq hhandle)
  have hstore : once.store number = (((reached steps).store number).write key value).1 := by
    rw [honce, store_setStore (reached_linked steps handle number hhandle)]
  have hstep : (once.step again).2 = (once.setStore number ((once.store number).write key value).1,
      ((once.store number).write key value).2) :=
    hagain.step_eq (by rw [honce]; exact hother)
  cases hnan : value.isNaN with
  | false =>
    refine ⟨iff_of_true ?_ rfl, nofun⟩
    rw [hstep, hstore, write_again hnan, ← hstore, setStore_store]
  | true =>
    have htwice := hstep
    rw [hstore, write_nan_again hnan, ← hstore] at htwice
    refine ⟨iff_of_false ?_ Bool.false_ne_true.symm, fun _ => htwice⟩
    intro hsilent
    rw [htwice] at hsilent
    cases congrArg Prod.snd hsilent

/-! ### No number -/

def nan : Value := .float ⟨0x7fc00000⟩

def putNaN : Step := .act 0 .full (some (.put "k" nan))

/-- A session with an observable of a float. -/
def observeSteps : List Step := [.act 0 .full (some (.observe "k" (.float ⟨0⟩)))]

/-- The observable shows a NaN that is put twice a second time, and both puts are logged. -/
theorem put_nan_shows_again :
    let once := ((reached observeSteps).step putNaN).2.1
    let twice := (once.step putNaN).2
    (once.step (.poll 0 4)).1 = .polled [.item (.float ⟨0⟩), .item nan, .pending] ∧
      (twice.1.step (.poll 0 4)).1 =
        .polled [.item (.float ⟨0⟩), .item nan, .item nan, .pending] ∧
      twice.2 = [.storing "k" .float, .publishing 1] ∧ twice ≠ (once, []) := by
  refine ⟨rfl, rfl, rfl, fun hsilent => ?_⟩
  cases congrArg Prod.snd hsilent

/-- A zero that is put plainly after it was put in sync changes nothing. -/
theorem put_repeated_zero :
    let once := ((reached observeSteps).step putNegativeZero).2.1
    Puts 0 "k" negativeZero putNegativeZero ∧ (reached observeSteps).storeOf? 0 = some 0 ∧
      (once.step (.act 0 .full (some (.put "k" negativeZero)))).2 = (once, []) := by
  have hput : Puts 0 "k" negativeZero putNegativeZero := .sync true
  have hhandle : (reached observeSteps).storeOf? 0 = some 0 := rfl
  exact ⟨hput, hhandle, (put_repeated observeSteps hput .plain hhandle hhandle).1.2 rfl⟩

end Preferences.Session
