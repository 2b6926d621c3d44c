import Preferences.Proofs.Audiences
import Preferences.Store.Codecs

/-! Values in their written form, over every run of a store. Whatever was done to it, a key is read
the same at once and by a stream that is drained: a string as what it means, and everything else by
way of the written form of the fallback. -/

namespace Preferences.Store

namespace Codec

variable (codec : Codec α)

/-- Every value is read back from its written form. -/
def Inverse : Prop := ∀ value, codec.read? (codec.render value) = some value

/-- The fallback as it comes out of its written form. One that does not read is kept. -/
def passed (fallback : α) : α := (codec.read? (codec.render fallback)).getD fallback

/-- What a key is read as that holds `held`. -/
def reading (fallback : α) (held : Option Value) : α :=
  match held with
  | some (.string raw) => (codec.read? raw).getD fallback
  | _ => codec.passed fallback

/-- A key holds nothing that can be read: nothing at all, a value of another kind, or a string that
does not parse. -/
def Unread (held : Option Value) : Prop := ∀ raw, held = some (.string raw) → codec.read? raw = none

theorem readOr_fst (key raw : String) (fallback : α) :
    (codec.readOr key raw fallback).1 = (codec.read? raw).getD fallback := by
  unfold readOr
  cases codec.read? raw <;> rfl

theorem readOr_decode (key : String) (fallback : α) (held : Option Value) :
    (codec.readOr key (decode key held (.string (codec.render fallback))).1.text fallback).1 =
      codec.reading fallback held := by
  rw [readOr_fst]
  rcases held with _ | (b | x | m | n | raw) <;> rfl

theorem reading_of_not_string {held : Option Value} (h : ∀ raw, held ≠ some (.string raw))
    (fallback : α) : codec.reading fallback held = codec.passed fallback := by
  unfold reading
  split
  · exact absurd rfl (h _)
  · rfl

variable {codec}

theorem Inverse.passed_eq (h : codec.Inverse) (fallback : α) :
    codec.passed fallback = fallback := by
  rw [passed, h]
  rfl

theorem Inverse.reading_of_unread (h : codec.Inverse) {held : Option Value}
    (hheld : codec.Unread held) (fallback : α) : codec.reading fallback held = fallback := by
  unfold reading
  split
  · rw [hheld _ rfl]
    rfl
  · exact h.passed_eq fallback

theorem passed_eq_iff {fallback : α} :
    codec.passed fallback = fallback ↔
      codec.read? (codec.render fallback) = none ∨
        codec.read? (codec.render fallback) = some fallback := by
  unfold passed
  cases codec.read? (codec.render fallback) <;> simp

end Codec

/-! ### Streams that are followed -/

namespace Audience

variable {audience : Audience} (codec : Codec α) (key : String) (fallback : α)

/-- What a key is read as at once. -/
def readAs (audience : Audience) (codec : Codec α) (key : String) (fallback : α) : α :=
  (codec.adapter.get .full audience.store key fallback).1

/-- What a key holds at first, and then after each of the turns that changes it. -/
def heldOver (audience : Audience) (key : String) (turns : List Turn) : List (Option Value) :=
  audience.store.values.get? key ::
    audience.store.successiveHeld key (turns.filterMap Turn.edit?)

theorem readAs_eq (audience : Audience) :
    audience.readAs codec key fallback = codec.reading fallback (audience.store.values.get? key) :=
  codec.readOr_decode key fallback (audience.store.values.get? key)

theorem observeAs_awaits (audience : Audience) :
    (audience.observeAs codec key fallback).1.source.Awaits
      (audience.observeAs codec key fallback).2.store
      [(audience.store.read key (.string (codec.render fallback))).1] :=
  Observable.Awaits.observe_self audience.store key _

/-- The new channel is not that of any stream that was held before. -/
theorem Opened.observeAs_apart (h : audience.Opened) :
    (audience.observeAs codec key fallback).2.Apart
      (audience.observeAs codec key fallback).1.source.channel :=
  fun entry hentry => Nat.ne_of_lt (h entry hentry)

/-- What the stream is shown of its key, at first and after each change, is what the key is read
as. -/
theorem observeAs_shows (audience : Audience) (turns : List Turn) :
    ([(audience.store.read key (.string (codec.render fallback))).1] ++
        (audience.observeAs codec key fallback).2.store.successive key
          (.string (codec.render fallback)) (turns.filterMap Turn.edit?)).map
        (fun value => (codec.readOr key value.text fallback).1) =
      (audience.heldOver key turns).map (codec.reading fallback) := by
  have hstart : (audience.observeAs codec key fallback).2.store.values = audience.store.values :=
    rfl
  have hheld : [(audience.store.read key (.string (codec.render fallback))).1] ++
        (audience.observeAs codec key fallback).2.store.successive key
          (.string (codec.render fallback)) (turns.filterMap Turn.edit?) =
      (audience.heldOver key turns).map fun held =>
        (decode key held (.string (codec.render fallback))).1 := by
    rw [successive_congr hstart, successive_eq_map]
    rfl
  rw [hheld, List.map_map]
  exact List.map_congr_left fun held _ => codec.readOr_decode key fallback held

/-- What was taken from a stream over some turns, and what still waits, are what the key is read as
at first and after each change. The last of them is what it is read as at once. -/
theorem Opened.follow_observeAs (h : audience.Opened) (turns : List Turn) :
    let (stream, observed) := audience.observeAs codec key fallback
    let (taken, last, after) := stream.follow observed turns
    ∃ waiting, (∀ count, (last.pollUpTo after.store count).1 =
        (Polled.ofItems waiting).take count) ∧
      taken ++ waiting = (audience.heldOver key turns).map (codec.reading fallback) ∧
      (taken ++ waiting).getLast? = some (after.readAs codec key fallback) := by
  obtain ⟨waiting, hawaits, hview, htaken, hvalues⟩ :=
    (audience.observeAs_awaits codec key fallback).follow_stream
      (h.observeAs_apart codec key fallback) turns
  have hshown : (audience.observeAs codec key fallback).1.view =
      fun value => codec.readOr key value.text fallback := rfl
  rw [hshown] at hview htaken
  have hitems := htaken.trans (audience.observeAs_shows codec key fallback turns)
  have hlast := congrArg List.getLast? hitems
  have hstart : (audience.observeAs codec key fallback).2.store.values = audience.store.values :=
    rfl
  rw [List.getLast?_map, heldOver, getLast?_successiveHeld, ← edited_values hstart, ← hvalues,
    Option.map_some, ← readAs_eq] at hlast
  refine ⟨_, fun count => ?_, hitems, hlast⟩
  obtain ⟨_, _, _, hpoll, -⟩ := hawaits.pollUpTo_stream count
  rw [hview] at hpoll
  exact congrArg Prod.fst hpoll

/-! ### Values that are written -/

/-- Operations that change nothing of what a key holds. -/
def Quiet (audience : Audience) (key : String) (operations : List Operation) : Prop :=
  audience.store.successiveHeld key (operations.filterMap Operation.edit?) = []

theorem Quiet.get?_after {operations : List Operation} (h : audience.Quiet key operations) :
    (audience.after operations).store.values.get? key = audience.store.values.get? key := by
  have hlast := getLast?_successiveHeld audience.store key (operations.filterMap Operation.edit?)
  rw [show audience.store.successiveHeld key _ = [] from h, ← audience.after_values] at hlast
  exact (Option.some.inj hlast).symm

end Audience

/-- After the write of a string the key holds it, since strings that compare equal are equal. -/
theorem write_string_get? (store : Store) (key raw : String) :
    (store.write key (.string raw)).1.values.get? key = some (.string raw) := by
  obtain ⟨stored, hstored, hagrees⟩ := store.write_get?_self key (.string raw)
  rw [hstored]
  cases stored <;> simp_all [Value.agrees, Value.equals, Value.isNaN]

namespace Audience

variable {audience : Audience} {codec : Codec α} {key : String} {rest : List Operation}

/-- A value that was written is read for as long as nothing changes it. -/
theorem readAs_written (hinverse : codec.Inverse) {value : α}
    (hrest : ((Operation.putAs codec key value).apply audience).Quiet key rest) (fallback : α) :
    (((Operation.putAs codec key value).apply audience).after rest).readAs codec key fallback =
      value := by
  have hwritten : ((Operation.putAs codec key value).apply audience).store.values.get? key =
      some (.string (codec.render value)) := write_string_get? audience.store key _
  rw [readAs_eq, hrest.get?_after, hwritten, Codec.reading, hinverse]
  rfl

/-! ### Runs -/

/-- Over every run of a store, a stream of a key in the written form of a type and a reading at
once agree: once the stream is drained, its last item is what the key is then read as. If all values
are read back from their written forms, a key is read as the value that was written to it, for as
long as nothing changes it, and as the fallback where it holds nothing that can be read. -/
theorem written_forms_agree (codec : Codec α) (values : Entries Value) (before : List Operation)
    (key : String) (fallback : α) :
    let audience := (holding values).after before
    (∀ turns, let (stream, observed) := audience.observeAs codec key fallback
      let (taken, last, after) := stream.follow observed turns
      ∃ waiting, (∀ count, (last.pollUpTo after.store count).1 =
          (Polled.ofItems waiting).take count) ∧
        (taken ++ waiting).getLast? = some (after.readAs codec key fallback)) ∧
      (codec.Inverse →
        (∀ value rest, let written := (Operation.putAs codec key value).apply audience
          written.Quiet key rest → (written.after rest).readAs codec key fallback = value) ∧
        (codec.Unread (audience.store.values.get? key) →
          audience.readAs codec key fallback = fallback)) := by
  intro audience
  refine ⟨fun turns => ?_, fun hinverse => ⟨fun value rest hrest => ?_, fun hunread => ?_⟩⟩
  · obtain ⟨waiting, hpolls, -, hlast⟩ :=
      (opened_after values before).follow_observeAs codec key fallback turns
    exact ⟨waiting, hpolls, hlast⟩
  · exact readAs_written hinverse hrest fallback
  · rw [readAs_eq]
    exact hinverse.reading_of_unread hunread fallback

/-! ### A truth value -/

/-- A key is watched as a number and then holds a truth value in its written form. -/
def truthOperations : List Operation :=
  [.observe "k" (.long 0), .putAs Codec.truth "k" false]

/-- Operations that leave the key alone. -/
def otherOperations : List Operation := [.put "other" (.integer 1), .poll 0 4, .remove "none"]

/-- The other truth value is written, and read after more operations. -/
theorem written_forms_agree_truth :
    let written := (Operation.putAs Codec.truth "k" true).apply
      ((holding .empty).after truthOperations)
    Codec.truth.Inverse ∧ written.Quiet "k" otherOperations ∧
      (written.after otherOperations).readAs Codec.truth "k" false = true := by
  intro written
  have hinverse : Codec.truth.Inverse := by
    intro value
    cases value <;> rfl
  have hquiet : written.Quiet "k" otherOperations := by
    unfold Quiet
    decide +kernel
  have hreads := (written_forms_agree Codec.truth .empty truthOperations "k" false).2 hinverse
  exact ⟨hinverse, hquiet, hreads.1 true otherOperations hquiet⟩

/-! ### The fallback -/

/-- Over every run of a store, where a key holds no string, it is read at once and by streams as
what comes of the fallback through its written form. That is the fallback itself if and only if its
written form does not read, or reads as the fallback. -/
theorem fallback_through_written_form (codec : Codec α) (values : Entries Value)
    (before : List Operation) (key : String) (fallback : α) :
    let audience := (holding values).after before
    ((∀ raw, audience.store.values.get? key ≠ some (.string raw)) →
        audience.readAs codec key fallback = codec.passed fallback) ∧
      (∀ turns, let (stream, observed) := audience.observeAs codec key fallback
        let (taken, last, after) := stream.follow observed turns
        ∃ waiting, (∀ count, (last.pollUpTo after.store count).1 =
            (Polled.ofItems waiting).take count) ∧
          taken ++ waiting = (audience.heldOver key turns).map (codec.reading fallback)) ∧
      (∀ held, (∀ raw, held ≠ some (.string raw)) →
        codec.reading fallback held = codec.passed fallback) ∧
      (codec.passed fallback = fallback ↔
        codec.read? (codec.render fallback) = none ∨
          codec.read? (codec.render fallback) = some fallback) := by
  intro audience
  refine ⟨fun hheld => ?_, fun turns => ?_, fun held hheld => ?_, Codec.passed_eq_iff⟩
  · rw [readAs_eq]
    exact codec.reading_of_not_string hheld fallback
  · obtain ⟨waiting, hpolls, hitems, -⟩ :=
      (opened_after values before).follow_observeAs codec key fallback turns
    exact ⟨waiting, hpolls, hitems⟩
  · exact codec.reading_of_not_string hheld fallback

/-- A byte is read as the fallback from a key that holds a number of another kind. -/
theorem fallback_through_written_form_byte :
    let audience := (holding .empty).after [.put "k" (.integer 3)]
    audience.store.values.get? "k" = some (.integer 3) ∧
      audience.readAs Codec.byte "k" 7 = 7 := by
  intro audience
  have hheld : audience.store.values.get? "k" = some (.integer 3) := by decide +kernel
  obtain ⟨hread, -, -, hkept⟩ :=
    fallback_through_written_form Codec.byte .empty [.put "k" (.integer 3)] "k" 7
  have hback : Codec.byte.read? (Codec.byte.render 7) = some 7 := by decide +kernel
  refine ⟨hheld, (hread fun raw hraw => ?_).trans (hkept.2 (.inr hback))⟩
  rw [hheld] at hraw
  cases hraw

/-! ### A numeral -/

/-- Of numerals that are shown as they are and read in their usual form, one with zeros in front is
not read as the fallback that it is, at once or by a stream. -/
theorem numeral_fallback_rewritten :
    let audience := holding .empty
    let (stream, observed) := audience.observeAs Codec.byte.shown "k" "007"
    audience.store.values.get? "k" = none ∧
      audience.readAs Codec.byte.shown "k" "007" = "7" ∧
      audience.readAs Codec.byte.shown "k" "007" ≠ "007" ∧
      (stream.pollUpTo observed.store 2).1 = [.item "7", .pending] := by
  decide +kernel

end Audience

end Preferences.Store
