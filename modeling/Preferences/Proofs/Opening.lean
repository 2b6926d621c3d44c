import Preferences.Proofs.Watching

/-! The two steps of watching a key, with changes through other handles in between and afterwards.
The channel is opened first and the key is read after it, so no change in between is lost. But it
waits in the channel while the value that is read shows it too: what an observable shows goes back
to the changes between the steps, unless the value that was read is the one from before them. -/

namespace Preferences.Store

/-! ### Edits through other handles -/

inductive Edit where
  | put (key : String) (value : Value)
  | remove (key : String)
  | clear
  deriving DecidableEq, Repr

namespace Edit

def apply (store : Store) : Edit → Store
  | put key value => (store.write key value).1
  | remove key => (store.remove key).1
  | clear => store.clear.1

/-- Whether an edit changes what a key holds: a put does where the key holds nothing or a value that
does not compare equal, and a removal where it holds something. -/
def changes (store : Store) (key : String) : Edit → Bool
  | put k value => k = key && !(store.values.get? key).any (·.equals value)
  | remove k => k = key && store.values.contains key
  | clear => store.values.contains key

end Edit

/-- A store after some edits, one after another. -/
def edited (store : Store) (edits : List Edit) : Store := edits.foldl Edit.apply store

/-- What a key with a fallback is decoded to. -/
def decoded (store : Store) (key : String) (fallback : Value) : Value := (store.read key fallback).1

/-- What a key with a fallback is decoded to after each edit that changes it. -/
def successive (store : Store) (key : String) (fallback : Value) : List Edit → List Value
  | [] => []
  | edit :: rest =>
    let next := edit.apply store
    (if edit.changes store key then [next.decoded key fallback] else []) ++
      next.successive key fallback rest

/-! ### The two steps -/

/-- The first step of watching a key opens a channel. -/
def opened (store : Store) : Nat × Store :=
  (store.feed.subscribe.1, { store with feed := store.feed.subscribe.2.1 })

/-- The second step reads the key. -/
def settled (store : Store) (channel : Nat) (key : String) (fallback : Value) : Observable :=
  ⟨channel, key, fallback, some (store.decoded key fallback)⟩

/-- Watches a key while others make edits between the two steps. -/
def observeAmid (store : Store) (key : String) (fallback : Value) (between : List Edit) :
    Observable × Store :=
  let (channel, after) := store.opened
  ((after.edited between).settled channel key fallback, after.edited between)

/-- With nothing in between, this is how a key is watched. -/
theorem observeAmid_nil (store : Store) (key : String) (fallback : Value) :
    store.observeAmid key fallback [] =
      ((store.observe key fallback).1, (store.observe key fallback).2.1) := rfl

/-- What happens once a key is watched: an edit, or some polls of the observable. -/
inductive Turn where
  | edit (edit : Edit)
  | poll (count : Nat)
  deriving DecidableEq, Repr

def Turn.edit? : Turn → Option Edit
  | edit made => some made
  | poll _ => none

/-- The values taken from an observable over some turns, and what it and the store then are. -/
def Observable.follow (o : Observable) (store : Store) :
    List Turn → List Value × Observable × Store
  | [] => ([], o, store)
  | .edit edit :: rest => o.follow (edit.apply store) rest
  | .poll count :: rest =>
    let (found, stream, after, _) := (Stream.plain o).pollUpTo store count
    let (more, last) := stream.source.follow after rest
    (Session.valuesOf (.polled found) ++ more, last)

/-- The items are what a key is decoded to at a moment between the opening of the channel and the
reading, and then after each later change. -/
def InOrder (store : Store) (key : String) (fallback : Value) (between later : List Edit)
    (items : List Value) : Prop :=
  ∃ moment ≤ between.length,
    let early := store.edited (between.take moment)
    items = early.decoded key fallback ::
      early.successive key fallback (between.drop moment ++ later)

/-! ### What edits do -/

section Edits

variable {store after : Store} {key : String} {fallback : Value}

theorem remove_values (store : Store) (key : String) :
    (store.remove key).1.values =
      if store.values.contains key then store.values.erase key else store.values := by
  unfold remove
  split <;> rfl

/-- What edits do to the values has nothing to do with the feed. -/
theorem Edit.apply_values (edit : Edit) (h : after.values = store.values) :
    (edit.apply after).values = (edit.apply store).values := by
  cases edit with
  | put key value => rw [apply, apply, write_values, write_values, h]
  | remove key => rw [apply, apply, remove_values, remove_values, h]
  | clear => rw [apply, apply, clear_values, clear_values]

theorem Edit.get?_of_not_changes {edit : Edit} (h : edit.changes store key = false) :
    (edit.apply store).values.get? key = store.values.get? key := by
  cases edit with
  | put k value =>
    by_cases hkey : k = key
    · subst hkey
      have hequal : (store.values.get? k).any (·.equals value) = true := by
        simpa [changes] using h
      rw [apply, write_values, if_pos hequal]
    · exact write_get?_of_ne store value (Ne.symm hkey)
  | remove k =>
    rw [apply, remove_get?]
    split
    · rename_i hkey
      subst hkey
      have habsent : store.values.contains key = false := by simpa [changes] using h
      exact (Option.isSome_eq_false_iff.1 habsent |> Option.isNone_iff_eq_none.1).symm
    · rfl
  | clear =>
    have habsent : store.values.contains key = false := h
    rw [apply, clear_values, Entries.get?_empty]
    exact (Option.isSome_eq_false_iff.1 habsent |> Option.isNone_iff_eq_none.1).symm

theorem successive_congr (h : after.values = store.values) (edits : List Edit) :
    after.successive key fallback edits = store.successive key fallback edits := by
  induction edits generalizing after store with
  | nil => rfl
  | cons edit rest ih =>
    have hvalues := edit.apply_values h
    have hchanges : edit.changes after key = edit.changes store key := by
      cases edit <;> simp only [Edit.changes, h]
    have hdecoded : (edit.apply after).decoded key fallback =
        (edit.apply store).decoded key fallback := by
      rw [decoded, decoded, read, read, hvalues]
    rw [successive, successive, hchanges, hdecoded, ih hvalues]

theorem successive_append (store : Store) (edits more : List Edit) :
    store.successive key fallback (edits ++ more) =
      store.successive key fallback edits ++
        (store.edited edits).successive key fallback more := by
  induction edits generalizing store with
  | nil => rfl
  | cons edit rest ih =>
    rw [List.cons_append, successive, successive, ih, List.append_assoc]
    rfl

/-- Edits that show nothing leave what the key is decoded to. -/
theorem decoded_edited {edits : List Edit} (h : store.successive key fallback edits = []) :
    (store.edited edits).decoded key fallback = store.decoded key fallback := by
  induction edits generalizing store with
  | nil => rfl
  | cons edit rest ih =>
    rw [successive] at h
    obtain ⟨hfirst, hrest⟩ := List.append_eq_nil_iff.1 h
    have hchanges : edit.changes store key = false := by
      by_contra hchanges
      rw [if_pos (Bool.not_eq_false _ ▸ hchanges)] at hfirst
      cases hfirst
    have hsame : (edit.apply store).decoded key fallback = store.decoded key fallback := by
      rw [decoded, decoded, read, read, Edit.get?_of_not_changes hchanges]
    exact (ih hrest).trans hsame

/-- Items that show every change since the channel was opened are in order if and only if the value
that was read is the one from before those changes. -/
theorem inOrder_iff (store : Store) (key : String) (fallback : Value) (between later : List Edit) :
    store.InOrder key fallback between later
        ((store.edited between).decoded key fallback ::
          store.successive key fallback (between ++ later)) ↔
      (store.edited between).decoded key fallback = store.decoded key fallback := by
  constructor
  · rintro ⟨moment, -, hitems⟩
    obtain ⟨hfirst, hrest⟩ := List.cons.inj hitems
    have hsplit : between ++ later = between.take moment ++ (between.drop moment ++ later) := by
      rw [← List.append_assoc, List.take_append_drop]
    rw [hsplit, successive_append, List.append_left_eq_self] at hrest
    exact hfirst.trans (decoded_edited hrest)
  · intro hsame
    exact ⟨0, Nat.zero_le _, congrArg (· :: _) hsame⟩

end Edits

/-! ### What an observable shows -/

namespace Observable.Awaits

variable {o : Observable} {store : Store} {items : List Value}

theorem edit (h : o.Awaits store items) (edit : Edit) :
    o.Awaits (edit.apply store)
      (items ++ if edit.changes store o.key then
        [(edit.apply store).decoded o.key o.fallback] else []) := by
  cases edit with
  | put key value =>
    have hchanges : (Edit.put key value).changes store o.key = true ↔
        key = o.key ∧ (store.values.get? o.key).any (·.equals value) = false := by
      simp [Edit.changes]
    simp only [hchanges]
    exact h.write key value
  | remove key =>
    have hchanges : (Edit.remove key).changes store o.key = true ↔
        key = o.key ∧ store.values.contains o.key = true := by
      simp [Edit.changes]
    simp only [hchanges]
    exact h.remove key
  | clear => exact h.clear

theorem edited (h : o.Awaits store items) (edits : List Edit) :
    o.Awaits (store.edited edits) (items ++ store.successive o.key o.fallback edits) := by
  induction edits generalizing store items with
  | nil => rwa [successive, List.append_nil]
  | cons edit rest ih =>
    rw [successive, ← List.append_assoc]
    exact ih (h.edit edit)

/-- The value that is read comes before all changes that wait. -/
theorem settled (h : o.Awaits store items) (hfirst : o.first = none) :
    (store.settled o.channel o.key o.fallback).Awaits store
      (store.decoded o.key o.fallback :: items) := by
  obtain ⟨hlistening, queue, hwaits, hitems⟩ := h
  rw [hfirst] at hitems
  exact ⟨hlistening, queue, hwaits, congrArg (_ :: ·) hitems⟩

theorem follow (h : o.Awaits store items) (turns : List Turn) :
    ∃ waiting, (o.follow store turns).2.1.Awaits (o.follow store turns).2.2 waiting ∧
      (o.follow store turns).1 ++ waiting =
        items ++ store.successive o.key o.fallback (turns.filterMap Turn.edit?) := by
  induction turns generalizing o store items with
  | nil => exact ⟨items, h, (List.append_nil _).symm⟩
  | cons turn rest ih =>
    cases turn with
    | edit edit =>
      obtain ⟨waiting, hawaits, hitems⟩ := ih (h.edit edit)
      refine ⟨waiting, hawaits, hitems.trans ?_⟩
      have hedits : (Turn.edit edit :: rest).filterMap Turn.edit? =
          edit :: rest.filterMap Turn.edit? := List.filterMap_cons_some rfl
      rw [hedits, List.append_assoc, successive]
    | poll count =>
      obtain ⟨first, after, events, hpoll, hpolled, hvalues⟩ := h.pollUpTo count
      obtain ⟨waiting, hawaits, hitems⟩ := ih hpolled
      rw [Observable.follow, hpoll]
      refine ⟨waiting, hawaits, ?_⟩
      dsimp only [Stream.plain] at hitems ⊢
      rw [Session.valuesOf_drained, List.append_assoc, hitems, successive_congr hvalues,
        ← List.append_assoc, List.take_append_drop, List.filterMap_cons_none rfl]

end Observable.Awaits

/-- A key that is watched while others make edits: its observable awaits the value that was read,
and then that after each change since the channel was opened. -/
theorem observeAmid_awaits (store : Store) (key : String) (fallback : Value)
    (between : List Edit) :
    (store.observeAmid key fallback between).1.Awaits (store.observeAmid key fallback between).2
      ((store.opened.2.edited between).decoded key fallback ::
        store.opened.2.successive key fallback between) := by
  have hopened : (⟨store.opened.1, key, fallback, none⟩ : Observable).Awaits store.opened.2 [] :=
    ⟨rfl, [], store.feed.subscribe_waits, rfl⟩
  have hread := (hopened.edited between).settled rfl
  rwa [List.nil_append] at hread

/-- Whatever edits fall between the two steps and after them: what has been taken from the
observable, followed by what waits in it, is the value that was read and then that after each change
since the channel was opened. These are the successive values from one moment on if and only if the
value that was read is the one from before the edits in between. -/
theorem opening_shows_changes (store : Store) (key : String) (fallback : Value)
    (between : List Edit) (turns : List Turn) :
    let (o, read) := store.observeAmid key fallback between
    let later := turns.filterMap Turn.edit?
    ∃ waiting, (o.follow read turns).1 ++ waiting =
        read.decoded key fallback ::
          store.opened.2.successive key fallback (between ++ later) ∧
      (∀ count, ((Stream.plain (o.follow read turns).2.1).pollUpTo
        (o.follow read turns).2.2 count).1 = (drained waiting).take count) ∧
      (store.opened.2.InOrder key fallback between later ((o.follow read turns).1 ++ waiting) ↔
        read.decoded key fallback = store.decoded key fallback) := by
  obtain ⟨waiting, hawaits, hitems⟩ :=
    (store.observeAmid_awaits key fallback between).follow turns
  have hshown : (store.opened.2.edited between).decoded key fallback ::
        store.opened.2.successive key fallback between ++
          (store.opened.2.edited between).successive key fallback (turns.filterMap Turn.edit?) =
      (store.opened.2.edited between).decoded key fallback ::
        store.opened.2.successive key fallback (between ++ turns.filterMap Turn.edit?) := by
    rw [List.cons_append, successive_append]
  have hall := hitems.trans hshown
  refine ⟨waiting, hall, fun count => ?_, ?_⟩
  · obtain ⟨_, _, _, hpoll, -⟩ := hawaits.pollUpTo count
    exact congrArg Prod.fst hpoll
  · have hordered := inOrder_iff store.opened.2 key fallback between
      (turns.filterMap Turn.edit?)
    rw [← hall] at hordered
    exact hordered

/-! ### Two puts in between -/

def twoPuts : List Edit := [.put "k" (.integer 1), .put "k" (.integer 2)]

/-- The second put is shown first, then the first one, and then the second one again. -/
theorem opening_shows_twice :
    let (o, read) := empty.observeAmid "k" (.integer 0) twoPuts
    (o.follow read [.poll 4]).1 = [.integer 2, .integer 1, .integer 2] ∧
      ¬(empty.opened.2).InOrder "k" (.integer 0) twoPuts []
        [.integer 2, .integer 1, .integer 2] := by
  unfold InOrder
  decide +kernel

end Preferences.Store
