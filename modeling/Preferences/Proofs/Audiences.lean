import Preferences.Proofs.Opening
import Preferences.Proofs.Pairs

/-! Stores with many streams. An audience is a store with the streams of its observables, each with
values of a type of its own. Whatever operations are done to it, in the written form of values of
any type among them, a stream that is followed meanwhile shows what its key holds at first and then
after each edit that changes it. -/

namespace Preferences.Store

/-! ### What a key holds -/

/-- What a key holds after each edit that changes it. -/
def successiveHeld (store : Store) (key : String) : List Edit → List (Option Value)
  | [] => []
  | edit :: rest =>
    let next := edit.apply store
    (if edit.changes store key then [next.values.get? key] else []) ++ next.successiveHeld key rest

theorem successive_eq_map (store : Store) (key : String) (fallback : Value) (edits : List Edit) :
    store.successive key fallback edits =
      (store.successiveHeld key edits).map fun held => (decode key held fallback).1 := by
  induction edits generalizing store with
  | nil => rfl
  | cons edit rest ih =>
    rw [successive, successiveHeld, List.map_append, ih]
    split <;> rfl

/-- What a key held last is what it holds. -/
theorem getLast?_successiveHeld (store : Store) (key : String) (edits : List Edit) :
    (store.values.get? key :: store.successiveHeld key edits).getLast? =
      some ((store.edited edits).values.get? key) := by
  induction edits generalizing store with
  | nil => rfl
  | cons edit rest ih =>
    rw [successiveHeld]
    cases hchanges : edit.changes store key with
    | true => exact ih (edit.apply store)
    | false =>
      rw [← Edit.get?_of_not_changes hchanges]
      exact ih (edit.apply store)

/-! ### Streams of any type -/

namespace Polled

/-- What is found, if it is an item. -/
def item? : Polled α → Option α
  | item value => some value
  | pending | ended => none

/-- What polls find where `items` are still to be given: these, and then nothing for now. -/
def ofItems (items : List α) : List (Polled α) := items.map item ++ [pending]

theorem items_ofItems (items : List α) (count : Nat) :
    ((ofItems items).take count).filterMap item? = items.take count := by
  induction items generalizing count with
  | nil => cases count <;> simp [ofItems, item?]
  | cons value rest ih =>
    cases count with
    | zero => rfl
    | succ count => exact congrArg (value :: ·) (ih count)

end Polled

/-- What polls find of a stream is what they find of its observable, shown through its view. -/
theorem Stream.pollUpTo_plain (stream : Stream α) (store : Store) (count : Nat) :
    let (found, plain, after, _) := (Stream.plain stream.source).pollUpTo store count
    ∃ events, stream.pollUpTo store count =
      (found.map (Polled.map fun value => (stream.view value).1), ⟨plain.source, stream.view⟩,
        after, events) := by
  induction count generalizing stream store with
  | zero => exact ⟨[], rfl⟩
  | succ count ih =>
    unfold Stream.pollUpTo Stream.poll
    rcases hpoll : stream.source.poll store with ⟨found, source, after, events⟩
    cases found with
    | item value =>
      obtain ⟨more, hrest⟩ := ih ⟨source, stream.view⟩ after
      simp only [Stream.plain, hpoll] at hrest ⊢
      rw [hrest]
      exact ⟨_, rfl⟩
    | pending | ended =>
      simp only [Stream.plain, hpoll]
      exact ⟨_, rfl⟩

namespace Observable.Awaits

variable {o : Observable} {store : Store} {items : List Value}

theorem lt_length (h : o.Awaits store items) : o.channel < store.feed.channels.length := by
  obtain ⟨-, queue, hwaits, -⟩ := h
  exact hwaits.lt_length

theorem pollUpTo_stream {stream : Stream α} (h : stream.source.Awaits store items) (count : Nat) :
    ∃ first after events, stream.pollUpTo store count =
        ((Polled.ofItems (items.map fun value => (stream.view value).1)).take count,
          ⟨{ stream.source with first }, stream.view⟩, after, events) ∧
      Observable.Awaits { stream.source with first } after (items.drop count) ∧
        after.values = store.values := by
  obtain ⟨first, after, events, hpoll, hawaits, hvalues⟩ := h.pollUpTo count
  have hplain := stream.pollUpTo_plain store count
  rw [hpoll] at hplain
  obtain ⟨more, hplain⟩ := hplain
  refine ⟨first, after, more, ?_, hawaits, hvalues⟩
  rw [hplain, List.map_take, drained, List.map_append, List.map_map, Polled.ofItems, List.map_map]
  rfl

theorem pollUpTo_other_stream (h : o.Awaits store items) {stream : Stream α}
    (hne : o.channel ≠ stream.source.channel) (count : Nat) :
    o.Awaits (stream.pollUpTo store count).2.2.1 items := by
  obtain ⟨events, hplain⟩ := stream.pollUpTo_plain store count
  rw [hplain]
  exact h.pollUpTo_other hne count

end Observable.Awaits

/-! ### Audiences -/

/-- A store and the streams of its observables, each with values of a type of its own. A stream that
is dropped leaves its number unused. -/
structure Audience where
  store : Store
  streams : List (Option ((α : Type) × Stream α))

/-- What can be done to a store and its streams: plainly, or in the written form of a type. -/
inductive Operation where
  | put (key : String) (value : Value)
  | putSync (key : String) (value : Value)
  | get (key : String) (fallback : Value)
  | contains (key : String)
  | remove (key : String)
  | clear
  | observe (key : String) (fallback : Value)
  | putAs {α : Type} (codec : Codec α) (key : String) (value : α)
  | getAs {α : Type} (codec : Codec α) (key : String) (fallback : α)
  | observeAs {α : Type} (codec : Codec α) (key : String) (fallback : α)
  | poll (stream count : Nat)
  | drop (stream : Nat)

namespace Audience

def addStream (audience : Audience) (stream : Stream α) : Audience :=
  { audience with streams := audience.streams ++ [some ⟨α, stream⟩] }

/-- A stream of a key in the written form of a type, and the audience with its channel. -/
def observeAs (audience : Audience) (codec : Codec α) (key : String) (fallback : α) :
    Stream α × Audience :=
  let (stream, store, _) := codec.adapter.observe .full audience.store key fallback
  (stream, { audience with store })

end Audience

namespace Operation

def apply (audience : Audience) : Operation → Audience
  | put key value => { audience with store := (Permission.full.put audience.store key value).1 }
  | putSync key value =>
    { audience with store := (Permission.full.putSync audience.store key value).2.1 }
  | get .. | contains _ => audience
  | remove key => { audience with store := (Permission.full.remove audience.store key).1 }
  | clear => { audience with store := (Permission.full.clear audience.store).1 }
  | observe key fallback =>
    let (source, store, _) := audience.store.observe key fallback
    Audience.addStream { audience with store } (.plain source)
  | putAs codec key value =>
    { audience with store := (codec.adapter.put .full audience.store key value).1 }
  | getAs codec key fallback =>
    { audience with store := (codec.adapter.get .full audience.store key fallback).2.1 }
  | observeAs codec key fallback =>
    let (stream, observed) := audience.observeAs codec key fallback
    observed.addStream stream
  | poll place count =>
    match audience.streams[place]?.join with
    | none => audience
    | some ⟨_, stream⟩ =>
      let (_, stream, store, _) := stream.pollUpTo audience.store count
      ⟨store, audience.streams.set place (some ⟨_, stream⟩)⟩
  | drop place =>
    match audience.streams[place]?.join with
    | none => audience
    | some ⟨_, stream⟩ => ⟨(audience.store.drop stream.source).1, audience.streams.set place none⟩

/-- What an operation does to the values of the store. -/
def edit? : Operation → Option Edit
  | put key value | putSync key value => some (.put key value)
  | remove key => some (.remove key)
  | clear => some .clear
  | putAs codec key value => some (.put key (.string (codec.render value)))
  | get .. | contains _ | observe .. | getAs .. | observeAs .. | poll .. | drop _ => none

end Operation

/-- What happens while a stream is followed: an operation, or some polls of it. -/
inductive Audience.Turn where
  | operation (operation : Operation)
  | poll (count : Nat)

def Audience.Turn.edit? : Audience.Turn → Option Edit
  | operation done => done.edit?
  | poll _ => none

namespace Audience

/-- An audience of a store that holds `values` from the start. -/
def holding (values : Entries Value) : Audience := ⟨.ofEntries values, []⟩

/-- An audience after some operations, one after another. -/
def after (audience : Audience) (operations : List Operation) : Audience :=
  operations.foldl Operation.apply audience

end Audience

/-- The items taken from a stream over some turns, and what it and the audience then are. -/
def Stream.follow (stream : Stream α) (audience : Audience) :
    List Audience.Turn → List α × Stream α × Audience
  | [] => ([], stream, audience)
  | .operation operation :: rest => stream.follow (operation.apply audience) rest
  | .poll count :: rest =>
    let (found, next, store, _) := stream.pollUpTo audience.store count
    let (more, last) := next.follow { audience with store } rest
    (found.filterMap Polled.item? ++ more, last)

/-! ### What operations leave alone -/

theorem Edit.feed_length (edit : Edit) (store : Store) :
    (edit.apply store).feed.channels.length = store.feed.channels.length := by
  cases edit with
  | put key value =>
    show (store.write key value).1.feed.channels.length = _
    unfold write
    split
    · rfl
    · exact Feed.publish_length _ _
  | remove key =>
    show (store.remove key).1.feed.channels.length = _
    unfold Store.remove
    split
    · exact Feed.publish_length _ _
    · rfl
  | clear =>
    have hgone (store : Store) (keys : List String) :
        (publishGone store keys).1.feed.channels.length = store.feed.channels.length := by
      induction keys generalizing store with
      | nil => rfl
      | cons key rest ih => exact (ih _).trans (Feed.publish_length _ _)
    exact hgone { store with values := .empty } store.values.keys

theorem length_lt_observe (store : Store) (key : String) (fallback : Value) :
    store.feed.channels.length < (store.observe key fallback).2.1.feed.channels.length := by
  have hlength : (store.observe key fallback).2.1.feed.channels.length =
      store.feed.channels.length + 1 := List.length_append
  rw [hlength]
  exact Nat.lt_succ_self _

/-- Polls leave alone whatever has nothing to do with single channels. -/
theorem Observable.poll_keeps {part : Store → β}
    (hpart : ∀ (store : Store) id channel,
      part { store with feed := store.feed.setChannel id channel } = part store)
    (o : Observable) (store : Store) : part (o.poll store).2.2.1 = part store := by
  unfold Observable.poll
  split
  · rfl
  · rfl
  · dsimp only
    split <;> exact hpart store _ _

theorem Stream.pollUpTo_keeps (part : Store → β)
    (hpart : ∀ (store : Store) id channel,
      part { store with feed := store.feed.setChannel id channel } = part store)
    (stream : Stream α) (store : Store) (count : Nat) :
    part (stream.pollUpTo store count).2.2.1 = part store := by
  induction count generalizing stream store with
  | zero => rfl
  | succ count ih =>
    have hpoll := stream.source.poll_keeps hpart store
    unfold Stream.pollUpTo Stream.poll
    rcases heq : stream.source.poll store with ⟨found, source, after, events⟩
    rw [heq] at hpoll
    cases found with
    | item value => exact (ih ⟨source, stream.view⟩ after).trans hpoll
    | pending | ended => exact hpoll

theorem Stream.pollUpTo_length (stream : Stream α) (store : Store) (count : Nat) :
    (stream.pollUpTo store count).2.2.1.feed.channels.length = store.feed.channels.length :=
  stream.pollUpTo_keeps (·.feed.channels.length) (fun _ _ _ => List.length_set ..) store count

theorem Stream.pollUpTo_values (stream : Stream α) (store : Store) (count : Nat) :
    (stream.pollUpTo store count).2.2.1.values = store.values :=
  stream.pollUpTo_keeps (·.values) (fun _ _ _ => rfl) store count

namespace Audience

/-- The held streams have channels of the store. -/
def Opened (audience : Audience) : Prop :=
  ∀ entry, some entry ∈ audience.streams →
    entry.2.source.channel < audience.store.feed.channels.length

/-- None of the held streams has the channel. -/
def Apart (audience : Audience) (channel : Nat) : Prop :=
  ∀ entry, some entry ∈ audience.streams → entry.2.source.channel ≠ channel

end Audience

namespace Operation

variable {audience : Audience}

/-- What an operation does: an edit of the store, a new stream, polls of a held stream, the end of
one, or nothing to the audience. -/
inductive Does (operation : Operation) (audience : Audience) : Audience → Prop where
  | edit (edit : Edit) (h : operation.edit? = some edit) :
      Does operation audience { audience with store := edit.apply audience.store }
  | quiet (h : operation.edit? = none) : Does operation audience audience
  | observe (key : String) (fallback : Value) {α : Type} (view : Value → α × List Event)
      (h : operation.edit? = none) :
      Does operation audience
        (Audience.addStream { audience with store := (audience.store.observe key fallback).2.1 }
          ⟨(audience.store.observe key fallback).1, view⟩)
  | poll (place count : Nat) {α : Type} {stream : Stream α}
      (hheld : some ⟨α, stream⟩ ∈ audience.streams) (h : operation.edit? = none) :
      Does operation audience ⟨(stream.pollUpTo audience.store count).2.2.1,
        audience.streams.set place (some ⟨α, (stream.pollUpTo audience.store count).2.1⟩)⟩
  | drop (place : Nat) {α : Type} {stream : Stream α}
      (hheld : some ⟨α, stream⟩ ∈ audience.streams) (h : operation.edit? = none) :
      Does operation audience ⟨(audience.store.drop stream.source).1,
        audience.streams.set place none⟩

theorem does_apply (operation : Operation) (audience : Audience) :
    operation.Does audience (operation.apply audience) := by
  cases operation with
  | put key value => exact .edit (.put key value) rfl
  | putSync key value => exact .edit (.put key value) rfl
  | remove key => exact .edit (.remove key) rfl
  | clear => exact .edit .clear rfl
  | putAs codec key value => exact .edit (.put key (.string (codec.render value))) rfl
  | get | contains | getAs => exact .quiet rfl
  | observe key fallback => exact .observe key fallback (fun value => (value, [])) rfl
  | observeAs codec key fallback =>
    exact .observe key (.string (codec.render fallback))
      (fun value => codec.readOr key value.text fallback) rfl
  | poll place count =>
    unfold apply
    dsimp only
    split
    · exact .quiet rfl
    · rename_i hheld
      exact .poll place count (List.mem_of_getElem? (Option.join_eq_some_iff.1 hheld)) rfl
  | drop place =>
    unfold apply
    dsimp only
    split
    · exact .quiet rfl
    · rename_i hheld
      exact .drop place (List.mem_of_getElem? (Option.join_eq_some_iff.1 hheld)) rfl

namespace Does

variable {operation : Operation} {next : Audience}

theorem length_le (h : operation.Does audience next) :
    audience.store.feed.channels.length ≤ next.store.feed.channels.length := by
  cases h with
  | edit edit => exact Nat.le_of_eq (edit.feed_length audience.store).symm
  | quiet => exact Nat.le_refl _
  | observe key fallback view =>
    exact Nat.le_of_lt (audience.store.length_lt_observe key fallback)
  | poll place count hheld hedit =>
    rename_i stream
    exact Nat.le_of_eq (stream.pollUpTo_length audience.store count).symm
  | drop place hheld hedit =>
    rename_i stream
    exact Nat.le_of_eq (audience.store.feed.close_alters stream.source.channel).length.symm

/-- A stream that is held then has the channel of one that was held before, or a new channel. -/
theorem channel (h : operation.Does audience next) {entry : (α : Type) × Stream α}
    (hentry : some entry ∈ next.streams) :
    (∃ held, some held ∈ audience.streams ∧ held.2.source.channel = entry.2.source.channel) ∨
      (entry.2.source.channel = audience.store.feed.channels.length ∧
        audience.store.feed.channels.length < next.store.feed.channels.length) := by
  cases h with
  | edit | quiet => exact .inl ⟨entry, hentry, rfl⟩
  | observe key fallback view =>
    rcases List.mem_append.1 hentry with hold | hnew
    · exact .inl ⟨entry, hold, rfl⟩
    · cases List.mem_singleton.1 hnew
      exact .inr ⟨rfl, audience.store.length_lt_observe key fallback⟩
  | poll place count hheld hedit =>
    rename_i stream
    rcases List.mem_or_eq_of_mem_set hentry with hold | hnew
    · exact .inl ⟨entry, hold, rfl⟩
    · cases hnew
      exact .inl ⟨_, hheld, (stream.pollUpTo_source audience.store count).1.symm⟩
  | drop place hheld hedit =>
    rcases List.mem_or_eq_of_mem_set hentry with hold | hnew
    · exact .inl ⟨entry, hold, rfl⟩
    · cases hnew

theorem opened (h : operation.Does audience next) (hopened : audience.Opened) : next.Opened := by
  intro entry hentry
  rcases h.channel hentry with ⟨held, hheld, hsame⟩ | ⟨hnew, hlt⟩
  · rw [← hsame]
    exact Nat.lt_of_lt_of_le (hopened held hheld) h.length_le
  · rwa [hnew]

theorem apart (h : operation.Does audience next) {channel : Nat}
    (hchannel : channel < audience.store.feed.channels.length) (hapart : audience.Apart channel) :
    next.Apart channel := by
  intro entry hentry
  rcases h.channel hentry with ⟨held, hheld, hsame⟩ | ⟨hnew, -⟩
  · rw [← hsame]
    exact hapart held hheld
  · rw [hnew]
    exact Nat.ne_of_gt hchannel

/-- Only the edit changes the values. -/
theorem values (h : operation.Does audience next) :
    next.store.values = (audience.store.edited operation.edit?.toList).values := by
  cases h with
  | edit edit hedit =>
    rw [hedit]
    rfl
  | quiet hedit | observe _ _ _ hedit | drop _ _ hedit =>
    rw [hedit]
    rfl
  | poll place count hheld hedit =>
    rename_i stream
    rw [hedit]
    exact stream.pollUpTo_values audience.store count

/-- An observable of another channel awaits what it did, and what the edit shows. -/
theorem awaits (h : operation.Does audience next) {o : Observable} {items : List Value}
    (ho : o.Awaits audience.store items) (hapart : audience.Apart o.channel) :
    o.Awaits next.store
      (items ++ audience.store.successive o.key o.fallback operation.edit?.toList) := by
  cases h with
  | edit edit hedit =>
    rw [hedit]
    exact ho.edited [edit]
  | quiet hedit =>
    rw [hedit, Option.toList_none, successive, List.append_nil]
    exact ho
  | observe key fallback view hedit =>
    rw [hedit, Option.toList_none, successive, List.append_nil]
    exact ho.observe key fallback
  | poll place count hheld hedit =>
    rw [hedit, Option.toList_none, successive, List.append_nil]
    exact ho.pollUpTo_other_stream (hapart _ hheld).symm count
  | drop place hheld hedit =>
    rw [hedit, Option.toList_none, successive, List.append_nil]
    exact ho.drop (hapart _ hheld).symm

end Does

end Operation

/-! ### Runs -/

theorem Audience.opened_after (values : Entries Value) (operations : List Operation) :
    ((holding values).after operations).Opened := by
  have hfrom (audience : Audience) (h : audience.Opened) :
      (audience.after operations).Opened := by
    induction operations generalizing audience with
    | nil => exact h
    | cons operation rest ih => exact ih _ ((operation.does_apply audience).opened h)
  exact hfrom (holding values) nofun

theorem edited_values {store after : Store} (h : after.values = store.values)
    (edits : List Edit) : (after.edited edits).values = (store.edited edits).values := by
  induction edits generalizing after store with
  | nil => exact h
  | cons edit rest ih => exact ih (edit.apply_values h)

theorem edited_append (store : Store) (edits more : List Edit) :
    store.edited (edits ++ more) = (store.edited edits).edited more := List.foldl_append

/-- Over a run, only the edits change the values. -/
theorem Audience.after_values (audience : Audience) (operations : List Operation) :
    (audience.after operations).store.values =
      (audience.store.edited (operations.filterMap Operation.edit?)).values := by
  induction operations generalizing audience with
  | nil => rfl
  | cons operation rest ih =>
    have hvalues := (operation.does_apply audience).values
    refine (ih (operation.apply audience)).trans ((edited_values hvalues _).trans ?_)
    rw [← edited_append]
    cases h : operation.edit? <;> simp [h]

theorem filterMap_edit? (turn : Audience.Turn) (turns : List Audience.Turn) :
    (turn :: turns).filterMap Audience.Turn.edit? =
      turn.edit?.toList ++ turns.filterMap Audience.Turn.edit? := by
  cases h : turn.edit? <;> simp [h]

/-- A stream that is followed shows what it awaited and then each change of its key. -/
theorem Observable.Awaits.follow_stream {stream : Stream α} {audience : Audience}
    {items : List Value} (h : stream.source.Awaits audience.store items)
    (hapart : audience.Apart stream.source.channel) (turns : List Audience.Turn) :
    let edits := turns.filterMap Audience.Turn.edit?
    let (taken, last, after) := stream.follow audience turns
    ∃ waiting, last.source.Awaits after.store waiting ∧ last.view = stream.view ∧
      taken ++ waiting.map (fun value => (stream.view value).1) =
        (items ++ audience.store.successive stream.source.key stream.source.fallback edits).map
          (fun value => (stream.view value).1) ∧
      after.store.values = (audience.store.edited edits).values := by
  induction turns generalizing stream audience items with
  | nil => exact ⟨items, h, rfl, by simp [successive], rfl⟩
  | cons turn rest ih =>
    rw [filterMap_edit?]
    cases turn with
    | operation operation =>
      have hdoes := operation.does_apply audience
      have hvalues := hdoes.values
      obtain ⟨waiting, hlast, hview, htaken, hend⟩ :=
        ih (hdoes.awaits h hapart) (hdoes.apart h.lt_length hapart)
      refine ⟨waiting, hlast, hview, htaken.trans ?_, hend.trans ?_⟩
      · rw [successive_append, successive_congr hvalues, List.append_assoc]
        rfl
      · rw [edited_values hvalues, edited_append]
        rfl
    | poll count =>
      obtain ⟨first, after, events, hpoll, hawaits, hvalues⟩ := h.pollUpTo_stream count
      have hnext : Observable.Awaits
          (Stream.mk { stream.source with first } stream.view).source
          { audience with store := after }.store (items.drop count) := hawaits
      obtain ⟨waiting, hlast, hview, htaken, hend⟩ := ih hnext hapart
      simp only [Stream.follow, hpoll]
      refine ⟨waiting, hlast, hview, ?_, hend.trans (edited_values hvalues _)⟩
      rw [Polled.items_ofItems, List.append_assoc, htaken, successive_congr hvalues,
        ← List.map_take, ← List.map_append, ← List.append_assoc, List.take_append_drop]
      rfl

end Preferences.Store
