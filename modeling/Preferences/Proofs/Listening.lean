import Preferences.Proofs.Delivery
import Preferences.Proofs.Observed

/-! The listener of a feed. `Heard` follows it through a log: it is registered and released in turn.
`Feed.Serves` says that the registered channels are those with certain numbers, and that there is a
listener for them and only for them. What is done to a store leaves both as they are, or opens one
observable, or ends one. -/

namespace Preferences.Store

/-! ### Logs -/

/-- Whether an event is about the listener. -/
def Event.ofListener : Event → Bool
  | registered | released => true
  | _ => false

/-- A log over which a listener that is registered or not, as `before` says, comes to be so or not,
as `after` says. It is never registered twice, nor released twice. -/
inductive Heard : (before : Bool) → List Event → (after : Bool) → Prop where
  | nil (listening : Bool) : Heard listening [] listening
  | registered {log : List Event} {after : Bool} (h : Heard true log after) :
      Heard false (.registered :: log) after
  | released {log : List Event} {after : Bool} (h : Heard false log after) :
      Heard true (.released :: log) after
  | other {event : Event} {before after : Bool} {log : List Event}
      (hevent : event.ofListener = false) (h : Heard before log after) :
      Heard before (event :: log) after

/-- Events of a listener in turn, from when it is registered or not. -/
def turns (listening : Bool) : Nat → List Event
  | 0 => []
  | count + 1 => (if listening then .released else .registered) :: turns (!listening) count

namespace Heard

variable {before between after : Bool} {log more : List Event}

theorem append (h : Heard before log between) (h' : Heard between more after) :
    Heard before (log ++ more) after := by
  induction h with
  | nil => exact h'
  | registered _ ih => exact .registered (ih h')
  | released _ ih => exact .released (ih h')
  | other hevent _ ih => exact .other hevent (ih h')

theorem of_quiet (h : ∀ event ∈ log, event.ofListener = false) : Heard before log before := by
  induction log with
  | nil => exact .nil before
  | cons event rest ih =>
    exact .other (h event List.mem_cons_self) (ih fun e he => h e (List.mem_cons_of_mem _ he))

/-- The listener's own events in a log are in turn. -/
theorem exists_turns (h : Heard before log after) :
    ∃ count, log.filter Event.ofListener = turns before count := by
  induction h with
  | nil => exact ⟨0, rfl⟩
  | registered _ ih =>
    obtain ⟨count, hcount⟩ := ih
    exact ⟨count + 1, congrArg (Event.registered :: ·) hcount⟩
  | released _ ih =>
    obtain ⟨count, hcount⟩ := ih
    exact ⟨count + 1, congrArg (Event.released :: ·) hcount⟩
  | other hevent _ ih =>
    obtain ⟨count, hcount⟩ := ih
    have hskip : ¬Event.ofListener _ = true := hevent ▸ Bool.false_ne_true
    exact ⟨count, (List.filter_cons_of_neg hskip).trans hcount⟩

end Heard

namespace Feed

theorem subscribe_heard (feed : Feed α) : Heard feed.listening feed.subscribe.2.2 true := by
  rw [subscribe]
  dsimp only
  cases feed.listening with
  | false => exact .registered (.other rfl (.nil true))
  | true => exact .other rfl (.nil true)

theorem publish_heard (feed : Feed α) (change : α) :
    Heard feed.listening (feed.publish change).2 (feed.publish change).1.listening := by
  rw [publish_listening]
  refine .of_quiet fun event hevent => ?_
  unfold Feed.publish at hevent
  split at hevent
  · rw [List.mem_singleton.1 hevent]
    rfl
  · cases hevent

theorem unsubscribe_heard (feed : Feed α) (id : Nat) :
    Heard feed.listening (feed.unsubscribe id).2 (feed.unsubscribe id).1.listening := by
  unfold unsubscribe
  split
  · exact .nil _
  · rename_i channel _
    have hsame (after : Channel α) : (feed.setChannel id after).listening = feed.listening := rfl
    dsimp only
    split
    · rename_i hleft
      rw [Bool.and_eq_true, hsame] at hleft
      rw [hleft.2]
      exact .other rfl (.released (.nil false))
    · exact .other rfl (.nil _)

theorem dropReceiver_listening (feed : Feed α) (id : Nat) :
    (feed.dropReceiver id).listening = feed.listening := by
  unfold dropReceiver
  split <;> rfl

theorem close_heard (feed : Feed α) (id : Nat) :
    Heard feed.listening (feed.close id).2 (feed.close id).1.listening := by
  have hheard := unsubscribe_heard (feed.dropReceiver id) id
  rwa [dropReceiver_listening] at hheard

/-! ### Channels that are served -/

/-- The numbers of the registered channels. -/
def registeredIds (feed : Feed α) : List Nat :=
  (feed.channels.zipIdx.filter (·.1.registered)).map (·.2)

theorem mem_registeredIds {feed : Feed α} {id : Nat} :
    id ∈ feed.registeredIds ↔
      ∃ channel, feed.channel? id = some channel ∧ channel.registered = true := by
  simp only [registeredIds, List.mem_map, List.mem_filter]
  constructor
  · rintro ⟨⟨channel, place⟩, ⟨hmem, hregistered⟩, rfl⟩
    exact ⟨channel, List.mk_mem_zipIdx_iff_getElem?.1 hmem, hregistered⟩
  · rintro ⟨channel, hchannel, hregistered⟩
    exact ⟨(channel, id), ⟨List.mk_mem_zipIdx_iff_getElem?.2 hchannel, hregistered⟩, rfl⟩

theorem registeredIds_nodup (feed : Feed α) : feed.registeredIds.Nodup := by
  refine List.Nodup.sublist (List.filter_sublist.map _) ?_
  rw [List.zipIdx_map_snd]
  exact List.nodup_range'

theorem length_registeredIds (feed : Feed α) : feed.registeredIds.length = feed.subscribers := by
  rw [registeredIds, List.length_map, ← List.countP_eq_length_filter, subscribers]
  conv => rhs; rw [← List.zipIdx_map_fst 0 feed.channels, List.countP_map]
  rfl

/-- The registered channels are those with the numbers in `held`, each once, and their receivers are
held. -/
structure Registers (feed : Feed α) (held : List Nat) : Prop where
  nodup : held.Nodup
  waits : ∀ id ∈ held, ∃ queue, feed.Waits id queue
  mem : ∀ id channel, feed.channel? id = some channel → channel.registered = true → id ∈ held

/-- The feed has a listener if and only if it registers any channels. -/
structure Serves (feed : Feed α) (held : List Nat) : Prop extends feed.Registers held where
  listening : feed.listening = !held.isEmpty

theorem serves_empty : (empty : Feed α).Serves [] :=
  ⟨⟨List.nodup_nil, nofun, nofun⟩, rfl⟩

variable {feed after : Feed α} {held : List Nat} {id : Nat}

/-- Subscribers are counted as they are held. -/
theorem Registers.subscribers_eq (h : feed.Registers held) : feed.subscribers = held.length := by
  rw [← length_registeredIds]
  refine ((List.perm_ext_iff_of_nodup feed.registeredIds_nodup h.nodup).2 fun id => ?_).length_eq
  rw [mem_registeredIds]
  constructor
  · rintro ⟨channel, hchannel, hregistered⟩
    exact h.mem id channel hchannel hregistered
  · intro hid
    obtain ⟨queue, hwaits⟩ := h.waits id hid
    exact ⟨_, hwaits, rfl⟩

/-- What waits in a channel does not matter. -/
theorem Registers.alter (h : feed.Registers held) {queue : List α}
    (halters : feed.Alters after id fun channel => { channel with queue }) :
    after.Registers held where
  nodup := h.nodup
  waits other hother := by
    obtain ⟨waiting, hwaits⟩ := h.waits other hother
    have hbefore : feed.channel? other = some ⟨waiting, true, true, true⟩ := hwaits
    by_cases heq : other = id
    · exact ⟨queue, by rw [Waits, halters.channel, if_pos heq, hbefore]; rfl⟩
    · exact ⟨waiting, by rw [Waits, halters.channel, if_neg heq, hbefore]⟩
  mem other channel hchannel hregistered := by
    rw [halters.channel] at hchannel
    split at hchannel
    · obtain ⟨before, hbefore, rfl⟩ := Option.map_eq_some_iff.1 hchannel
      exact h.mem other before hbefore hregistered
    · exact h.mem other channel hchannel hregistered

/-- A channel that is closed is no longer registered. -/
theorem Registers.erase (h : feed.Registers held)
    (halters : feed.Alters after id fun _ => ⟨[], false, false, false⟩) :
    after.Registers (held.erase id) where
  nodup := h.nodup.erase id
  waits other hother := by
    obtain ⟨hne, hmem⟩ := (h.nodup.mem_erase_iff).1 hother
    obtain ⟨waiting, hwaits⟩ := h.waits other hmem
    exact ⟨waiting, (halters.channel_of_ne hne).trans hwaits⟩
  mem other channel hchannel hregistered := by
    rw [halters.channel] at hchannel
    split at hchannel
    · obtain ⟨before, -, rfl⟩ := Option.map_eq_some_iff.1 hchannel
      cases hregistered
    · rename_i hne
      exact h.nodup.mem_erase_iff.2 ⟨hne, h.mem other channel hchannel hregistered⟩

/-- The listener is released if no channel is registered any more. -/
theorem unsubscribe_listening {channel : Channel α} (hchannel : feed.channel? id = some channel) :
    (feed.unsubscribe id).1.listening =
      (feed.listening && (feed.unsubscribe id).1.subscribers != 0) := by
  rw [unsubscribe, hchannel]
  dsimp only
  generalize hclosed : feed.setChannel id _ = closed
  have hsame : closed.listening = feed.listening := by
    rw [← hclosed]
    rfl
  rw [← hsame]
  split
  · rename_i hleft
    rw [Bool.and_eq_true, decide_eq_true_eq] at hleft
    show false = (closed.listening && closed.subscribers != 0)
    rw [hleft.1, bne_self_eq_false, Bool.and_false]
  · rename_i hleft
    cases hlistening : closed.listening with
    | false => rfl
    | true =>
      rw [hlistening, Bool.and_true, decide_eq_true_eq] at hleft
      rw [Bool.true_and, eq_comm, bne_iff_ne]
      exact hleft

namespace Serves

theorem perm {others : List Nat} (h : feed.Serves held) (hperm : held.Perm others) :
    feed.Serves others where
  nodup := hperm.nodup_iff.1 h.nodup
  waits id hid := h.waits id (hperm.mem_iff.2 hid)
  mem id channel hchannel hregistered := hperm.mem_iff.1 (h.mem id channel hchannel hregistered)
  listening := by rw [h.listening, hperm.isEmpty_eq]

theorem subscribe (h : feed.Serves held) :
    feed.subscribe.2.1.Serves (held ++ [feed.subscribe.1]) where
  nodup := by
    refine List.nodup_append.2 ⟨h.nodup, List.pairwise_singleton _ _, fun id hid new hnew => ?_⟩
    obtain ⟨queue, hwaits⟩ := h.waits id hid
    rw [List.mem_singleton.1 hnew]
    exact hwaits.ne_subscribe
  waits id hid := by
    rcases List.mem_append.1 hid with hid | hid
    · obtain ⟨queue, hwaits⟩ := h.waits id hid
      exact ⟨queue, hwaits.subscribe⟩
    · rw [List.mem_singleton.1 hid]
      exact ⟨[], feed.subscribe_waits⟩
  mem id channel hchannel hregistered := by
    rw [channel?_subscribe] at hchannel
    split at hchannel
    · rename_i hnew
      exact List.mem_append_right _ (List.mem_singleton.2 hnew)
    · exact List.mem_append_left _ (h.mem id channel hchannel hregistered)
  listening := by
    cases held <;> rfl

theorem publish (h : feed.Serves held) (change : α) : (feed.publish change).1.Serves held where
  nodup := h.nodup
  waits id hid := by
    obtain ⟨queue, hwaits⟩ := h.waits id hid
    have hlistening : feed.listening = true := by
      rw [h.listening, List.isEmpty_eq_false_iff_exists_mem.2 ⟨id, hid⟩]
      rfl
    exact ⟨_, hwaits.publish hlistening change⟩
  mem id channel hchannel hregistered := by
    obtain ⟨before, hbefore, rfl | rfl⟩ := exists_of_publish hchannel
    · exact h.mem id _ hbefore hregistered
    · exact h.mem id before hbefore (Channel.registered_of_send hregistered)
  listening := (feed.publish_listening change).trans h.listening

/-- What waits in a channel does not matter. -/
theorem setQueue (h : feed.Serves held) {channel : Channel α}
    (hchannel : feed.channel? id = some channel) (queue : List α) :
    (feed.setChannel id { channel with queue }).Serves held :=
  ⟨h.toRegisters.alter (setChannel_alters hchannel fun channel => { channel with queue }),
    h.listening⟩

/-- The listener is released with the last channel that is held. -/
theorem close (h : feed.Serves held) (hid : id ∈ held) :
    (feed.close id).1.Serves (held.erase id) := by
  have hclosed : (feed.close id).1.Registers (held.erase id) :=
    h.toRegisters.erase (feed.close_alters id)
  refine ⟨hclosed, ?_⟩
  obtain ⟨queue, hwaits⟩ := h.waits id hid
  have hchannel : (feed.dropReceiver id).channel? id = some ⟨[], true, true, false⟩ := by
    rw [(feed.dropReceiver_alters id).channel_self, hwaits]
    rfl
  have hlistening : (feed.dropReceiver id).listening = true := by
    rw [dropReceiver_listening, h.listening,
      List.isEmpty_eq_false_iff_exists_mem.2 ⟨id, hid⟩]
    rfl
  show ((feed.dropReceiver id).unsubscribe id).1.listening = _
  rw [unsubscribe_listening hchannel, hlistening, Bool.true_and]
  show ((feed.close id).1.subscribers != 0) = _
  rw [hclosed.subscribers_eq]
  cases held.erase id <;> rfl

end Serves

end Feed

/-! ### Operations on a store -/

/-- What is done to a store, as far as its listener is concerned: the channels that are held are
still the registered ones, and the log follows the listener. -/
structure Leaves (store after : Store) (events : List Event) : Prop where
  serves : ∀ held, store.feed.Serves held → after.feed.Serves held
  heard : Heard store.feed.listening events after.feed.listening

/-- The views of a stream say nothing of the listener. -/
def Stream.Quiet (stream : Stream α) : Prop :=
  ∀ value, ∀ event ∈ (stream.view value).2, event.ofListener = false

/-- A stream is opened: its channel is one more that is held. -/
structure Opens (store : Store) (stream : Stream α) (after : Store) (events : List Event) :
    Prop where
  serves : ∀ held, store.feed.Serves held →
    after.feed.Serves (held ++ [stream.source.channel])
  heard : Heard store.feed.listening events after.feed.listening
  quiet : stream.Quiet

variable {store after : Store} {events : List Event}

namespace Leaves

theorem refl (store : Store) : Leaves store store [] := ⟨fun _ h => h, .nil _⟩

theorem of_quiet (h : ∀ event ∈ events, event.ofListener = false) : Leaves store store events :=
  ⟨fun _ h => h, .of_quiet h⟩

theorem trans {last : Store} {more : List Event} (h : Leaves store after events)
    (h' : Leaves after last more) : Leaves store last (events ++ more) :=
  ⟨fun held hheld => h'.serves held (h.serves held hheld), h.heard.append h'.heard⟩

theorem cons {event : Event} (hevent : event.ofListener = false) (h : Leaves store after events) :
    Leaves store after (event :: events) :=
  ⟨h.serves, .other hevent h.heard⟩

/-- What the store holds does not matter. -/
theorem of_values {values : Entries Value} (h : Leaves { store with values } after events) :
    Leaves store after events :=
  ⟨h.serves, h.heard⟩

end Leaves

theorem publish_leaves (store : Store) (change : Change) :
    Leaves store (store.publish change).1 (store.publish change).2 :=
  ⟨fun _ hheld => hheld.publish change, store.feed.publish_heard change⟩

theorem write_leaves (store : Store) (key : String) (value : Value) :
    Leaves store (store.write key value).1 (store.write key value).2 := by
  unfold Store.write
  split
  · exact .refl store
  · exact .cons rfl (publish_leaves { store with values := _ } _).of_values

theorem remove_leaves (store : Store) (key : String) :
    Leaves store (store.remove key).1 (store.remove key).2 := by
  unfold Store.remove
  split
  · exact .cons rfl (publish_leaves { store with values := _ } _).of_values
  · exact .refl store

theorem publishGone_leaves (store : Store) (keys : List String) :
    Leaves store (publishGone store keys).1 (publishGone store keys).2 := by
  induction keys generalizing store with
  | nil => exact .refl store
  | cons key rest ih => exact (publish_leaves store ⟨key, none⟩).trans (ih _)

theorem clear_leaves (store : Store) : Leaves store store.clear.1 store.clear.2 :=
  .cons rfl (publishGone_leaves { store with values := .empty } _).of_values

theorem decode_quiet (key : String) (stored : Option Value) (fallback : Value) :
    ∀ event ∈ (decode key stored fallback).2, event.ofListener = false := by
  intro event hevent
  unfold decode at hevent
  split at hevent
  · cases hevent
  · split at hevent
    · cases hevent
    · rw [List.mem_singleton.1 hevent]
      rfl

theorem read_leaves (store : Store) (key : String) (fallback : Value) :
    Leaves store store (store.read key fallback).2 :=
  .of_quiet (decode_quiet key _ fallback)

/-- An observable, however its values are shown. -/
theorem observe_opens (store : Store) (key : String) (fallback : Value)
    {view : Value → α × List Event}
    (hview : ∀ value, ∀ event ∈ (view value).2, event.ofListener = false) :
    Opens store ⟨(store.observe key fallback).1, view⟩ (store.observe key fallback).2.1
      (store.observe key fallback).2.2 where
  serves _ hheld := hheld.subscribe
  heard := store.feed.subscribe_heard.append (.of_quiet (decode_quiet key _ fallback))
  quiet := hview

/-- Ending an observable closes its channel. -/
theorem drop_serves {held : List Nat} {o : Observable} (h : store.feed.Serves held)
    (ho : o.channel ∈ held) : (store.drop o).1.feed.Serves (held.erase o.channel) :=
  h.close ho

theorem drop_heard (store : Store) (o : Observable) :
    Heard store.feed.listening (store.drop o).2 (store.drop o).1.feed.listening :=
  store.feed.close_heard o.channel

/-! ### Polls -/

theorem Observable.poll_leaves (o : Observable) (store : Store) :
    Leaves store (o.poll store).2.2.1 (o.poll store).2.2.2 := by
  unfold Observable.poll
  split
  · exact .refl store
  · exact .refl store
  · rename_i channel _ hchannel
    dsimp only
    have htaken (queue : List Change) (quiet : List Event)
        (hquiet : ∀ event ∈ quiet, event.ofListener = false) :
        Leaves store { store with
          feed := store.feed.setChannel o.channel { channel with queue } } quiet :=
      ⟨fun _ hheld => hheld.setQueue hchannel queue, .of_quiet hquiet⟩
    split
    · exact htaken _ _ (decode_quiet _ _ _)
    · exact htaken _ _ nofun

namespace Stream

variable {stream : Stream α}

theorem Quiet.map (h : stream.Quiet) (f : α → β) : (stream.map f).Quiet := h

theorem Quiet.poll_leaves (h : stream.Quiet) (store : Store) :
    Leaves store (stream.poll store).2.2.1 (stream.poll store).2.2.2 := by
  have hpolled := stream.source.poll_leaves store
  unfold Stream.poll
  rcases hpoll : stream.source.poll store with ⟨found, source, after, events⟩
  rw [hpoll] at hpolled
  cases found with
  | item value =>
    dsimp only
    exact hpolled.trans (.of_quiet (h value))
  | pending | ended => exact hpolled

/-- A poll keeps the channel of a stream and its view. -/
theorem poll_same (stream : Stream α) (store : Store) :
    (stream.poll store).2.1.source.channel = stream.source.channel ∧
      (stream.poll store).2.1.view = stream.view := by
  have hchannel := Observable.Awaits.poll_channel stream.source store
  unfold Stream.poll
  rcases hpoll : stream.source.poll store with ⟨found, source, after, events⟩
  rw [hpoll] at hchannel
  cases found <;> exact ⟨hchannel, rfl⟩

theorem Quiet.pollUpTo (h : stream.Quiet) (store : Store) (count : Nat) :
    Leaves store (stream.pollUpTo store count).2.2.1 (stream.pollUpTo store count).2.2.2 ∧
      (stream.pollUpTo store count).2.1.source.channel = stream.source.channel ∧
      (stream.pollUpTo store count).2.1.Quiet := by
  induction count generalizing stream store with
  | zero => exact ⟨.refl store, rfl, h⟩
  | succ count ih =>
    have hpolled := h.poll_leaves store
    obtain ⟨hchannel, hview⟩ := stream.poll_same store
    unfold Stream.pollUpTo
    rcases hpoll : stream.poll store with ⟨found, next, after, events⟩
    rw [hpoll] at hpolled hchannel hview
    have hnext : next.Quiet := fun value => by
      rw [show next.view = stream.view from hview]
      exact h value
    cases found with
    | item value =>
      obtain ⟨hrest, hsame, hquiet⟩ := ih hnext after
      exact ⟨hpolled.trans hrest, hsame.trans hchannel, hquiet⟩
    | pending | ended => exact ⟨hpolled, hchannel, hnext⟩

end Stream

end Preferences.Store
