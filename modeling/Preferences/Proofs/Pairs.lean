import Preferences.Proofs.Contents
import Preferences.Proofs.Observed

/-! Stores that nobody tells apart. Two stores are paired if they hold the same values and have the
same channels, and in the channel of each observable the same changes of its key wait. Changes of
other keys may be mixed in otherwise. Whatever is done to both has the same results and the same
log, and leaves a pair. -/

namespace Preferences.Store

/-! ### Outlines -/

/-- A channel without what waits in it. -/
def Channel.outline (channel : Channel α) : Channel α := { channel with queue := [] }

/-- A feed without what waits in its channels. -/
def Feed.outline (feed : Feed α) : Feed α :=
  { feed with channels := feed.channels.map Channel.outline }

/-- Several changes are sent to a channel, one after another. -/
def Channel.sendAll (channel : Channel α) (changes : List α) : Channel α :=
  changes.foldl Channel.send channel

/-- Several changes are published, one after another. -/
def Feed.publishAll (feed : Feed α) (changes : List α) : Feed α :=
  changes.foldl (fun feed change => (feed.publish change).1) feed

namespace Channel

/-- Changes are waiting if someone will take them. -/
theorem sendAll_queue (channel : Channel α) (changes : List α) :
    (channel.sendAll changes).queue =
      if channel.registered && channel.receiving then channel.queue ++ changes
      else channel.queue := by
  induction changes generalizing channel with
  | nil => simp [sendAll]
  | cons change rest ih =>
    rw [sendAll, List.foldl_cons]
    refine (ih (channel.send change)).trans ?_
    obtain ⟨queue, registered, subscribed, receiving⟩ := channel
    cases registered <;> cases receiving <;> simp [send]

/-- Which change it is does not matter to the outline. -/
theorem outline_send (channel : Channel α) (change other : α) :
    (channel.send change).outline = (channel.outline.send other).outline := by
  obtain ⟨queue, registered, subscribed, receiving⟩ := channel
  cases registered <;> cases receiving <;> rfl

end Channel

namespace Feed

theorem channel?_outline (feed : Feed α) (id : Nat) :
    feed.outline.channel? id = (feed.channel? id).map Channel.outline := List.getElem?_map

theorem outline_setChannel (feed : Feed α) (id : Nat) (channel : Channel α) :
    (feed.setChannel id channel).outline = feed.outline.setChannel id channel.outline := by
  simp only [outline, setChannel, List.map_set]

theorem subscribers_outline (feed : Feed α) : feed.outline.subscribers = feed.subscribers := by
  rw [subscribers, outline, List.countP_map]
  rfl

theorem length_outline (feed : Feed α) :
    feed.outline.channels.length = feed.channels.length := List.length_map _

theorem listening_eq {feed other : Feed α} (h : feed.outline = other.outline) :
    feed.listening = other.listening := by
  have hlistening := congrArg Feed.listening h
  exact hlistening

theorem outline_publish (feed : Feed α) (change other : α) :
    (feed.publish change).1.outline = (feed.outline.publish other).1.outline := by
  have hlistening : feed.outline.listening = feed.listening := rfl
  cases h : feed.listening with
  | true =>
    simp only [Feed.publish, h, if_true, outline, List.map_map, Feed.mk.injEq, and_true]
    exact List.map_congr_left fun channel _ => channel.outline_send change other
  | false =>
    rw [Feed.publish, Feed.publish, hlistening, h]
    simp [outline, Function.comp_def, Channel.outline]

theorem publish_events {feed other : Feed α} (h : feed.outline = other.outline)
    (change change' : α) : (feed.publish change).2 = (other.publish change').2 := by
  rw [Feed.publish, Feed.publish, listening_eq h, ← subscribers_outline, h, subscribers_outline]
  split <;> rfl

/-- How many changes are published is all that the outline knows of them. -/
theorem outline_publishAll {feed other : Feed α} (h : feed.outline = other.outline)
    {changes changes' : List α} (hlength : changes.length = changes'.length) :
    (feed.publishAll changes).outline = (other.publishAll changes').outline := by
  induction changes generalizing changes' feed other with
  | nil =>
    rw [List.eq_nil_of_length_eq_zero hlength.symm]
    exact h
  | cons change rest ih =>
    obtain ⟨change', rest', rfl⟩ := List.exists_cons_of_length_eq_add_one hlength.symm
    rw [List.length_cons, List.length_cons, Nat.succ_inj] at hlength
    show ((feed.publish change).1.publishAll rest).outline =
      ((other.publish change').1.publishAll rest').outline
    refine ih ?_ hlength
    rw [outline_publish feed change change, h, ← outline_publish other change' change]

theorem channel?_publishAll (feed : Feed α) (changes : List α) (id : Nat) :
    (feed.publishAll changes).channel? id =
      if feed.listening then (feed.channel? id).map (·.sendAll changes) else feed.channel? id := by
  induction changes generalizing feed with
  | nil => simp [publishAll, Channel.sendAll]
  | cons change rest ih =>
    refine (ih (feed.publish change).1).trans ?_
    rw [publish_listening, channel?_publish]
    split
    · rw [Option.map_map]
      rfl
    · rfl

theorem outline_subscribe (feed : Feed α) :
    feed.subscribe.2.1.outline = feed.outline.subscribe.2.1 := by
  simp [subscribe, outline, Channel.outline, Channel.fresh]

theorem subscribe_same {feed other : Feed α} (h : feed.outline = other.outline) :
    feed.subscribe.1 = other.subscribe.1 ∧ feed.subscribe.2.2 = other.subscribe.2.2 := by
  have hlength : feed.channels.length = other.channels.length := by
    rw [← length_outline, h, length_outline]
  have hsubscribers : feed.subscribe.2.1.subscribers = other.subscribe.2.1.subscribers := by
    rw [← subscribers_outline, outline_subscribe, h, ← outline_subscribe, subscribers_outline]
  refine ⟨hlength, ?_⟩
  show (if feed.listening then [] else [.registered]) ++
      [Event.subscribed feed.channels.length feed.subscribe.2.1.subscribers] = _
  rw [listening_eq h, hlength, hsubscribers]
  rfl

theorem outline_dropReceiver (feed : Feed α) (id : Nat) :
    (feed.dropReceiver id).outline = feed.outline.dropReceiver id := by
  rw [dropReceiver, dropReceiver, channel?_outline]
  cases feed.channel? id with
  | none => rfl
  | some channel => exact outline_setChannel feed id _

theorem unsubscribe_outline (feed : Feed α) (id : Nat) :
    feed.outline.unsubscribe id =
      ((feed.unsubscribe id).1.outline, (feed.unsubscribe id).2) := by
  rw [unsubscribe, unsubscribe, channel?_outline]
  cases feed.channel? id with
  | none => rfl
  | some channel =>
    dsimp only [Option.map_some]
    generalize hafter :
      feed.setChannel id { channel with registered := false, subscribed := false } = after
    have houtline : feed.outline.setChannel id
        { channel.outline with registered := false, subscribed := false } = after.outline := by
      rw [← hafter, outline_setChannel]
      rfl
    rw [houtline, subscribers_outline]
    show (if decide (after.subscribers = 0) && after.listening then _ else _) = _
    split <;> rfl

theorem close_outline (feed : Feed α) (id : Nat) :
    feed.outline.close id = ((feed.close id).1.outline, (feed.close id).2) := by
  rw [close, ← outline_dropReceiver, unsubscribe_outline]
  rfl

end Feed

/-! ### Pairs of stores -/

/-- The key of each channel that is watched: whoever holds the channel looks for changes of it. -/
abbrev Watch := Nat → String → Prop

/-- One more channel is watched. -/
def Watch.plus (watched : Watch) (o : Observable) : Watch :=
  fun channel key => watched channel key ∨ (channel = o.channel ∧ key = o.key)

/-- Two stores that hold the same, and in whose channels the same is to be seen. -/
structure Paired (watched : Watch) (store other : Store) : Prop where
  values : store.values = other.values
  outline : store.feed.outline = other.feed.outline
  waits : ∀ id key, watched id key → ∃ channel channel',
    store.feed.channel? id = some channel ∧ other.feed.channel? id = some channel' ∧
      channel.queue.filter (·.key = key) = channel'.queue.filter (·.key = key)
  keyed : ∀ id key key', watched id key → watched id key' → key = key'

/-- What is done to two stores has the same log and leaves a pair. -/
def PairedAfter (watched : Watch) (result result' : Store × List Event) : Prop :=
  Paired watched result.1 result'.1 ∧ result.2 = result'.2

namespace Paired

variable {watched : Watch} {store other : Store}

theorem mono {fewer : Watch} (h : Paired watched store other)
    (hfewer : ∀ id key, fewer id key → watched id key) : Paired fewer store other where
  values := h.values
  outline := h.outline
  waits id key hid := h.waits id key (hfewer id key hid)
  keyed id key key' hid hid' := h.keyed id key key' (hfewer id key hid) (hfewer id key' hid')

theorem refl_of_unwatched (hnone : ∀ id key, ¬watched id key) : Paired watched store store where
  values := rfl
  outline := rfl
  waits id key hid := absurd hid (hnone id key)
  keyed id key _ hid := absurd hid (hnone id key)

theorem withValues (h : Paired watched store other) (values : Entries Value) :
    Paired watched { store with values } { other with values } :=
  ⟨rfl, h.outline, h.waits, h.keyed⟩

theorem done (h : Paired watched store other) : PairedAfter watched (store, []) (other, []) :=
  ⟨h, rfl⟩

/-- Channels that are watched differ in what waits there for others. -/
theorem waiting (h : Paired watched store other) {id : Nat} {key : String}
    (hid : watched id key) : ∃ channel queue,
      store.feed.channel? id = some channel ∧
      other.feed.channel? id = some { channel with queue } ∧
      channel.queue.filter (·.key = key) = queue.filter (·.key = key) := by
  obtain ⟨channel, channel', hchannel, hchannel', hqueue⟩ := h.waits id key hid
  have houtline := congrArg (Feed.channel? · id) h.outline
  rw [Feed.channel?_outline, Feed.channel?_outline, hchannel, hchannel'] at houtline
  refine ⟨channel, channel'.queue, hchannel, ?_, hqueue⟩
  obtain ⟨queue, registered, subscribed, receiving⟩ := channel
  obtain ⟨queue', registered', subscribed', receiving'⟩ := channel'
  cases houtline
  exact hchannel'

/-! ### Changes -/

/-- As many changes are published to each, and the same ones of every key that is watched. -/
theorem publishAll (h : Paired watched store other) {changes changes' : List Change}
    (hlength : changes.length = changes'.length)
    (hsame : ∀ key, changes.filter (·.key = key) = changes'.filter (·.key = key)) :
    Paired watched { store with feed := store.feed.publishAll changes }
      { other with feed := other.feed.publishAll changes' } where
  values := h.values
  outline := Feed.outline_publishAll h.outline hlength
  waits id key hid := by
    obtain ⟨channel, queue, hchannel, hchannel', hqueue⟩ := h.waiting hid
    simp only [Feed.channel?_publishAll, Feed.listening_eq h.outline, hchannel, hchannel',
      Option.map_some]
    split
    · refine ⟨_, _, rfl, rfl, ?_⟩
      rw [Channel.sendAll_queue, Channel.sendAll_queue]
      split
      · rw [List.filter_append, List.filter_append, hqueue, hsame]
      · exact hqueue
    · exact ⟨_, _, rfl, rfl, hqueue⟩
  keyed := h.keyed

theorem publish (h : Paired watched store other) (change : Change) :
    PairedAfter watched (store.publish change) (other.publish change) := by
  have hlength : [change].length = [change].length := rfl
  exact ⟨h.publishAll hlength fun _ => rfl, Feed.publish_events h.outline change change⟩

theorem write (h : Paired watched store other) (key : String) (value : Value) :
    PairedAfter watched (store.write key value) (other.write key value) := by
  rw [Store.write, Store.write, h.values]
  split
  · exact h.done
  · obtain ⟨hafter, hevents⟩ :=
      (h.withValues (other.values.insert key value)).publish ⟨key, some value⟩
    exact ⟨hafter, congrArg (_ :: ·) hevents⟩

theorem remove (h : Paired watched store other) (key : String) :
    PairedAfter watched (store.remove key) (other.remove key) := by
  rw [Store.remove, Store.remove, h.values]
  split
  · obtain ⟨hafter, hevents⟩ := (h.withValues (other.values.erase key)).publish ⟨key, none⟩
    exact ⟨hafter, congrArg (_ :: ·) hevents⟩
  · exact h.done

theorem publishGone (h : Paired watched store other) (keys : List String) :
    PairedAfter watched (publishGone store keys) (publishGone other keys) := by
  induction keys generalizing store other with
  | nil => exact h.done
  | cons key rest ih =>
    obtain ⟨hfirst, hevents⟩ := h.publish ⟨key, none⟩
    obtain ⟨hafter, hmore⟩ := ih hfirst
    exact ⟨hafter, congrArg₂ (· ++ ·) hevents hmore⟩

theorem clear (h : Paired watched store other) :
    PairedAfter watched store.clear other.clear := by
  obtain ⟨hafter, hevents⟩ := (h.withValues .empty).publishGone other.values.keys
  rw [Store.clear, Store.clear, h.values]
  exact ⟨hafter, congrArg (_ :: ·) hevents⟩

theorem read_eq (h : Paired watched store other) (key : String) (fallback : Value) :
    store.read key fallback = other.read key fallback := by
  rw [Store.read, Store.read, h.values]

/-! ### Observables -/

theorem ne_length (h : Paired watched store other) {id : Nat} {key : String}
    (hid : watched id key) : id ≠ store.feed.channels.length := by
  obtain ⟨channel, -, hchannel, -⟩ := h.waits id key hid
  exact Nat.ne_of_lt (List.getElem?_eq_some_iff.1 hchannel).1

/-- Both open the same channel, and what is read first is the same. -/
theorem observe (h : Paired watched store other) (key : String) (fallback : Value) :
    (store.observe key fallback).1 = (other.observe key fallback).1 ∧
      (store.observe key fallback).2.2 = (other.observe key fallback).2.2 ∧
      Paired (watched.plus (store.observe key fallback).1) (store.observe key fallback).2.1
        (other.observe key fallback).2.1 := by
  obtain ⟨hid, hevents⟩ := Feed.subscribe_same h.outline
  have hread := h.read_eq key fallback
  refine ⟨?_, ?_, ⟨h.values, ?_, ?_, ?_⟩⟩
  · show Observable.mk store.feed.subscribe.1 key fallback (some (store.read key fallback).1) = _
    rw [hid, hread]
    rfl
  · show store.feed.subscribe.2.2 ++ (store.read key fallback).2 = _
    rw [hevents, hread]
    rfl
  · show store.feed.subscribe.2.1.outline = other.feed.subscribe.2.1.outline
    rw [Feed.outline_subscribe, h.outline, ← Feed.outline_subscribe]
  · rintro id k (hold | ⟨rfl, rfl⟩)
    · obtain ⟨channel, channel', hchannel, hchannel', hqueue⟩ := h.waits id k hold
      refine ⟨channel, channel', ?_, ?_, hqueue⟩
      · show store.feed.subscribe.2.1.channel? id = some channel
        rw [Feed.channel?_subscribe, if_neg (h.ne_length hold), hchannel]
      · show other.feed.subscribe.2.1.channel? id = some channel'
        have hne : id ≠ other.feed.channels.length := by
          rw [← (show store.feed.channels.length = other.feed.channels.length from hid)]
          exact h.ne_length hold
        rw [Feed.channel?_subscribe, if_neg hne, hchannel']
    · refine ⟨.fresh, .fresh, store.feed.subscribe_waits, ?_, rfl⟩
      show other.feed.subscribe.2.1.channel? store.feed.subscribe.1 = some .fresh
      rw [hid]
      exact other.feed.subscribe_waits
  · rintro id k k' (hold | ⟨rfl, rfl⟩) (hold' | ⟨hnew, rfl⟩)
    · exact h.keyed id k k' hold hold'
    · exact absurd hnew (h.ne_length hold)
    · exact absurd rfl (h.ne_length hold')
    · rfl

theorem drop (h : Paired watched store other) (o : Observable) :
    PairedAfter watched (store.drop o) (other.drop o) := by
  have hclose := store.feed.close_outline o.channel
  rw [h.outline, other.feed.close_outline] at hclose
  refine ⟨⟨h.values, (congrArg Prod.fst hclose).symm, fun id key hid => ?_, h.keyed⟩,
    (congrArg Prod.snd hclose).symm⟩
  obtain ⟨channel, channel', hchannel, hchannel', hqueue⟩ := h.waits id key hid
  have hstore := (store.feed.close_alters o.channel).channel id
  have hother := (other.feed.close_alters o.channel).channel id
  rw [hchannel] at hstore
  rw [hchannel'] at hother
  by_cases heq : id = o.channel
  · rw [if_pos heq] at hstore hother
    exact ⟨_, _, hstore, hother, rfl⟩
  · rw [if_neg heq] at hstore hother
    exact ⟨channel, channel', hstore, hother, hqueue⟩

/-- What waits in one channel is taken from it. -/
theorem setQueue (h : Paired watched store other) {id : Nat} {key : String} (hid : watched id key)
    {channel : Channel Change} {waiting : List Change}
    (hchannel : store.feed.channel? id = some channel)
    (hchannel' : other.feed.channel? id = some { channel with queue := waiting })
    {queue queue' : List Change}
    (hqueue : queue.filter (·.key = key) = queue'.filter (·.key = key)) :
    Paired watched { store with feed := store.feed.setChannel id { channel with queue } }
      { other with feed := other.feed.setChannel id { channel with queue := queue' } } where
  values := h.values
  outline := by
    show Feed.outline _ = Feed.outline _
    rw [Feed.outline_setChannel, Feed.outline_setChannel, h.outline]
    rfl
  waits other' k hk := by
    by_cases heq : other' = id
    · subst heq
      obtain rfl := h.keyed other' key k hid hk
      exact ⟨_, _, List.getElem?_set_self (List.getElem?_eq_some_iff.1 hchannel).1,
        List.getElem?_set_self (List.getElem?_eq_some_iff.1 hchannel').1, hqueue⟩
    · obtain ⟨found, found', hfound, hfound', hsame⟩ := h.waits other' k hk
      exact ⟨found, found', (Feed.channel?_setChannel_of_ne _ heq).trans hfound,
        (Feed.channel?_setChannel_of_ne _ heq).trans hfound', hsame⟩
  keyed := h.keyed

/-- An observable of a channel that is watched for its key finds the same in both. -/
theorem poll (h : Paired watched store other) {o : Observable} (ho : watched o.channel o.key) :
    (o.poll store).1 = (o.poll other).1 ∧ (o.poll store).2.1 = (o.poll other).2.1 ∧
      PairedAfter watched (o.poll store).2.2 (o.poll other).2.2 := by
  obtain ⟨channel, queue, hchannel, hchannel', hqueue⟩ := h.waiting ho
  unfold Observable.poll
  rw [hchannel, hchannel']
  cases o.first with
  | some value => exact ⟨rfl, rfl, h.done⟩
  | none =>
    dsimp only
    -- The same changes of the key wait, so both have a next one, or neither.
    rcases Observable.nextChange_cases o.key channel.queue with
      ⟨hnext, hfilter⟩ | ⟨change, rest, hnext, hfilter⟩ <;>
    rcases Observable.nextChange_cases o.key queue with
      ⟨hnext', hfilter'⟩ | ⟨change', rest', hnext', hfilter'⟩
    · rw [hnext, hnext']
      exact ⟨rfl, rfl, h.setQueue ho hchannel hchannel' rfl, rfl⟩
    · rw [hqueue, hfilter'] at hfilter
      cases hfilter
    · rw [← hqueue, hfilter] at hfilter'
      cases hfilter'
    · rw [hqueue, hfilter'] at hfilter
      obtain ⟨rfl, hrest⟩ := List.cons.inj hfilter
      rw [hnext, hnext']
      exact ⟨rfl, rfl, h.setQueue ho hchannel hchannel' hrest.symm, rfl⟩

end Paired

theorem Observable.poll_key (o : Observable) (store : Store) : (o.poll store).2.1.key = o.key := by
  unfold Observable.poll
  split
  · rfl
  · rfl
  · dsimp only
    split <;> rfl

variable {watched : Watch} {store other : Store}

/-! ### Streams -/

namespace Stream

theorem paired_poll (stream : Stream α) (h : Paired watched store other)
    (hsource : watched stream.source.channel stream.source.key) :
    (stream.poll store).1 = (stream.poll other).1 ∧
      (stream.poll store).2.1 = (stream.poll other).2.1 ∧
      PairedAfter watched (stream.poll store).2.2 (stream.poll other).2.2 := by
  obtain ⟨hfound, hnext, hafter, hevents⟩ := h.poll hsource
  unfold Stream.poll
  rcases hpoll : stream.source.poll store with ⟨found, source, after, events⟩
  rcases hpoll' : stream.source.poll other with ⟨found', source', after', events'⟩
  rw [hpoll, hpoll'] at hfound hnext hafter hevents
  subst hfound hnext hevents
  cases found <;> exact ⟨rfl, rfl, hafter, rfl⟩

theorem poll_source (stream : Stream α) (store : Store) :
    (stream.poll store).2.1.source = (stream.source.poll store).2.1 := by
  unfold Stream.poll
  rcases stream.source.poll store with ⟨found, source, after, events⟩
  cases found <;> rfl

/-- Polls leave a stream on its channel and with its key. -/
theorem pollUpTo_source (stream : Stream α) (store : Store) (count : Nat) :
    (stream.pollUpTo store count).2.1.source.channel = stream.source.channel ∧
      (stream.pollUpTo store count).2.1.source.key = stream.source.key := by
  induction count generalizing stream store with
  | zero => exact ⟨rfl, rfl⟩
  | succ count ih =>
    have hchannel := Observable.Awaits.poll_channel stream.source store
    have hkey := stream.source.poll_key store
    rw [← poll_source] at hchannel hkey
    unfold Stream.pollUpTo
    rcases hpoll : stream.poll store with ⟨found, next, after, events⟩
    rw [hpoll] at hchannel hkey
    cases found with
    | item value => exact ⟨(ih next after).1.trans hchannel, (ih next after).2.trans hkey⟩
    | pending | ended => exact ⟨hchannel, hkey⟩

theorem paired_pollUpTo (stream : Stream α) (h : Paired watched store other)
    (hsource : watched stream.source.channel stream.source.key) (count : Nat) :
    (stream.pollUpTo store count).1 = (stream.pollUpTo other count).1 ∧
      (stream.pollUpTo store count).2.1 = (stream.pollUpTo other count).2.1 ∧
      PairedAfter watched (stream.pollUpTo store count).2.2 (stream.pollUpTo other count).2.2 := by
  induction count generalizing stream store other with
  | zero => exact ⟨rfl, rfl, h.done⟩
  | succ count ih =>
    obtain ⟨hfound, hnext, hafter, hevents⟩ := stream.paired_poll h hsource
    have hchannel := Observable.Awaits.poll_channel stream.source store
    have hkey := stream.source.poll_key store
    rw [← poll_source] at hchannel hkey
    unfold Stream.pollUpTo
    rcases hpoll : stream.poll store with ⟨found, next, after, events⟩
    rcases hpoll' : stream.poll other with ⟨found', next', after', events'⟩
    rw [hpoll, hpoll'] at hfound hnext hafter hevents
    rw [hpoll] at hchannel hkey
    subst hfound hnext hevents
    cases found with
    | item value =>
      have hwatched : watched next.source.channel next.source.key := by
        rw [show next.source.channel = _ from hchannel, show next.source.key = _ from hkey]
        exact hsource
      obtain ⟨hothers, hlast, hrest, hmore⟩ := ih next hafter hwatched
      exact ⟨congrArg (_ :: ·) hothers, hlast, hrest, congrArg (_ ++ ·) hmore⟩
    | pending | ended => exact ⟨rfl, rfl, hafter, rfl⟩

end Stream

end Preferences.Store
