import Preferences.Proofs.Channels
import Preferences.Proofs.Contents

/-! What an observable has yet to give. It awaits its first value, if that is not taken, and the
decoded changes of its key that wait in its channel. An operation on the store appends what it makes
of the key if it changes that key; taking values and everything done with other observables appends
nothing. -/

namespace Preferences.Store

variable {o : Observable} {store : Store} {items : List Value} {key : String}

/-- What an observable shows while its key holds `held`. -/
def Observable.shows (o : Observable) (held : Option Value) : Value :=
  (decode o.key held o.fallback).1

/-- What polls find where `items` are still to be given: these, and then nothing for now. -/
def drained (items : List Value) : List (Polled Value) := items.map Polled.item ++ [.pending]

/-- What a single poll finds. -/
def firstFound (items : List Value) : Polled Value :=
  match items with
  | value :: _ => .item value
  | [] => .pending

/-- The observable is held in a store that listens; `items` are the values that it has yet to
give. -/
structure Observable.Awaits (o : Observable) (store : Store) (items : List Value) : Prop where
  listening : store.feed.listening = true
  waits : ∃ queue, store.feed.Waits o.channel queue ∧
    items = o.first.toList ++
      (queue.filter (·.key = o.key)).map fun change => o.shows change.value

/-- The next change of a key is the first one among those of the key. -/
theorem Observable.nextChange_cases (key : String) (queue : List Change) :
    (Observable.nextChange key queue = none ∧ queue.filter (·.key = key) = []) ∨
      ∃ change rest, Observable.nextChange key queue = some (change, rest) ∧
        queue.filter (·.key = key) = change :: rest.filter (·.key = key) := by
  induction queue with
  | nil => exact .inl ⟨rfl, rfl⟩
  | cons change rest ih =>
    by_cases hkey : change.key = key
    · exact .inr ⟨change, rest, by simp [Observable.nextChange, hkey], by simp [hkey]⟩
    · simpa [Observable.nextChange, hkey] using ih

namespace Observable.Awaits

theorem congr {after : Store} (h : o.Awaits store items) (hfeed : after.feed = store.feed) :
    o.Awaits after items :=
  ⟨hfeed ▸ h.listening, hfeed ▸ h.waits⟩

/-- What an observable awaits is settled by the store. -/
theorem unique {others : List Value} (h : o.Awaits store items) (h' : o.Awaits store others) :
    items = others := by
  obtain ⟨-, queue, hwaits, rfl⟩ := h
  obtain ⟨-, queue', hwaits', rfl⟩ := h'
  have hsame := Option.some.inj (hwaits.symm.trans hwaits')
  rw [(Channel.mk.inj hsame).1]

/-! ### Changes -/

theorem publish (h : o.Awaits store items) (change : Change) :
    o.Awaits (store.publish change).1
      (items ++ if change.key = o.key then [o.shows change.value] else []) := by
  obtain ⟨hlistening, queue, hwaits, rfl⟩ := h
  refine ⟨(store.feed.publish_listening change).trans hlistening, queue ++ [change],
    hwaits.publish hlistening change, ?_⟩
  rw [List.filter_append, List.map_append, List.append_assoc]
  by_cases hkey : change.key = o.key <;> simp [hkey]

/-- A change that is told as it is made in the store: `values` are what the store holds by then. -/
theorem changed (h : o.Awaits store items) {values : Entries Value} {change : Change}
    (hget : values.get? change.key = change.value) :
    o.Awaits (Store.publish { store with values } change).1
      (items ++ if change.key = o.key then [o.shows (values.get? o.key)] else []) := by
  have hstored : o.Awaits { store with values } items := h.congr rfl
  have hpublished := hstored.publish change
  by_cases hkey : change.key = o.key
  · rw [if_pos hkey, ← hget, hkey] at hpublished
    rwa [if_pos hkey]
  · rw [if_neg hkey] at hpublished ⊢
    exact hpublished

/-- A write shows if it changes the key: it held nothing, or a value that does not compare equal. -/
theorem write (h : o.Awaits store items) (key : String) (value : Value) :
    o.Awaits (store.write key value).1
      (items ++ if key = o.key ∧ (store.values.get? o.key).any (·.equals value) = false then
        [o.shows ((store.write key value).1.values.get? o.key)] else []) := by
  rw [Store.write]
  by_cases hequal : (store.values.get? key).any (·.equals value) = true
  · rw [if_pos hequal, if_neg]
    · rwa [List.append_nil]
    · rintro ⟨rfl, hdiffers⟩
      rw [hequal] at hdiffers
      cases hdiffers
  · have hchanges : (key = o.key ∧ (store.values.get? o.key).any (·.equals value) = false) ↔
        key = o.key := by
      refine ⟨And.left, fun hkey => ⟨hkey, ?_⟩⟩
      rwa [← hkey, ← Bool.not_eq_true]
    have hget : (store.values.insert key value).get? key = some value := by
      rw [Entries.get?_insert, if_pos rfl]
    simp only [if_neg hequal, hchanges, publish_values]
    exact h.changed hget

/-- A removal shows if the key held something. -/
theorem remove (h : o.Awaits store items) (key : String) :
    o.Awaits (store.remove key).1
      (items ++ if key = o.key ∧ store.values.contains o.key = true then
        [o.shows ((store.remove key).1.values.get? o.key)] else []) := by
  rw [Store.remove]
  by_cases hcontains : store.values.contains key = true
  · have hchanges : (key = o.key ∧ store.values.contains o.key = true) ↔ key = o.key := by
      refine ⟨And.left, fun hkey => ⟨hkey, ?_⟩⟩
      rwa [← hkey]
    have hget : (store.values.erase key).get? key = none := by
      rw [Entries.get?_erase, if_pos rfl]
    simp only [if_pos hcontains, hchanges, publish_values]
    exact h.changed hget
  · rw [if_neg hcontains, if_neg]
    · rwa [List.append_nil]
    · rintro ⟨rfl, hheld⟩
      exact hcontains hheld

/-- Of keys that are gone, each told once, an observable shows its own. -/
theorem publishGone (h : o.Awaits store items) {keys : List String} (hkeys : keys.Nodup) :
    o.Awaits (publishGone store keys).1
      (items ++ if o.key ∈ keys then [o.shows none] else []) := by
  induction keys generalizing store items with
  | nil => rwa [if_neg List.not_mem_nil, List.append_nil]
  | cons key rest ih =>
    obtain ⟨hnotMem, hrest⟩ := List.nodup_cons.1 hkeys
    have hpublished := ih (h.publish ⟨key, none⟩) hrest
    show o.Awaits (Store.publishGone (store.publish ⟨key, none⟩).1 rest).1 _
    by_cases hkey : key = o.key
    · subst hkey
      rw [if_pos rfl, if_neg hnotMem, List.append_nil] at hpublished
      rwa [if_pos List.mem_cons_self]
    · rw [if_neg hkey, List.append_nil] at hpublished
      have hmem : o.key ∈ key :: rest ↔ o.key ∈ rest := by
        rw [List.mem_cons, or_iff_right (Ne.symm hkey)]
      simp only [hmem]
      exact hpublished

/-- A clearing shows if the key held something. -/
theorem clear (h : o.Awaits store items) :
    o.Awaits store.clear.1
      (items ++ if store.values.contains o.key = true then
        [o.shows (store.clear.1.values.get? o.key)] else []) := by
  have hemptied : o.Awaits { store with values := .empty } items := h.congr rfl
  rw [clear_values, Entries.get?_empty]
  simp only [Entries.contains_iff]
  exact hemptied.publishGone store.values.keys_nodup

/-! ### Other observables -/

/-- A new observable awaits what its key holds, and touches no other one. -/
theorem observe_self (store : Store) (key : String) (fallback : Value) :
    (store.observe key fallback).1.Awaits (store.observe key fallback).2.1
      [(store.read key fallback).1] :=
  ⟨rfl, [], store.feed.subscribe_waits, rfl⟩

theorem observe (h : o.Awaits store items) (key : String) (fallback : Value) :
    o.Awaits (store.observe key fallback).2.1 items := by
  obtain ⟨-, queue, hwaits, hitems⟩ := h
  exact ⟨rfl, queue, hwaits.subscribe, hitems⟩

theorem ne_observe (h : o.Awaits store items) (key : String) (fallback : Value) :
    o.channel ≠ (store.observe key fallback).1.channel := by
  obtain ⟨-, queue, hwaits, -⟩ := h
  exact hwaits.ne_subscribe

theorem drop (h : o.Awaits store items) {other : Observable}
    (hne : o.channel ≠ other.channel) : o.Awaits (store.drop other).1 items := by
  obtain ⟨hlistening, queue, hwaits, hitems⟩ := h
  exact ⟨(hwaits.close_listening hne).trans hlistening, queue, hwaits.close_of_ne hne, hitems⟩

/-! ### Taking values -/

/-- Polling takes the first of the values to be given, and without one nothing has ended. -/
theorem poll (h : o.Awaits store items) : ∃ first after events,
    o.poll store = (firstFound items, { o with first }, after, events) ∧
      Observable.Awaits { o with first } after items.tail ∧ after.values = store.values := by
  obtain ⟨hlistening, queue, hwaits, rfl⟩ := h
  obtain ⟨channel, key, fallback, first⟩ := o
  have hchannel : store.feed.channel? channel = some ⟨queue, true, true, true⟩ := hwaits
  cases first with
  | some value => exact ⟨none, store, [], rfl, ⟨hlistening, queue, hwaits, rfl⟩, rfl⟩
  | none =>
    unfold Observable.poll
    rw [hchannel]
    dsimp only
    rcases nextChange_cases key queue with ⟨hnext, hfilter⟩ | ⟨change, rest, hnext, hfilter⟩
    · rw [hnext, hfilter]
      exact ⟨none, _, _, rfl, ⟨hlistening, [], hwaits.setChannel_self _, rfl⟩, rfl⟩
    · have hkey : change.key = key := by
        have hmem : change ∈ queue.filter (·.key = key) := by
          rw [hfilter]
          exact List.mem_cons_self
        exact of_decide_eq_true (List.mem_filter.1 hmem).2
      subst hkey
      rw [hnext, hfilter]
      exact ⟨none, _, _, rfl, ⟨hlistening, rest, hwaits.setChannel_self _, rfl⟩, rfl⟩

/-- Polling several times takes as many values, up to the first time that none is there. -/
theorem pollUpTo (h : o.Awaits store items) (count : Nat) : ∃ first after events,
    (Stream.plain o).pollUpTo store count =
        ((drained items).take count, Stream.plain { o with first }, after, events) ∧
      Observable.Awaits { o with first } after (items.drop count) ∧
        after.values = store.values := by
  induction count generalizing o store items with
  | zero => exact ⟨o.first, store, [], rfl, h, rfl⟩
  | succ count ih =>
    obtain ⟨first, after, events, hpoll, hawaits, hvalues⟩ := h.poll
    cases items with
    | nil =>
      refine ⟨first, after, events, ?_, hawaits, hvalues⟩
      simp [Stream.pollUpTo, Stream.poll, Stream.plain, hpoll, firstFound, drained]
    | cons value items =>
      obtain ⟨first', after', events', hpoll', hawaits', hvalues'⟩ := ih hawaits
      refine ⟨first', after', events ++ events', ?_, hawaits', hvalues'.trans hvalues⟩
      simp only [Stream.plain] at hpoll' ⊢
      simp [Stream.pollUpTo, Stream.poll, hpoll, firstFound, hpoll', drained]

/-! ### Polls of other observables -/

theorem poll_other (h : o.Awaits store items) {other : Observable}
    (hne : o.channel ≠ other.channel) : o.Awaits (other.poll store).2.2.1 items := by
  obtain ⟨hlistening, queue, hwaits, hitems⟩ := h
  unfold Observable.poll
  split
  · exact ⟨hlistening, queue, hwaits, hitems⟩
  · exact ⟨hlistening, queue, hwaits, hitems⟩
  · have hother (channel : Channel Change) :
        (store.feed.setChannel other.channel channel).Waits o.channel queue :=
      (Feed.channel?_setChannel_of_ne channel hne).trans hwaits
    dsimp only
    split <;> exact ⟨hlistening, queue, hother _, hitems⟩

theorem poll_channel (other : Observable) (store : Store) :
    (other.poll store).2.1.channel = other.channel := by
  unfold Observable.poll
  split
  · rfl
  · rfl
  · dsimp only
    split <;> rfl

theorem pollUpTo_other (h : o.Awaits store items) {other : Observable}
    (hne : o.channel ≠ other.channel) (count : Nat) :
    o.Awaits ((Stream.plain other).pollUpTo store count).2.2.1 items := by
  induction count generalizing other store with
  | zero => exact h
  | succ count ih =>
    have hpolled := h.poll_other hne
    have hchannel := poll_channel other store
    rcases hpoll : other.poll store with ⟨polled, next, after, events⟩
    rw [hpoll] at hpolled hchannel
    have hrest := ih hpolled (hchannel ▸ hne : o.channel ≠ next.channel)
    cases polled with
    | item value => simpa [Stream.pollUpTo, Stream.poll, Stream.plain, hpoll] using hrest
    | pending | ended => simpa [Stream.pollUpTo, Stream.poll, Stream.plain, hpoll] using hpolled

end Observable.Awaits

end Preferences.Store
