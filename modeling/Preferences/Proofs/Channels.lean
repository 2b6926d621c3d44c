import Mathlib.Data.List.Basic
import Preferences.Store.Feed

/-! Channels of a feed. A channel with a subscription and a receiver gets every change that is
published. Everything else that is done to a feed opens a channel or alters one, and leaves the
others and, while one of them is registered, the listener alone. -/

namespace Preferences.Store.Feed

variable {feed : Feed α} {id other : Nat} {queue : List α}

/-- The channel with a number is registered and its receiver is held; `queue` waits in it. -/
def Waits (feed : Feed α) (id : Nat) (queue : List α) : Prop :=
  feed.channel? id = some ⟨queue, true, true, true⟩

theorem Waits.lt_length (h : feed.Waits id queue) : id < feed.channels.length :=
  (List.getElem?_eq_some_iff.1 h).1

theorem channel?_setChannel_of_ne (channel : Channel α) (hne : other ≠ id) :
    (feed.setChannel id channel).channel? other = feed.channel? other :=
  List.getElem?_set_ne (Ne.symm hne)

theorem Waits.setChannel_self (h : feed.Waits id queue) (channel : Channel α) :
    (feed.setChannel id channel).channel? id = some channel :=
  List.getElem?_set_self h.lt_length

/-! ### Subscriptions -/

/-- A subscription opens the channel behind all others. -/
theorem channel?_subscribe (feed : Feed α) (id : Nat) :
    feed.subscribe.2.1.channel? id =
      if id = feed.channels.length then some .fresh else feed.channel? id := by
  show (feed.channels ++ [Channel.fresh])[id]? = _
  split
  · rename_i heq
    rw [heq, List.getElem?_concat_length]
  · rename_i hne
    rcases Nat.lt_or_gt_of_ne hne with hlt | hgt
    · rw [List.getElem?_append_left hlt]
      rfl
    · rw [channel?, List.getElem?_eq_none (Nat.le_of_lt hgt), List.getElem?_eq_none]
      rw [List.length_append, List.length_singleton]
      omega

theorem subscribe_waits (feed : Feed α) : feed.subscribe.2.1.Waits feed.subscribe.1 [] := by
  rw [Waits, channel?_subscribe]
  exact if_pos rfl

theorem Waits.subscribe (h : feed.Waits id queue) : feed.subscribe.2.1.Waits id queue := by
  rw [Waits, channel?_subscribe, if_neg (Nat.ne_of_lt h.lt_length)]
  exact h

theorem Waits.ne_subscribe (h : feed.Waits id queue) : id ≠ feed.subscribe.1 :=
  Nat.ne_of_lt h.lt_length

/-! ### One channel -/

/-- What is done to a feed concerns one channel only, which becomes what `f` makes of it. The
listener stays as it is while any channel is registered. -/
structure Alters (feed after : Feed α) (id : Nat) (f : Channel α → Channel α) : Prop where
  length : after.channels.length = feed.channels.length
  channel : ∀ other, after.channel? other =
    if other = id then (feed.channel? other).map f else feed.channel? other
  listening : (∃ other channel, after.channel? other = some channel ∧ channel.registered = true) →
    after.listening = feed.listening

namespace Alters

variable {mid after : Feed α} {f g : Channel α → Channel α}

theorem channel_self (h : feed.Alters after id f) :
    after.channel? id = (feed.channel? id).map f := by
  rw [h.channel, if_pos rfl]

theorem channel_of_ne (h : feed.Alters after id f) (hne : other ≠ id) :
    after.channel? other = feed.channel? other := by
  rw [h.channel, if_neg hne]

/-- Only what becomes of the channel as it is counts. -/
theorem congr (h : feed.Alters after id f)
    (hfg : ∀ channel, feed.channel? id = some channel → f channel = g channel) :
    feed.Alters after id g where
  length := h.length
  channel other := by
    rw [h.channel]
    by_cases heq : other = id
    · subst heq
      rw [if_pos rfl, if_pos rfl]
      exact Option.map_congr hfg
    · rw [if_neg heq, if_neg heq]
  listening := h.listening

theorem refl (feed : Feed α) (id : Nat) : feed.Alters feed id fun channel => channel where
  length := rfl
  channel other := by rw [Option.map_id_fun', id_eq, ite_self]
  listening _ := rfl

/-- Without the channel there is nothing to be done. -/
theorem of_none (h : feed.channel? id = none) (f : Channel α → Channel α) :
    feed.Alters feed id f :=
  (refl feed id).congr fun channel hsome => by
    rw [h] at hsome
    cases hsome

/-- One thing after another, of which the second registers nothing. -/
theorem trans (h : feed.Alters mid id f) (h' : mid.Alters after id g)
    (hg : ∀ channel, (g channel).registered = true → channel.registered = true) :
    feed.Alters after id fun channel => g (f channel) where
  length := h'.length.trans h.length
  channel other := by
    rw [h'.channel, h.channel]
    by_cases heq : other = id
    · rw [if_pos heq, if_pos heq, if_pos heq, Option.map_map]
      rfl
    · rw [if_neg heq, if_neg heq, if_neg heq]
  listening := by
    rintro ⟨other, channel, hchannel, hregistered⟩
    refine (h'.listening ⟨other, channel, hchannel, hregistered⟩).trans (h.listening ?_)
    rw [h'.channel] at hchannel
    split at hchannel
    · obtain ⟨before, hbefore, rfl⟩ := Option.map_eq_some_iff.1 hchannel
      exact ⟨other, before, hbefore, hg before hregistered⟩
    · exact ⟨other, channel, hchannel, hregistered⟩

end Alters

theorem setChannel_alters {channel : Channel α} (h : feed.channel? id = some channel)
    (f : Channel α → Channel α) : feed.Alters (feed.setChannel id (f channel)) id f where
  length := List.length_set
  channel other := by
    by_cases heq : other = id
    · subst heq
      rw [if_pos rfl, h]
      exact List.getElem?_set_self (List.getElem?_eq_some_iff.1 h).1
    · rw [if_neg heq, channel?_setChannel_of_ne _ heq]
  listening _ := rfl

/-- A registered channel counts as a subscriber. -/
theorem subscribers_ne_zero {channel : Channel α} (h : feed.channel? id = some channel)
    (hregistered : channel.registered = true) : feed.subscribers ≠ 0 := fun hzero =>
  List.countP_eq_zero.1 hzero channel (List.mem_of_getElem? h) hregistered

theorem unsubscribe_alters (feed : Feed α) (id : Nat) :
    feed.Alters (feed.unsubscribe id).1 id fun channel =>
      { channel with registered := false, subscribed := false } := by
  unfold unsubscribe
  split
  · exact .of_none ‹_› _
  · rename_i channel hchannel
    have halters := setChannel_alters hchannel fun channel =>
      { channel with registered := false, subscribed := false }
    dsimp only
    split
    · -- The listener is released, but then no channel is registered.
      rename_i hleft
      refine ⟨halters.length, halters.channel, fun ⟨other, found, hfound, hregistered⟩ => ?_⟩
      rw [Bool.and_eq_true, decide_eq_true_eq] at hleft
      exact absurd hleft.1 (subscribers_ne_zero hfound hregistered)
    · exact halters

theorem dropReceiver_alters (feed : Feed α) (id : Nat) :
    feed.Alters (feed.dropReceiver id) id fun channel =>
      { channel with queue := [], receiving := false } := by
  unfold dropReceiver
  split
  · exact .of_none ‹_› _
  · rename_i channel hchannel
    exact setChannel_alters hchannel fun channel => { channel with queue := [], receiving := false }

theorem close_alters (feed : Feed α) (id : Nat) :
    feed.Alters (feed.close id).1 id fun _ => ⟨[], false, false, false⟩ :=
  (feed.dropReceiver_alters id).trans (unsubscribe_alters _ id) fun _ hregistered => by
    cases hregistered

theorem receive_alters (feed : Feed α) (id : Nat) :
    feed.Alters (feed.receive id).2 id fun channel => channel.receive.2 := by
  unfold receive
  split
  · exact .of_none ‹_› _
  · rename_i channel hchannel
    exact setChannel_alters hchannel fun channel => channel.receive.2

/-! ### Other channels -/

/-- While another channel is registered, the listener stays. -/
theorem Waits.alters_listening {after : Feed α} {f : Channel α → Channel α}
    (h : feed.Waits other queue) (halters : feed.Alters after id f) (hne : other ≠ id) :
    after.listening = feed.listening :=
  halters.listening ⟨other, _, (halters.channel_of_ne hne).trans h, rfl⟩

theorem Waits.close_of_ne (h : feed.Waits other queue) (hne : other ≠ id) :
    (feed.close id).1.Waits other queue :=
  ((feed.close_alters id).channel_of_ne hne).trans h

theorem Waits.close_listening (h : feed.Waits other queue) (hne : other ≠ id) :
    (feed.close id).1.listening = feed.listening :=
  h.alters_listening (feed.close_alters id) hne

/-! ### Changes -/

/-- While someone listens, a change is sent to every channel. -/
theorem channel?_publish (feed : Feed α) (change : α) (id : Nat) :
    (feed.publish change).1.channel? id =
      if feed.listening then (feed.channel? id).map (·.send change) else feed.channel? id := by
  unfold Feed.publish
  split
  · exact List.getElem?_map
  · rfl

theorem exists_of_publish {change : α} {channel : Channel α}
    (h : (feed.publish change).1.channel? id = some channel) :
    ∃ before, feed.channel? id = some before ∧
      (channel = before ∨ channel = before.send change) := by
  rw [channel?_publish] at h
  split at h
  · obtain ⟨before, hbefore, rfl⟩ := Option.map_eq_some_iff.1 h
    exact ⟨before, hbefore, .inr rfl⟩
  · exact ⟨channel, h, .inl rfl⟩

theorem publish_length (feed : Feed α) (change : α) :
    (feed.publish change).1.channels.length = feed.channels.length := by
  unfold Feed.publish
  split
  · exact List.length_map _
  · rfl

/-- While someone listens, a change comes to the end of every queue. -/
theorem Waits.publish (h : feed.Waits id queue) (hlistening : feed.listening = true) (change : α) :
    (feed.publish change).1.Waits id (queue ++ [change]) := by
  rw [Waits, channel?_publish, if_pos hlistening, h]
  rfl

theorem publish_listening (feed : Feed α) (change : α) :
    (feed.publish change).1.listening = feed.listening := by
  unfold Feed.publish
  split <;> rfl

end Preferences.Store.Feed
