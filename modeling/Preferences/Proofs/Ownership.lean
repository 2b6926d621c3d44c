import Preferences.Proofs.Listening

/-! The listener of a feed alone, whose receivers may be dropped before their subscriptions. Such a
channel is forgotten at the next change while its subscription lives on, so a listener may stay that
serves nobody; but it outlives no subscription. -/

namespace Preferences.Session.FeedSession

open Preferences.Store

/-! ### Logs -/

/-- The log of some steps, one after another. -/
def logged (session : FeedSession α) : List (FeedStep α) → List Event
  | [] => []
  | step :: rest => (session.step step).2.2 ++ (session.next step).logged rest

/-- If there is a listener, a subscription is held that has not ended. -/
def Owned (session : FeedSession α) : Prop :=
  session.feed.listening = true → ∃ id, (session.holding id).subscribed = true

variable {session : FeedSession α} {id : Nat}

theorem receive_listening (feed : Feed α) (id : Nat) :
    (feed.receive id).2.listening = feed.listening := by
  unfold Feed.receive
  split <;> rfl

theorem pollUpTo_listening (feed : Feed α) (id count : Nat) :
    (pollUpTo feed id count).2.listening = feed.listening := by
  induction count generalizing feed with
  | zero => rfl
  | succ count ih =>
    have hreceived := receive_listening feed id
    rw [pollUpTo]
    rcases hreceive : feed.receive id with ⟨found, after⟩
    rw [hreceive] at hreceived
    cases found with
    | item change => exact (ih after).trans hreceived
    | pending | ended => exact hreceived

/-- The log of a step follows the listener. -/
theorem step_heard (session : FeedSession α) (step : FeedStep α) :
    Heard session.feed.listening (session.step step).2.2 (session.next step).feed.listening := by
  have hsame {feed : Feed α} (h : feed.listening = session.feed.listening) :
      Heard session.feed.listening [] feed.listening := by
    rw [h]
    exact .nil _
  cases step with
  | subscribe => exact session.feed.subscribe_heard
  | publish change => exact session.feed.publish_heard change
  | poll id count =>
    simp only [next, FeedSession.step]
    split
    · exact hsame (pollUpTo_listening session.feed id count)
    · exact hsame (pollUpTo_listening session.feed id count)
    · exact .nil _
  | dropSubscription id =>
    simp only [next, FeedSession.step]
    split
    · exact session.feed.unsubscribe_heard id
    · exact .nil _
  | dropReceiver id =>
    simp only [next, FeedSession.step]
    split
    · exact hsame (session.feed.dropReceiver_listening id)
    · exact .nil _
  | dropWatched id =>
    simp only [next, FeedSession.step]
    split
    · exact session.feed.close_heard id
    · exact .nil _
  | watch id =>
    simp only [next, FeedSession.step]
    split
    · exact .nil _
    · exact session.feed.unsubscribe_heard id
    · exact hsame (session.feed.dropReceiver_listening id)
    · exact .nil _
  | hint id =>
    simp only [next, FeedSession.step]
    split <;> exact .nil _
  | unknown => exact .nil _

theorem logged_heard (session : FeedSession α) (steps : List (FeedStep α)) :
    Heard session.feed.listening (session.logged steps) (session.run steps).feed.listening := by
  induction steps generalizing session with
  | nil => exact .nil _
  | cons step rest ih => exact (session.step_heard step).append (ih _)

/-! ### Who owns the listener -/

/-- A registered channel is one of a subscription that is held. -/
theorem Delivers.exists_subscribed (h : Delivers session) (hpos : 0 < session.feed.subscribers) :
    session.feed.listening = true ∧ ∃ id, (session.holding id).subscribed = true := by
  obtain ⟨channel, hmem, hregistered⟩ := List.countP_pos_iff.1 hpos
  obtain ⟨id, hchannel⟩ := List.getElem?_of_mem hmem
  exact ⟨h.listening id channel hchannel hregistered, id,
    (h.fits id channel hchannel).registered hregistered⟩

theorem Delivers.channel_of_holding (h : Delivers session) (hid : session.holding id ≠ .dropped) :
    ∃ channel, session.feed.channel? id = some channel := by
  have hlt := lt_length_of_ne_dropped hid
  rw [← h.length] at hlt
  exact ⟨_, List.getElem?_eq_getElem hlt⟩

/-- Where a subscription has ended, the listener stays for registered channels only. -/
theorem Delivers.owned_of_unsubscribe {feed : Feed α} {channel : Channel α}
    (hfeed : session.feed = (feed.unsubscribe id).1) (h : Delivers session)
    (hchannel : feed.channel? id = some channel) : Owned session := by
  intro hlistening
  rw [hfeed, Feed.unsubscribe_listening hchannel, Bool.and_eq_true, bne_iff_ne, ← hfeed]
    at hlistening
  exact (h.exists_subscribed (Nat.pos_of_ne_zero hlistening.2)).2

theorem Owned.keeps {next : FeedSession α} (h : Owned session)
    (hlistening : next.feed.listening = session.feed.listening)
    (hsubscribed : ∀ id, (session.holding id).subscribed = true →
      (next.holding id).subscribed = true) : Owned next := by
  intro hnext
  obtain ⟨id, hid⟩ := h (hlistening.symm.trans hnext)
  exact ⟨id, hsubscribed id hid⟩

/-- Something of one channel is dropped, but not a subscription. -/
theorem Owned.after (h : Owned session) {held : Holding} {feed : Feed α}
    (hid : session.holding id ≠ .dropped)
    (hlistening : feed.listening = session.feed.listening)
    (hsubscribed : (session.holding id).subscribed = true → held.subscribed = true) :
    Owned (session.after id held feed) := by
  refine h.keeps hlistening fun other hother => ?_
  rw [holding_after (lt_length_of_ne_dropped hid)]
  split
  · rename_i heq
    exact hsubscribed (heq ▸ hother)
  · exact hother

theorem Owned.next_dropSubscription (h : Owned session) (hdelivers : Delivers session) (id : Nat) :
    Owned (session.next (.dropSubscription id)) := by
  have hnext := (hdelivers.follows (.dropSubscription id)).delivers
  match hid : session.holding id with
  | .apart true receiver =>
    have hstep : session.next (.dropSubscription id) =
        session.after id (.apart false receiver) (session.feed.unsubscribe id).1 := by
      simp only [FeedSession.next, step, hid]
    rw [hstep] at hnext ⊢
    have hheld : session.holding id ≠ .dropped := by simp [hid]
    obtain ⟨channel, hchannel⟩ := hdelivers.channel_of_holding hheld
    exact hnext.owned_of_unsubscribe rfl hchannel
  | .apart false _ | .watched | .dropped => simpa only [FeedSession.next, step, hid] using h

theorem Owned.next_dropReceiver (h : Owned session) (id : Nat) :
    Owned (session.next (.dropReceiver id)) := by
  match hid : session.holding id with
  | .apart subscription true =>
    have hstep : session.next (.dropReceiver id) =
        session.after id (.apart subscription false) (session.feed.dropReceiver id) := by
      simp only [FeedSession.next, step, hid]
    rw [hstep]
    refine h.after (by simp [hid]) (session.feed.dropReceiver_listening id) fun hsubscribed => ?_
    rwa [hid] at hsubscribed
  | .apart _ false | .watched | .dropped => simpa only [FeedSession.next, step, hid] using h

theorem Owned.next_dropWatched (h : Owned session) (hdelivers : Delivers session) (id : Nat) :
    Owned (session.next (.dropWatched id)) := by
  have hnext := (hdelivers.follows (.dropWatched id)).delivers
  match hid : session.holding id with
  | .watched =>
    have hstep : session.next (.dropWatched id) =
        session.after id .dropped (session.feed.close id).1 := by
      simp only [FeedSession.next, step, hid]
    rw [hstep] at hnext ⊢
    have hheld : session.holding id ≠ .dropped := by simp [hid]
    obtain ⟨channel, hchannel⟩ := hdelivers.channel_of_holding hheld
    have hdropped : (session.feed.dropReceiver id).channel? id =
        some { channel with queue := [], receiving := false } := by
      rw [(session.feed.dropReceiver_alters id).channel_self, hchannel]
      rfl
    exact hnext.owned_of_unsubscribe rfl hdropped
  | .apart .. | .dropped => simpa only [FeedSession.next, step, hid] using h

theorem Owned.next_watch (h : Owned session) (hdelivers : Delivers session) (id : Nat) :
    Owned (session.next (.watch id)) := by
  have hnext := (hdelivers.follows (.watch id)).delivers
  match hid : session.holding id with
  | .apart true true =>
    have hstep : session.next (.watch id) = session.after id .watched session.feed := by
      simp only [FeedSession.next, step, hid]
    rw [hstep]
    exact h.after (by simp [hid]) rfl fun _ => rfl
  | .apart true false =>
    have hstep : session.next (.watch id) =
        session.after id .dropped (session.feed.unsubscribe id).1 := by
      simp only [FeedSession.next, step, hid]
    rw [hstep] at hnext ⊢
    have hheld : session.holding id ≠ .dropped := by simp [hid]
    obtain ⟨channel, hchannel⟩ := hdelivers.channel_of_holding hheld
    exact hnext.owned_of_unsubscribe rfl hchannel
  | .apart false true =>
    have hstep : session.next (.watch id) =
        session.after id .dropped (session.feed.dropReceiver id) := by
      simp only [FeedSession.next, step, hid]
    rw [hstep]
    refine h.after (by simp [hid]) (session.feed.dropReceiver_listening id) fun hsubscribed => ?_
    rw [hid] at hsubscribed
    cases hsubscribed
  | .apart false false | .watched | .dropped =>
    simpa only [FeedSession.next, step, hid] using h

theorem Owned.next (h : Owned session) (hdelivers : Delivers session) (step : FeedStep α) :
    Owned (session.next step) := by
  cases step with
  | subscribe =>
    intro _
    refine ⟨session.holdings.length, ?_⟩
    rw [holding_subscribe, if_pos rfl]
    rfl
  | publish change => exact h.keeps (session.feed.publish_listening change) fun _ hid => hid
  | poll id count =>
    have hpolled : Owned { session with feed := (pollUpTo session.feed id count).2 } :=
      h.keeps (pollUpTo_listening session.feed id count) fun _ hid => hid
    simp only [FeedSession.next, FeedSession.step]
    split
    · exact hpolled
    · exact hpolled
    · exact h
  | dropSubscription id => exact h.next_dropSubscription hdelivers id
  | dropReceiver id => exact h.next_dropReceiver id
  | dropWatched id => exact h.next_dropWatched hdelivers id
  | watch id => exact h.next_watch hdelivers id
  | hint id =>
    simp only [FeedSession.next, FeedSession.step]
    split <;> exact h
  | unknown => exact h

theorem Owned.run (h : Owned session) (hdelivers : Delivers session) (steps : List (FeedStep α)) :
    Owned (session.run steps) := by
  induction steps generalizing session with
  | nil => exact h
  | cons step rest ih => exact ih (h.next hdelivers step) (hdelivers.follows step).delivers

end Preferences.Session.FeedSession
