import Preferences.Proofs.Channels
import Preferences.Session.Feed

/-! Delivery over whole sessions on a feed. A receiver has been sent the changes published while its
subscription was held, whatever became of the other subscribers meanwhile, and its stream ends where
its subscription is gone and nothing waits. -/

namespace Preferences.Session

open Preferences.Store

/-! ### What a run sends and takes -/

def Holding.subscribed : Holding → Bool
  | apart subscription _ => subscription
  | watched => true
  | dropped => false

def Holding.receiving : Holding → Bool
  | apart _ receiver => receiver
  | watched => true
  | dropped => false

namespace FeedSession

def answer (session : FeedSession α) (step : FeedStep α) : FeedAnswer α := (session.step step).1

def next (session : FeedSession α) (step : FeedStep α) : FeedSession α := (session.step step).2.1

/-- The session after some steps, one after another. -/
def run (session : FeedSession α) (steps : List (FeedStep α)) : FeedSession α :=
  steps.foldl next session

/-- The change that a step publishes, if the subscription with a number is held by then. -/
def published (session : FeedSession α) (id : Nat) : FeedStep α → List α
  | .publish change => if (session.holding id).subscribed then [change] else []
  | _ => []

/-- The changes among what was found. -/
def changesIn : FeedAnswer α → List α
  | .polled found => found.filterMap fun
    | .item change => some change
    | _ => none
  | _ => []

/-- The changes that a step takes from the receiver with a number. -/
def taken (session : FeedSession α) (id : Nat) : FeedStep α → List α
  | .poll polled count =>
    if polled = id then changesIn (session.answer (.poll polled count)) else []
  | _ => []

/-- All changes that are published in a run while the subscription with a number is held. -/
def allPublished (session : FeedSession α) (id : Nat) : List (FeedStep α) → List α
  | [] => []
  | step :: rest => session.published id step ++ (session.next step).allPublished id rest

/-- All changes that a run takes from the receiver with a number. -/
def allTaken (session : FeedSession α) (id : Nat) : List (FeedStep α) → List α
  | [] => []
  | step :: rest => session.taken id step ++ (session.next step).allTaken id rest

/-- What polls find where changes wait: these, and then nothing for now or, without a subscription,
none any more. -/
def polls (waiting : List α) (subscribed : Bool) : List (Polled α) :=
  waiting.map .item ++ [if subscribed then .pending else .ended]

/-! ### Channels and what is held of them -/

/-- A channel as what is held of it makes it: a change is sent to it only for a subscription, and is
for one with a receiver. -/
structure Fits (channel : Channel α) (holding : Holding) : Prop where
  receiving : channel.receiving = holding.receiving
  registered : channel.registered = true → holding.subscribed = true
  subscribed : holding.subscribed = true → holding.receiving = true → channel.registered = true

/-- A change goes to a channel with a receiver, and makes one without a receiver forgotten. -/
theorem Fits.send {channel : Channel α} {held : Holding} (h : Fits channel held) (change : α) :
    Fits (channel.send change) held where
  receiving := by
    rw [← h.receiving, Channel.send]
    split
    · split <;> rfl
    · rfl
  registered hregistered := h.registered (Channel.registered_of_send hregistered)
  subscribed hsubscribed hreceiving := by
    have hregistered := h.subscribed hsubscribed hreceiving
    rw [Channel.send, if_pos hregistered, if_pos (h.receiving.trans hreceiving)]
    exact hregistered

/-- Every channel fits what is held of it, and there is a listener for the registered ones. -/
structure Delivers (session : FeedSession α) : Prop where
  length : session.feed.channels.length = session.holdings.length
  fits : ∀ id channel, session.feed.channel? id = some channel → Fits channel (session.holding id)
  listening : ∀ id channel, session.feed.channel? id = some channel → channel.registered = true →
    session.feed.listening = true

/-- The receiver with a number is held, or not yet made. -/
def Open (session : FeedSession α) (id : Nat) : Prop :=
  (session.holding id).receiving = true ∨ session.holdings.length ≤ id

/-- What waits for the receiver with a number. -/
def queue (session : FeedSession α) (id : Nat) : List α :=
  ((session.feed.channel? id).map (·.queue)).getD []

/-- The step takes nothing from any receiver and publishes nothing. -/
def Quiet (session : FeedSession α) (step : FeedStep α) : Prop :=
  ∀ id, session.taken id step = [] ∧ session.published id step = []

/-- A step that keeps the channels in order. What it takes from a receiver that is still held, and
what then waits, are what waited and what the step publishes. -/
structure Follows (session : FeedSession α) (step : FeedStep α) (next : FeedSession α) : Prop where
  delivers : Delivers next
  tracks : ∀ id, next.Open id → session.Open id ∧
    session.taken id step ++ next.queue id = session.queue id ++ session.published id step

theorem delivers_start : Delivers (start : FeedSession α) where
  length := rfl
  fits _ _ h := by cases h
  listening _ _ h := by cases h

section Steps

variable {session : FeedSession α} {id other : Nat}

theorem holding_of_le (h : session.holdings.length ≤ id) : session.holding id = .dropped := by
  rw [holding, List.getD_eq_getElem?_getD, List.getElem?_eq_none h]
  rfl

theorem lt_length_of_ne_dropped (h : session.holding id ≠ .dropped) :
    id < session.holdings.length := by
  by_contra hle
  exact h (holding_of_le (by omega))

theorem lt_length_of_receiving (h : (session.holding id).receiving = true) :
    id < session.holdings.length :=
  lt_length_of_ne_dropped fun hdropped => by
    rw [hdropped] at h
    cases h

theorem holding_after (hid : id < session.holdings.length) (held : Holding) (feed : Feed α)
    (other : Nat) : (session.after id held feed).holding other =
      if other = id then held else session.holding other := by
  simp only [holding, after, List.getD_eq_getElem?_getD]
  by_cases heq : other = id
  · subst heq
    rw [if_pos rfl, List.getElem?_set_self hid]
    rfl
  · rw [if_neg heq, List.getElem?_set_ne (Ne.symm heq)]

theorem holding_subscribe (session : FeedSession α) (id : Nat) :
    (session.next .subscribe).holding id =
      if id = session.holdings.length then .apart true true else session.holding id := by
  show (session.holdings ++ [Holding.apart true true]).getD id .dropped = _
  rw [List.getD_eq_getElem?_getD]
  split
  · rename_i heq
    rw [heq, List.getElem?_concat_length]
    rfl
  · rename_i hne
    rcases Nat.lt_or_gt_of_ne hne with hlt | hgt
    · rw [List.getElem?_append_left hlt]
      rfl
    · rw [holding_of_le (Nat.le_of_lt hgt), List.getElem?_eq_none]
      · rfl
      · rw [List.length_append, List.length_singleton]
        omega

/-! ### Polls -/

theorem changesIn_polls (waiting : List α) (subscribed : Bool) (count : Nat) :
    changesIn (.polled ((polls waiting subscribed).take count)) = waiting.take count := by
  induction waiting generalizing count with
  | nil =>
    rw [List.take_nil]
    cases count <;> cases subscribed <;> simp [polls, changesIn]
  | cons change rest ih =>
    cases count with
    | zero => rfl
    | succ count => exact congrArg (change :: ·) (ih count)

theorem receive_eq {feed : Feed α} {channel : Channel α} (h : feed.channel? id = some channel) :
    feed.receive id = (channel.receive.1, (feed.receive id).2) := by
  rw [Feed.receive, h]

theorem pollUpTo_eq {feed : Feed α} {channel : Channel α} (h : feed.channel? id = some channel)
    (count : Nat) :
    (pollUpTo feed id count).1 =
        (polls channel.queue channel.registered).take count ∧
      feed.Alters (pollUpTo feed id count).2 id fun channel =>
        { channel with queue := channel.queue.drop count } := by
  induction count generalizing feed channel with
  | zero => exact ⟨rfl, (Feed.Alters.refl feed id).congr fun _ _ => rfl⟩
  | succ count ih =>
    have hreceived := feed.receive_alters id
    have hafter : (feed.receive id).2.channel? id = some channel.receive.2 := by
      rw [hreceived.channel_self, h, Option.map_some]
    obtain ⟨queue, registered, subscribed, receiving⟩ := channel
    cases queue with
    | nil =>
      have hpoll : pollUpTo feed id (count + 1) =
          ([if registered then .pending else .ended], (feed.receive id).2) := by
        rw [pollUpTo, receive_eq h]
        cases registered <;> rfl
      rw [hpoll]
      refine ⟨by simp [polls], hreceived.congr fun found hfound => ?_⟩
      obtain rfl := Option.some.inj (h.symm.trans hfound)
      rfl
    | cons change rest =>
      obtain ⟨hfound, halters⟩ := ih hafter
      have hpoll : pollUpTo feed id (count + 1) =
          (.item change :: (pollUpTo (feed.receive id).2 id count).1,
            (pollUpTo (feed.receive id).2 id count).2) := by
        rw [pollUpTo, receive_eq h]
        rfl
      rw [hpoll]
      refine ⟨congrArg (.item change :: ·) hfound, ?_⟩
      refine (hreceived.trans halters fun _ hregistered => hregistered).congr fun found hsome => ?_
      obtain rfl := Option.some.inj (h.symm.trans hsome)
      rfl

namespace Delivers

theorem channel_of_receiving (h : Delivers session) (hid : (session.holding id).receiving = true) :
    ∃ channel, session.feed.channel? id = some channel := by
  have hlt := lt_length_of_receiving hid
  rw [← h.length] at hlt
  exact ⟨_, List.getElem?_eq_getElem hlt⟩

theorem queue_of_le (h : Delivers session) (hle : session.holdings.length ≤ id) :
    session.queue id = [] := by
  rw [← h.length] at hle
  rw [queue, Feed.channel?, List.getElem?_eq_none hle]
  rfl

/-- A receiver's channel is registered exactly while the subscription is held. -/
theorem registered_eq (h : Delivers session) (hid : (session.holding id).receiving = true)
    {channel : Channel α} (hchannel : session.feed.channel? id = some channel) :
    channel.registered = (session.holding id).subscribed := by
  have hfits := h.fits id channel hchannel
  rw [Bool.eq_iff_iff]
  exact ⟨hfits.registered, fun hsubscribed => hfits.subscribed hsubscribed hid⟩

/-- All channels stay in order if one is altered together with what is held of it. -/
theorem alter (h : Delivers session) {next : FeedSession α} (held : Holding)
    {f : Channel α → Channel α} (hfeed : session.feed.Alters next.feed id f)
    (hlength : next.holdings.length = session.holdings.length)
    (hholding : ∀ other, next.holding other = if other = id then held else session.holding other)
    (hfits : ∀ channel, Fits channel (session.holding id) → Fits (f channel) held)
    (hregistered : ∀ channel, (f channel).registered = true → channel.registered = true) :
    Delivers next where
  length := by rw [hfeed.length, hlength, h.length]
  fits other channel hchannel := by
    rw [hfeed.channel] at hchannel
    rw [hholding]
    by_cases heq : other = id
    · subst heq
      rw [if_pos rfl] at hchannel ⊢
      obtain ⟨before, hbefore, rfl⟩ := Option.map_eq_some_iff.1 hchannel
      exact hfits before (h.fits other before hbefore)
    · rw [if_neg heq] at hchannel ⊢
      exact h.fits other channel hchannel
  listening other channel hchannel hsent := by
    -- This channel was registered before, so there was a listener, and it is not released.
    rw [hfeed.listening ⟨other, channel, hchannel, hsent⟩]
    rw [hfeed.channel] at hchannel
    split at hchannel
    · obtain ⟨before, hbefore, rfl⟩ := Option.map_eq_some_iff.1 hchannel
      exact h.listening other before hbefore (hregistered before hsent)
    · exact h.listening other channel hchannel hsent

/-! ### Steps -/

/-- A step that does nothing. -/
theorem refused (h : Delivers session) {step : FeedStep α} (hquiet : session.Quiet step)
    (hnext : session.next step = session) : Follows session step (session.next step) := by
  rw [hnext]
  refine ⟨h, fun id hopen => ⟨hopen, ?_⟩⟩
  rw [(hquiet id).1, (hquiet id).2, List.append_nil, List.nil_append]

/-- A step that drops something of one channel, or joins what is held of it. Its receiver loses
nothing unless it is dropped itself. -/
theorem follows_after (h : Delivers session) {step : FeedStep α} (hquiet : session.Quiet step)
    {held : Holding} {feed : Feed α} {f : Channel α → Channel α}
    (hnext : session.next step = session.after id held feed) (hid : session.holding id ≠ .dropped)
    (hfeed : session.feed.Alters feed id f)
    (hfits : ∀ channel, Fits channel (session.holding id) → Fits (f channel) held)
    (hregistered : ∀ channel, (f channel).registered = true → channel.registered = true)
    (hheld : held.receiving = true → (session.holding id).receiving = true ∧
      ∀ channel, (f channel).queue = channel.queue) :
    Follows session step (session.next step) := by
  have hlt := lt_length_of_ne_dropped hid
  have hlength : (session.after id held feed).holdings.length = session.holdings.length :=
    List.length_set
  rw [hnext]
  refine ⟨h.alter held hfeed hlength (holding_after hlt held feed) hfits hregistered, ?_⟩
  intro other hopen
  have hqueue : (session.after id held feed).queue other =
      ((feed.channel? other).map (·.queue)).getD [] := rfl
  rw [(hquiet other).1, (hquiet other).2, List.append_nil, List.nil_append, hqueue, hfeed.channel]
  rw [Open, holding_after hlt, hlength] at hopen
  by_cases heq : other = id
  · subst heq
    rw [if_pos rfl] at hopen ⊢
    obtain ⟨hbefore, hsame⟩ := hheld (hopen.resolve_right (by omega))
    refine ⟨.inl hbefore, ?_⟩
    rw [Option.map_map, queue]
    congr 2
    funext channel
    exact hsame channel
  · rw [if_neg heq] at hopen ⊢
    exact ⟨hopen, rfl⟩

/-- A step that ends a subscription and leaves the receiver as it is. -/
theorem follows_unsubscribe (h : Delivers session) {step : FeedStep α}
    (hquiet : session.Quiet step) {receiver : Bool} {held : Holding}
    (hid : session.holding id = .apart true receiver) (hreceiving : held.receiving = receiver)
    (hnext : session.next step = session.after id held (session.feed.unsubscribe id).1)
    (hsubscribed : held.subscribed = false) : Follows session step (session.next step) := by
  refine h.follows_after hquiet hnext (by simp [hid]) (session.feed.unsubscribe_alters id)
    (fun channel hfits => ?_) nofun fun hheld => ?_
  · rw [hid] at hfits
    refine ⟨hfits.receiving.trans hreceiving.symm, nofun, ?_⟩
    rw [hsubscribed]
    nofun
  · rw [hid]
    exact ⟨hreceiving.symm.trans hheld, fun _ => rfl⟩

/-- A step that drops a receiver and leaves the subscription as it is. -/
theorem follows_unreceive (h : Delivers session) {step : FeedStep α} (hquiet : session.Quiet step)
    {subscription : Bool} {held : Holding} (hid : session.holding id = .apart subscription true)
    (hsubscribed : held.subscribed = subscription)
    (hnext : session.next step = session.after id held (session.feed.dropReceiver id))
    (hreceiving : held.receiving = false) : Follows session step (session.next step) := by
  refine h.follows_after hquiet hnext (by simp [hid]) (session.feed.dropReceiver_alters id)
    (fun channel hfits => ?_) (fun _ hregistered => hregistered) ?_
  · rw [hid] at hfits
    refine ⟨hreceiving.symm, fun hregistered => ?_, ?_⟩
    · exact hsubscribed.trans (hfits.registered hregistered)
    · rw [hreceiving]
      exact fun _ => nofun
  · rw [hreceiving]
    nofun

theorem follows_subscribe (h : Delivers session) :
    Follows session .subscribe (session.next .subscribe) := by
  have hchannel (id : Nat) : (session.next .subscribe).feed.channel? id =
      if id = session.holdings.length then some .fresh else session.feed.channel? id := by
    rw [← h.length]
    exact session.feed.channel?_subscribe id
  have hlength : (session.next .subscribe).holdings.length = session.holdings.length + 1 :=
    List.length_append
  refine ⟨⟨?_, fun id channel hsome => ?_, fun _ _ _ _ => rfl⟩, fun id hopen => ?_⟩
  · rw [hlength, ← h.length]
    exact List.length_append
  · rw [hchannel] at hsome
    rw [holding_subscribe]
    by_cases hnew : id = session.holdings.length
    · rw [if_pos hnew] at hsome ⊢
      cases hsome
      exact ⟨rfl, fun _ => rfl, fun _ _ => rfl⟩
    · rw [if_neg hnew] at hsome ⊢
      exact h.fits id channel hsome
  · rw [Open, holding_subscribe, hlength] at hopen
    show session.Open id ∧ (session.next .subscribe).queue id = session.queue id ++ []
    rw [queue, hchannel, List.append_nil]
    by_cases hnew : id = session.holdings.length
    · -- The new receiver is one that was not yet made, and nothing waits for it.
      rw [if_pos hnew, h.queue_of_le (by omega)]
      exact ⟨.inr (by omega), rfl⟩
    · rw [if_neg hnew] at hopen ⊢
      exact ⟨hopen.imp_right (by omega), rfl⟩

/-- A change waits for a receiver if its subscription is held. -/
theorem queue_publish (h : Delivers session) (change : α)
    (hid : (session.holding id).receiving = true) :
    (session.next (.publish change)).queue id =
      session.queue id ++ session.published id (.publish change) := by
  obtain ⟨channel, hsome⟩ := h.channel_of_receiving hid
  have hregistered := h.registered_eq hid hsome
  have hchannel : (session.next (.publish change)).feed.channel? id = _ :=
    session.feed.channel?_publish change id
  rw [queue, queue, hchannel, hsome, published]
  by_cases hsubscribed : (session.holding id).subscribed = true
  · have hsent : channel.send change = { channel with queue := channel.queue ++ [change] } := by
      rw [Channel.send, if_pos (hregistered.trans hsubscribed),
        if_pos ((h.fits id channel hsome).receiving.trans hid)]
    rw [if_pos hsubscribed, if_pos (h.listening id channel hsome (hregistered.trans hsubscribed)),
      Option.map_some, hsent]
    rfl
  · have hunsent : channel.send change = channel := by
      rw [Channel.send, hregistered, if_neg hsubscribed]
    rw [if_neg hsubscribed, List.append_nil, Option.map_some, hunsent, ite_self]

theorem next_publish (h : Delivers session) (change : α) :
    Delivers (session.next (.publish change)) where
  length := (session.feed.publish_length change).trans h.length
  fits id channel hsome := by
    obtain ⟨before, hbefore, rfl | rfl⟩ := Feed.exists_of_publish hsome
    · exact h.fits id channel hbefore
    · exact (h.fits id before hbefore).send change
  listening id channel hsome hregistered := by
    refine (session.feed.publish_listening change).trans ?_
    obtain ⟨before, hbefore, rfl | rfl⟩ := Feed.exists_of_publish hsome
    · exact h.listening id channel hbefore hregistered
    · exact h.listening id before hbefore (Channel.registered_of_send hregistered)

theorem follows_publish (h : Delivers session) (change : α) :
    Follows session (.publish change) (session.next (.publish change)) := by
  refine ⟨h.next_publish change, fun id (hopen : session.Open id) => ⟨hopen, ?_⟩⟩
  rcases hopen with hreceiving | hle
  · exact h.queue_publish change hreceiving
  · rw [(h.next_publish change).queue_of_le hle, h.queue_of_le hle, published, holding_of_le hle]
    rfl

theorem step_poll (hid : (session.holding id).receiving = true) (count : Nat) :
    session.step (.poll id count) =
      (.polled (pollUpTo session.feed id count).1,
        { session with feed := (pollUpTo session.feed id count).2 }, []) := by
  cases hheld : session.holding id with
  | apart subscription receiver =>
    rw [hheld] at hid
    obtain rfl : receiver = true := hid
    simp [step, hheld]
  | watched => simp [step, hheld]
  | dropped =>
    rw [hheld] at hid
    cases hid

theorem step_poll_gone (hid : (session.holding id).receiving = false) (count : Nat) :
    session.step (.poll id count) = (.gone, session, []) := by
  cases hheld : session.holding id with
  | apart subscription receiver =>
    rw [hheld] at hid
    obtain rfl : receiver = false := hid
    simp [step, hheld]
  | watched =>
    rw [hheld] at hid
    cases hid
  | dropped => simp [step, hheld]

theorem follows_poll (h : Delivers session) (id count : Nat) :
    Follows session (.poll id count) (session.next (.poll id count)) := by
  cases hid : (session.holding id).receiving with
  | false =>
    have hstep := step_poll_gone hid count
    refine h.refused (fun other => ⟨?_, rfl⟩) (by rw [next, hstep])
    rw [taken, answer, hstep]
    exact ite_self []
  | true =>
    obtain ⟨channel, hsome⟩ := h.channel_of_receiving hid
    obtain ⟨hfound, halters⟩ := pollUpTo_eq hsome count
    have hstep := step_poll hid count
    have hnext : session.next (.poll id count) =
        { session with feed := (pollUpTo session.feed id count).2 } := by
      rw [next, hstep]
    rw [hnext]
    refine ⟨h.alter (session.holding id) halters rfl (fun other => ?_)
      (fun _ hfits => ⟨hfits.receiving, hfits.registered, hfits.subscribed⟩)
      (fun _ hregistered => hregistered), fun other hopen => ⟨hopen, ?_⟩⟩
    · split
      · rename_i heq
        rw [heq]
        rfl
      · rfl
    · have hqueue : ({ session with feed := (pollUpTo session.feed id count).2 } :
          FeedSession α).queue other =
            (((pollUpTo session.feed id count).2.channel? other).map (·.queue)).getD [] := rfl
      have hnothing : session.published other (.poll id count) = [] := rfl
      rw [hqueue, halters.channel, taken, answer, hstep, hfound, changesIn_polls, hnothing,
        List.append_nil, queue]
      by_cases heq : id = other
      · subst heq
        rw [if_pos rfl, if_pos rfl, hsome]
        exact List.take_append_drop count channel.queue
      · rw [if_neg heq, if_neg (Ne.symm heq)]
        rfl

theorem follows_dropSubscription (h : Delivers session) (id : Nat) :
    Follows session (.dropSubscription id) (session.next (.dropSubscription id)) := by
  have hquiet : session.Quiet (.dropSubscription id) := fun _ => ⟨rfl, rfl⟩
  match hid : session.holding id with
  | .apart true receiver =>
    have hnext : session.next (.dropSubscription id) =
        session.after id (.apart false receiver) (session.feed.unsubscribe id).1 := by
      simp only [next, step, hid]
    exact h.follows_unsubscribe hquiet hid rfl hnext rfl
  | .apart false _ | .watched | .dropped =>
    exact h.refused hquiet (by simp only [next, step, hid])

theorem follows_dropReceiver (h : Delivers session) (id : Nat) :
    Follows session (.dropReceiver id) (session.next (.dropReceiver id)) := by
  have hquiet : session.Quiet (.dropReceiver id) := fun _ => ⟨rfl, rfl⟩
  match hid : session.holding id with
  | .apart subscription true =>
    have hnext : session.next (.dropReceiver id) =
        session.after id (.apart subscription false) (session.feed.dropReceiver id) := by
      simp only [next, step, hid]
    exact h.follows_unreceive hquiet hid rfl hnext rfl
  | .apart _ false | .watched | .dropped =>
    exact h.refused hquiet (by simp only [next, step, hid])

theorem follows_dropWatched (h : Delivers session) (id : Nat) :
    Follows session (.dropWatched id) (session.next (.dropWatched id)) := by
  have hquiet : session.Quiet (.dropWatched id) := fun _ => ⟨rfl, rfl⟩
  match hid : session.holding id with
  | .watched =>
    have hnext : session.next (.dropWatched id) =
        session.after id .dropped (session.feed.close id).1 := by
      simp only [next, step, hid]
    exact h.follows_after hquiet hnext (by simp [hid]) (session.feed.close_alters id)
      (fun _ _ => ⟨rfl, nofun, nofun⟩) nofun nofun
  | .apart .. | .dropped => exact h.refused hquiet (by simp only [next, step, hid])

theorem follows_watch (h : Delivers session) (id : Nat) :
    Follows session (.watch id) (session.next (.watch id)) := by
  have hquiet : session.Quiet (.watch id) := fun _ => ⟨rfl, rfl⟩
  match hid : session.holding id with
  | .apart true true =>
    have hnext : session.next (.watch id) = session.after id .watched session.feed := by
      simp only [next, step, hid]
    refine h.follows_after hquiet hnext (by simp [hid]) (.refl session.feed id)
      (fun channel hfits => ?_) (fun _ hregistered => hregistered) fun _ => ?_
    · rw [hid] at hfits
      exact ⟨hfits.receiving, fun _ => rfl, fun _ _ => hfits.subscribed rfl rfl⟩
    · rw [hid]
      exact ⟨rfl, fun _ => rfl⟩
  | .apart true false =>
    have hnext : session.next (.watch id) =
        session.after id .dropped (session.feed.unsubscribe id).1 := by
      simp only [next, step, hid]
    exact h.follows_unsubscribe hquiet hid rfl hnext rfl
  | .apart false true =>
    have hnext : session.next (.watch id) =
        session.after id .dropped (session.feed.dropReceiver id) := by
      simp only [next, step, hid]
    exact h.follows_unreceive hquiet hid rfl hnext rfl
  | .apart false false | .watched | .dropped =>
    exact h.refused hquiet (by simp only [next, step, hid])

theorem follows (h : Delivers session) (step : FeedStep α) :
    Follows session step (session.next step) := by
  cases step with
  | subscribe => exact h.follows_subscribe
  | publish change => exact h.follows_publish change
  | poll id count => exact h.follows_poll id count
  | dropSubscription id => exact h.follows_dropSubscription id
  | dropReceiver id => exact h.follows_dropReceiver id
  | dropWatched id => exact h.follows_dropWatched id
  | watch id => exact h.follows_watch id
  | hint id =>
    refine h.refused (fun _ => ⟨rfl, rfl⟩) ?_
    simp only [next, FeedSession.step]
    split <;> rfl
  | unknown => exact h.refused (fun _ => ⟨rfl, rfl⟩) rfl

/-! ### Runs -/

theorem run (h : Delivers session) (steps : List (FeedStep α)) : Delivers (session.run steps) := by
  induction steps generalizing session with
  | nil => exact h
  | cons step rest ih => exact ih (h.follows step).delivers

/-- Over a run, what is taken from a receiver that is held to the end and what then waits for it are
what waited for it at first and what is published for it. -/
theorem follows_run (h : Delivers session) {steps : List (FeedStep α)}
    (hopen : (session.run steps).Open id) :
    session.Open id ∧ session.allTaken id steps ++ (session.run steps).queue id =
      session.queue id ++ session.allPublished id steps := by
  induction steps generalizing session with
  | nil => exact ⟨hopen, (List.append_nil _).symm⟩
  | cons step rest ih =>
    -- That the receiver is held is known at the end of the run only, so the rest comes first.
    have hstep := h.follows step
    obtain ⟨hnext, hrest⟩ := ih hstep.delivers hopen
    obtain ⟨hfirst, htracks⟩ := hstep.tracks id hnext
    refine ⟨hfirst, ?_⟩
    show _ ++ ((session.next step).run rest).queue id = _
    rw [allTaken, allPublished, List.append_assoc, hrest, ← List.append_assoc, htracks,
      List.append_assoc]

theorem answer_poll (h : Delivers session) (hid : (session.holding id).receiving = true)
    (count : Nat) :
    session.answer (.poll id count) =
      .polled ((polls (session.queue id) (session.holding id).subscribed).take count) := by
  obtain ⟨channel, hsome⟩ := h.channel_of_receiving hid
  obtain ⟨hfound, -⟩ := pollUpTo_eq hsome count
  rw [answer, step_poll hid, hfound, h.registered_eq hid hsome, queue, hsome]
  rfl

end Delivers

end Steps

/-- A receiver that is held to the end of a run, from the step that made it, whatever becomes of all
others: what was taken from it and what still waits for it are the changes published while its
subscription was held, in order. Polls find what waits, and then an end if and only if its
subscription is gone. -/
theorem delivery_exact (before steps : List (FeedStep α)) (id : Nat)
    (hsubscribed : ((start : FeedSession α).run before).answer .subscribe = .subscribed id)
    (hheld : (((((start : FeedSession α).run before).next .subscribe).run steps).holding
      id).receiving = true) :
    let opened := ((start : FeedSession α).run before).next .subscribe
    let last := opened.run steps
    ∃ waiting, opened.allTaken id steps ++ waiting = opened.allPublished id steps ∧
      ∀ count, last.answer (.poll id count) =
        .polled ((polls waiting (last.holding id).subscribed).take count) := by
  intro opened last
  have hbefore := (delivers_start : Delivers (start : FeedSession α)).run before
  have hopened : Delivers opened := hbefore.follows_subscribe.delivers
  have hempty : opened.queue id = [] := by
    cases hsubscribed
    rw [queue]
    show (Option.map _ ((((start : FeedSession α).run before).feed.subscribe).2.1.channel? _)).getD
      [] = []
    rw [Feed.channel?_subscribe, if_pos rfl]
    rfl
  obtain ⟨-, htaken⟩ := hopened.follows_run (.inl hheld)
  rw [hempty, List.nil_append] at htaken
  exact ⟨last.queue id, htaken, (hopened.run steps).answer_poll hheld⟩

/-! ### Two subscribers -/

/-- The first of two subscribers drops its receiver, is forgotten by the next change and then drops
its subscription. The second one goes on, is polled once, and drops its subscription last. -/
def pairSteps : List (FeedStep String) :=
  [.publish "a", .dropReceiver 0, .publish "b", .dropSubscription 0, .poll 1 1, .publish "c",
    .dropSubscription 1, .publish "d"]

/-- The session behind the second of two subscriptions. -/
def pairOpened : FeedSession String :=
  ((start : FeedSession String).run [.subscribe]).next .subscribe

theorem delivery_exact_pair :
    ((start : FeedSession String).run [.subscribe]).answer .subscribe = .subscribed 1 ∧
      ((pairOpened.run pairSteps).holding 1).receiving = true ∧
      pairOpened.allTaken 1 pairSteps = ["a"] ∧
      ∀ count, (pairOpened.run pairSteps).answer (.poll 1 count) =
        .polled ([.item "b", .item "c", .ended].take count) := by
  have hheld : ((pairOpened.run pairSteps).holding 1).receiving = true := by decide
  have htaken : pairOpened.allTaken 1 pairSteps = ["a"] := by decide
  have hpublished : pairOpened.allPublished 1 pairSteps = ["a", "b", "c"] := by decide
  have hended : ((pairOpened.run pairSteps).holding 1).subscribed = false := by decide
  obtain ⟨waiting, hwaiting, hpolls⟩ := delivery_exact [.subscribe] pairSteps 1 rfl hheld
  have hwaited : ["a"] ++ waiting = ["a"] ++ ["b", "c"] :=
    (htaken ▸ hwaiting : ["a"] ++ waiting = _).trans hpublished
  obtain rfl := List.append_cancel_left hwaited
  refine ⟨rfl, hheld, htaken, fun count => ?_⟩
  have hpoll : (pairOpened.run pairSteps).answer (.poll 1 count) = FeedAnswer.polled
      ((polls ["b", "c"] ((pairOpened.run pairSteps).holding 1).subscribed).take count) :=
    hpolls count
  rwa [hended] at hpoll

end FeedSession

end Preferences.Session
