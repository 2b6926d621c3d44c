import Preferences.Proofs.Observed
import Preferences.Session.Basic

/-! What observables show over whole sessions on one store: the value of their key at the start, and
then its value after each move that changed it. The moves are everything that can be done to the
store through any of its handles, and to the streams from it. -/

namespace Preferences.Session

open Preferences.Store

/-! ### Moves -/

/-- A move on one store: through a handle of it, or on a stream from it. -/
inductive Move where
  | clone (handle : Nat)
  | close (handle : Nat)
  | put (handle : Nat) (key : String) (value : Value)
  | putSync (handle : Nat) (key : String) (value : Value) (awaited : Bool)
  | remove (handle : Nat) (key : String)
  | clear (handle : Nat)
  | observe (handle : Nat) (key : String) (fallback : Value)
  | poll (stream count : Nat)
  | drop (stream : Nat)
  deriving DecidableEq, Repr

namespace Move

def step : Move → Step
  | clone handle => .act handle .full (some .clone)
  | close handle => .act handle .full (some .close)
  | put handle key value => .act handle .full (some (.put key value))
  | putSync handle key value awaited => .act handle .full (some (.putSync key value awaited))
  | remove handle key => .act handle .full (some (.remove key))
  | clear handle => .act handle .full (some .clear)
  | observe handle key fallback => .act handle .full (some (.observe key fallback))
  | poll stream count => .poll stream count
  | drop stream => .drop stream

def answer (move : Move) (session : Session) : Answer := (session.step move.step).1

def apply (move : Move) (session : Session) : Session := (session.step move.step).2.1

end Move

/-- A session on a store that holds `values` from the start, with one handle. -/
def holding (values : Entries Value) : Session := ⟨[.ofEntries values], [some 0], []⟩

/-- A session after some moves, one after another. -/
def after (session : Session) (moves : List Move) : Session :=
  moves.foldl (fun session move => move.apply session) session

/-! ### What a run shows -/

/-- What a key holds in the first store. -/
def held (session : Session) (key : String) : Option Value := (session.store 0).values.get? key

/-- Whether a move changes what a key holds: a put does where the key holds nothing or a value that
does not compare equal, and a removal where it holds something. -/
def Move.changes (move : Move) (session : Session) (key : String) : Bool :=
  match move with
  | put handle k value | putSync handle k value _ =>
    (session.storeOf? handle).isSome && k = key && !(session.held key).any (·.equals value)
  | remove handle k => (session.storeOf? handle).isSome && k = key && (session.held key).isSome
  | clear handle => (session.storeOf? handle).isSome && (session.held key).isSome
  | clone _ | close _ | observe .. | poll .. | drop _ => false

/-- What a key with a fallback is decoded to after each move that changes it. -/
def shown (session : Session) (key : String) (fallback : Value) : List Move → List Value
  | [] => []
  | move :: rest =>
    let next := move.apply session
    (if move.changes session key then [(decode key (next.held key) fallback).1] else []) ++
      next.shown key fallback rest

/-- The values among what was found. -/
def valuesOf (answer : Answer) : List Value :=
  match answer with
  | .polled found => found.filterMap fun
    | .item value => some value
    | _ => none
  | _ => []

/-- The values that a move takes from a stream. -/
def Move.taken (move : Move) (session : Session) (stream : Nat) : List Value :=
  match move with
  | poll polled _ => if polled = stream then valuesOf (move.answer session) else []
  | _ => []

/-- The values that the moves of a run take from a stream. -/
def yielded (session : Session) (stream : Nat) : List Move → List Value
  | [] => []
  | move :: rest => move.taken session stream ++ (move.apply session).yielded stream rest

/-! ### Watched stores -/

/-- The stream with a number is an observable of the first store. -/
def Watches (session : Session) (stream : Nat) (o : Observable) : Prop :=
  session.streams[stream]? = some (some (0, Stream.plain o))

/-- A session on one store: all handles lead to it, and all streams are observables of it, each with
a channel of its own. -/
structure Watched (session : Session) (store : Store) : Prop where
  stores : session.stores = [store]
  handles : ∀ handle number, session.storeOf? handle = some number → number = 0
  streams : ∀ (stream : Nat) entry, session.streams[stream]? = some (some entry) →
    ∃ o items, entry = (0, Stream.plain o) ∧ o.Awaits store items
  distinct : ∀ i j o p, session.Watches i o → session.Watches j p → o.channel = p.channel → i = j

/-- A move keeps a session on one store, and an observable that is not dropped goes on: what is
taken from it and what it then awaits are what it awaited and what the move shows. -/
structure Follows (session : Session) (store : Store) (move : Move) (next : Session)
    (after : Store) : Prop where
  watched : Watched next after
  tracks : ∀ stream o items, session.Watches stream o → o.Awaits store items →
    move ≠ .drop stream → ∃ first left, next.Watches stream { o with first } ∧
      Observable.Awaits { o with first } after left ∧
      move.taken session stream ++ left =
        items ++ if move.changes session o.key then [o.shows (after.values.get? o.key)] else []

theorem watched_holding (values : Entries Value) :
    Watched (holding values) (.ofEntries values) where
  stores := rfl
  handles handle number h := by
    cases handle with
    | zero => exact (Option.some.inj h).symm
    | succ handle => cases h
  streams stream entry h := by cases h
  distinct i j o p h := by cases h

section Moves

variable {session : Session} {store : Store}

theorem Watched.store_eq (h : Watched session store) : session.store 0 = store := by
  rw [Session.store, h.stores]
  rfl

theorem Watched.setStore_eq (h : Watched session store) (after : Store) :
    session.setStore 0 after = ⟨[after], session.handles, session.streams⟩ := by
  rw [setStore, h.stores]
  rfl

theorem Watched.self_eq (h : Watched session store) :
    session = ⟨[store], session.handles, session.streams⟩ := by
  rw [← h.stores]

/-- A step through a handle is refused, or done to the one store. -/
theorem Watched.step_act (h : Watched session store) (handle : Nat) (action : Action) :
    session.step (.act handle .full (some action)) =
      if (session.storeOf? handle).isSome then session.act handle 0 .full action
      else (.refused .noHandle, session, []) := by
  cases hhandle : session.storeOf? handle with
  | none => simp [Session.step, hhandle]
  | some number => simp [Session.step, hhandle, h.handles handle number hhandle]

/-- A move that leaves the streams alone. -/
theorem Watched.quiet (h : Watched session store) (move : Move) (after : Store)
    {handles : List (Option Nat)}
    (hhandles : ∀ (handle number : Nat), handles[handle]?.join = some number → number = 0)
    (htaken : ∀ stream, move.taken session stream = [])
    (hawaits : ∀ o items, Observable.Awaits o store items → o.Awaits after (items ++
      if move.changes session o.key then [o.shows (after.values.get? o.key)] else [])) :
    Follows session store move ⟨[after], handles, session.streams⟩ after where
  watched :=
    { stores := rfl
      handles := hhandles
      streams := fun stream entry hentry => by
        obtain ⟨o, items, rfl, ho⟩ := h.streams stream entry hentry
        exact ⟨o, _, rfl, hawaits o items ho⟩
      distinct := h.distinct }
  tracks stream o items hwatches ho _ :=
    ⟨o.first, _, hwatches, hawaits o items ho, by rw [htaken, List.nil_append]⟩

/-- A move that changes nothing of the store. -/
theorem Watched.unchanged (h : Watched session store) (move : Move) {handles : List (Option Nat)}
    (hhandles : ∀ (handle number : Nat), handles[handle]?.join = some number → number = 0)
    (htaken : ∀ stream, move.taken session stream = [])
    (hchanges : ∀ key, move.changes session key = false) :
    Follows session store move ⟨[store], handles, session.streams⟩ store := by
  refine h.quiet move store hhandles htaken fun o items ho => ?_
  rwa [hchanges, if_neg Bool.false_ne_true, List.append_nil]

/-- A move that is refused. -/
theorem Watched.refused (h : Watched session store) {move : Move}
    (hmove : move.apply session = session) (htaken : ∀ stream, move.taken session stream = [])
    (hchanges : ∀ key, move.changes session key = false) :
    ∃ after, Follows session store move (move.apply session) after := by
  have hsame := h.unchanged move h.handles htaken hchanges
  rw [← h.self_eq] at hsame
  rw [hmove]
  exact ⟨store, hsame⟩

theorem Watched.held_eq (h : Watched session store) (key : String) :
    session.held key = store.values.get? key := by
  rw [Session.held, h.store_eq]

/-- A move that writes through a handle, or is refused. It changes the keys that `touches` holds of,
and their observables show it. -/
theorem Watched.writing (h : Watched session store) {move : Move} {handle : Nat} {action : Action}
    (after : Store) (touches : String → Bool)
    (hstep : move.step = .act handle .full (some action))
    (hact : (session.act handle 0 .full action).2.1 = session.setStore 0 after)
    (htaken : ∀ stream, move.taken session stream = [])
    (hchanges : ∀ key, move.changes session key =
      ((session.storeOf? handle).isSome && touches key))
    (hawaits : ∀ o items, Observable.Awaits o store items → o.Awaits after (items ++
      if touches o.key then [o.shows (after.values.get? o.key)] else [])) :
    ∃ after, Follows session store move (move.apply session) after := by
  have hmove : move.apply session =
      (if (session.storeOf? handle).isSome then session.act handle 0 .full action
        else (.refused .noHandle, session, [])).2.1 := by
    rw [Move.apply, hstep, h.step_act]
  cases hhandle : (session.storeOf? handle).isSome with
  | true =>
    rw [hhandle, if_pos rfl, hact, h.setStore_eq] at hmove
    rw [hmove]
    refine ⟨after, h.quiet move after h.handles htaken fun o items ho => ?_⟩
    rw [hchanges, hhandle, Bool.true_and]
    exact hawaits o items ho
  | false =>
    rw [hhandle, if_neg Bool.false_ne_true] at hmove
    refine h.refused hmove htaken fun key => ?_
    rw [hchanges, hhandle, Bool.false_and]

/-! ### Moves through a handle -/

/-- Whether it is put plainly or in sync, a value that comes to be written shows. -/
theorem Watched.putting (h : Watched session store) {move : Move} {handle : Nat} {action : Action}
    (key : String) (value : Value) (hstep : move.step = .act handle .full (some action))
    (hact : (session.act handle 0 .full action).2.1 =
      session.setStore 0 ((session.store 0).write key value).1)
    (htaken : ∀ stream, move.taken session stream = [])
    (hchanges : ∀ k, move.changes session k = ((session.storeOf? handle).isSome && key = k &&
      !(session.held k).any (·.equals value))) :
    ∃ after, Follows session store move (move.apply session) after := by
  rw [h.store_eq] at hact
  refine h.writing (store.write key value).1
    (fun k => key = k && !(store.values.get? k).any (·.equals value)) hstep hact htaken ?_ ?_
  · intro k
    rw [hchanges, h.held_eq, Bool.and_assoc]
  · intro o items ho
    simpa using ho.write key value

theorem Watched.follows_put (h : Watched session store) (handle : Nat) (key : String)
    (value : Value) : ∃ after, Follows session store (.put handle key value)
      ((Move.put handle key value).apply session) after :=
  h.putting key value rfl rfl (fun _ => rfl) (fun _ => rfl)

theorem Watched.follows_putSync (h : Watched session store) (handle : Nat) (key : String)
    (value : Value) (awaited : Bool) : ∃ after,
      Follows session store (.putSync handle key value awaited)
        ((Move.putSync handle key value awaited).apply session) after :=
  h.putting key value rfl rfl (fun _ => rfl) (fun _ => rfl)

theorem Watched.follows_remove (h : Watched session store) (handle : Nat) (key : String) :
    ∃ after, Follows session store (.remove handle key)
      ((Move.remove handle key).apply session) after := by
  refine h.writing (store.remove key).1
    (fun k => key = k && store.values.contains k) rfl ?_ (fun _ => rfl) ?_ ?_
  · rw [← h.store_eq]
    rfl
  · intro k
    rw [Move.changes, h.held_eq, Bool.and_assoc]
    rfl
  · intro o items ho
    simpa using ho.remove key

theorem Watched.follows_clear (h : Watched session store) (handle : Nat) :
    ∃ after, Follows session store (.clear handle) ((Move.clear handle).apply session) after := by
  refine h.writing store.clear.1 store.values.contains rfl ?_ (fun _ => rfl) ?_ ?_
  · rw [← h.store_eq]
    rfl
  · intro k
    rw [Move.changes, h.held_eq]
    rfl
  · intro o items ho
    exact ho.clear

theorem Watched.follows_clone (h : Watched session store) (handle : Nat) :
    Follows session store (.clone handle) ((Move.clone handle).apply session) store := by
  have hmove : (Move.clone handle).apply session =
      ⟨[store], if (session.storeOf? handle).isSome then session.handles ++ [some 0]
        else session.handles, session.streams⟩ := by
    rw [Move.apply, Move.step, h.step_act, ← h.stores]
    split <;> rfl
  rw [hmove]
  refine h.unchanged _ (fun i number hnumber => ?_) (fun _ => rfl) (fun _ => rfl)
  split at hnumber
  · rw [List.getElem?_append] at hnumber
    split at hnumber
    · exact h.handles i number hnumber
    · cases hindex : i - session.handles.length with
      | zero =>
        rw [hindex] at hnumber
        exact (Option.some.inj hnumber).symm
      | succ k =>
        rw [hindex] at hnumber
        cases hnumber
  · exact h.handles i number hnumber

theorem Watched.follows_close (h : Watched session store) (handle : Nat) :
    Follows session store (.close handle) ((Move.close handle).apply session) store := by
  have hmove : (Move.close handle).apply session =
      ⟨[store], if (session.storeOf? handle).isSome then session.handles.set handle none
        else session.handles, session.streams⟩ := by
    rw [Move.apply, Move.step, h.step_act, ← h.stores]
    split <;> rfl
  rw [hmove]
  refine h.unchanged _ (fun i number hnumber => ?_) (fun _ => rfl) (fun _ => rfl)
  split at hnumber
  · rw [List.getElem?_set] at hnumber
    split at hnumber
    · split at hnumber <;> cases hnumber
    · exact h.handles i number hnumber
  · exact h.handles i number hnumber

/-! ### New observables -/

theorem eq_of_getElem?_concat {l : List α} {x y : α} {i : Nat} (h : (l ++ [x])[i]? = some y) :
    l[i]? = some y ∨ (i = l.length ∧ x = y) := by
  rw [List.getElem?_append] at h
  split at h
  · exact .inl h
  · rename_i hle
    have hlast := (List.getElem?_eq_some_iff.1 h).1
    rw [List.length_singleton] at hlast
    have hindex : i = l.length := by omega
    rw [hindex, Nat.sub_self] at h
    exact .inr ⟨hindex, Option.some.inj h⟩

/-- The session with a new observable of a key. -/
def watching (session : Session) (store : Store) (key : String) (fallback : Value) : Session :=
  ⟨[(store.observe key fallback).2.1], session.handles,
    session.streams ++ [some (0, Stream.plain (store.observe key fallback).1)]⟩

theorem Watched.watching (h : Watched session store) (key : String) (fallback : Value) :
    Watched (session.watching store key fallback) (store.observe key fallback).2.1 where
  stores := rfl
  handles := h.handles
  streams stream entry hentry := by
    rcases eq_of_getElem?_concat hentry with hold | ⟨-, hnew⟩
    · obtain ⟨o, items, rfl, ho⟩ := h.streams stream entry hold
      exact ⟨o, items, rfl, ho.observe key fallback⟩
    · cases hnew
      exact ⟨_, _, rfl, Observable.Awaits.observe_self store key fallback⟩
  distinct i j o p hi hj hchannel := by
    have hold {k : Nat} {q : Observable} (hk : session.Watches k q) :
        q.channel ≠ (store.observe key fallback).1.channel := by
      obtain ⟨q', items, hq, hawaits⟩ := h.streams k _ hk
      cases hq
      exact hawaits.ne_observe key fallback
    rcases eq_of_getElem?_concat hi with hiold | ⟨hilast, hinew⟩ <;>
      rcases eq_of_getElem?_concat hj with hjold | ⟨hjlast, hjnew⟩
    · exact h.distinct i j o p hiold hjold hchannel
    · cases hjnew
      exact absurd hchannel (hold hiold)
    · cases hinew
      exact absurd hchannel.symm (hold hjold)
    · rw [hilast, hjlast]

theorem Watched.apply_observe (h : Watched session store) (handle : Nat) (key : String)
    (fallback : Value) : (Move.observe handle key fallback).apply session =
      if (session.storeOf? handle).isSome then session.watching store key fallback
      else session := by
  rw [Move.apply, Move.step, h.step_act]
  split
  · show ((session.setStore 0 ((session.store 0).observe key fallback).2.1).addStream 0
      (Stream.plain ((session.store 0).observe key fallback).1)).2 = _
    rw [h.store_eq, h.setStore_eq]
    rfl
  · rfl

theorem Watched.follows_observe (h : Watched session store) (handle : Nat) (key : String)
    (fallback : Value) : ∃ after, Follows session store (.observe handle key fallback)
      ((Move.observe handle key fallback).apply session) after := by
  have hmove := h.apply_observe handle key fallback
  split at hmove
  · rw [hmove]
    refine ⟨_, h.watching key fallback, fun stream o items hwatches ho _ => ?_⟩
    refine ⟨o.first, items, ?_, ho.observe key fallback, (List.append_nil items).symm⟩
    rw [Watches, Session.watching,
      List.getElem?_append_left (List.getElem?_eq_some_iff.1 hwatches).1]
    exact hwatches
  · exact h.refused hmove (fun _ => rfl) (fun _ => rfl)

/-! ### Moves on streams -/

/-- Only one stream is set: it goes on or is gone, and all other observables are as they were. -/
theorem Watched.setStream (h : Watched session store) {after : Store} {stream : Nat}
    {p : Observable} (hp : session.Watches stream p)
    (hothers : ∀ o items, Observable.Awaits o store items → o.channel ≠ p.channel →
      o.Awaits after items) {entry : Option (Nat × Stream Value)}
    (hentry : ∀ found, entry = some found → ∃ first items,
      found = (0, Stream.plain { p with first }) ∧
        Observable.Awaits { p with first } after items) :
    Watched ⟨[after], session.handles, session.streams.set stream entry⟩ after where
  stores := rfl
  handles := h.handles
  streams i found hfound := by
    rw [List.getElem?_set] at hfound
    split at hfound
    · split at hfound
      · obtain ⟨first, items, rfl, hawaits⟩ := hentry found (Option.some.inj hfound)
        exact ⟨_, items, rfl, hawaits⟩
      · cases hfound
    · rename_i hne
      obtain ⟨o, items, rfl, ho⟩ := h.streams i found hfound
      refine ⟨o, items, rfl, hothers o items ho fun hchannel => hne ?_⟩
      exact (h.distinct i stream o p hfound hp hchannel).symm
  distinct i j o q hi hj hchannel := by
    have hbefore {k : Nat} {r : Observable}
        (hk : (session.streams.set stream entry)[k]? = some (some (0, Stream.plain r))) :
        ∃ r', session.Watches k r' ∧ r'.channel = r.channel := by
      rw [List.getElem?_set] at hk
      split at hk
      · rename_i heq
        split at hk
        · obtain ⟨first, items, hfound, -⟩ := hentry _ (Option.some.inj hk)
          cases hfound
          exact ⟨p, heq ▸ hp, rfl⟩
        · cases hk
      · exact ⟨r, hk, rfl⟩
    obtain ⟨o', hi', ho⟩ := hbefore hi
    obtain ⟨q', hj', hq⟩ := hbefore hj
    exact h.distinct i j o' q' hi' hj' (ho.trans (hchannel.trans hq.symm))

theorem Watches.set_of_ne {stream other : Nat} {o : Observable} {stores : List Store}
    {handles : List (Option Nat)} (hwatches : session.Watches other o) (hne : other ≠ stream)
    (entry : Option (Nat × Stream Value)) :
    Watches ⟨stores, handles, session.streams.set stream entry⟩ other o :=
  (List.getElem?_set_ne (Ne.symm hne)).trans hwatches

/-- Observables with different numbers have different channels. -/
theorem Watched.channel_ne (h : Watched session store) {i j : Nat} {o p : Observable}
    (ho : session.Watches i o) (hp : session.Watches j p) (hne : i ≠ j) :
    o.channel ≠ p.channel :=
  fun hchannel => hne (h.distinct i j o p ho hp hchannel)

/-- A stream that is held is an observable that awaits something. -/
theorem Watched.watches_of_join (h : Watched session store) {stream number : Nat}
    {source : Stream Value} (hheld : session.streams[stream]?.join = some (number, source)) :
    ∃ p items, number = 0 ∧ source = Stream.plain p ∧ session.Watches stream p ∧
      p.Awaits store items := by
  have hentry : session.streams[stream]? = some (some (number, source)) :=
    Option.join_eq_some_iff.1 hheld
  obtain ⟨p, items, heq, hp⟩ := h.streams stream _ hentry
  cases heq
  exact ⟨p, items, rfl, rfl, hentry, hp⟩

theorem Watched.follows_drop (h : Watched session store) (stream : Nat) :
    ∃ after, Follows session store (.drop stream) ((Move.drop stream).apply session) after := by
  cases hheld : session.streams[stream]?.join with
  | none =>
    have hmove : (Move.drop stream).apply session = session := by
      simp [Move.apply, Move.step, Session.step, hheld]
    exact h.refused hmove (fun _ => rfl) (fun _ => rfl)
  | some entry =>
    obtain ⟨number, source⟩ := entry
    obtain ⟨p, left, rfl, rfl, hp, -⟩ := h.watches_of_join hheld
    have hmove : (Move.drop stream).apply session =
        ⟨[(store.drop p).1], session.handles, session.streams.set stream none⟩ := by
      simp only [Move.apply, Move.step, Session.step, hheld, h.store_eq, Stream.plain,
        h.setStore_eq, Session.setStream]
    rw [hmove]
    refine ⟨_, h.setStream hp (fun o items ho hne => ho.drop hne) (fun found hfound => ?_),
      fun other o items hwatches ho hnot => ?_⟩
    · cases hfound
    · have hne : other ≠ stream := fun heq => hnot (heq ▸ rfl)
      exact ⟨o.first, items, hwatches.set_of_ne hne none,
        ho.drop (h.channel_ne hwatches hp hne), (List.append_nil items).symm⟩

theorem valuesOf_drained (items : List Value) (count : Nat) :
    valuesOf (.polled ((drained items).take count)) = items.take count := by
  induction items generalizing count with
  | nil => cases count <;> simp [valuesOf, drained]
  | cons value items ih =>
    cases count with
    | zero => rfl
    | succ count =>
      have hrest := ih count
      simp only [valuesOf, drained] at hrest ⊢
      simp [hrest]

/-- What is found at an observable, and the session after that. -/
theorem Watched.poll_eq (h : Watched session store) {stream : Nat} {p : Observable}
    {left : List Value} (hp : session.Watches stream p) (hawaits : p.Awaits store left)
    (count : Nat) : ∃ first after,
      (Move.poll stream count).answer session = .polled ((drained left).take count) ∧
      (Move.poll stream count).apply session = ⟨[after], session.handles,
        session.streams.set stream (some (0, Stream.plain { p with first }))⟩ ∧
      Observable.Awaits { p with first } after (left.drop count) ∧
      ∀ o items, Observable.Awaits o store items → o.channel ≠ p.channel →
        o.Awaits after items := by
  obtain ⟨first, after, events, hpoll, hleft, hvalues⟩ := hawaits.pollUpTo count
  have hheld : session.streams[stream]?.join = some (0, Stream.plain p) := by
    rw [show session.streams[stream]? = _ from hp]
    rfl
  refine ⟨first, after, ?_, ?_, hleft, fun o items ho hne => ?_⟩
  · simp only [Move.answer, Move.step, Session.step, hheld, h.store_eq, hpoll]
  · simp only [Move.apply, Move.step, Session.step, hheld, h.store_eq, hpoll, h.setStore_eq,
      Session.setStream]
  · have hother := ho.pollUpTo_other hne count
    rwa [hpoll] at hother

theorem Watched.follows_poll (h : Watched session store) (stream count : Nat) :
    ∃ after, Follows session store (.poll stream count)
      ((Move.poll stream count).apply session) after := by
  cases hheld : session.streams[stream]?.join with
  | none =>
    have hmove : (Move.poll stream count).apply session = session := by
      simp [Move.apply, Move.step, Session.step, hheld]
    have htaken (other : Nat) : (Move.poll stream count).taken session other = [] := by
      simp [Move.taken, Move.answer, Move.step, Session.step, hheld, valuesOf]
    exact h.refused hmove htaken (fun _ => rfl)
  | some entry =>
    obtain ⟨number, source⟩ := entry
    obtain ⟨p, left, rfl, rfl, hp, hawaits⟩ := h.watches_of_join hheld
    obtain ⟨first, after, hanswer, hmove, hleft, hothers⟩ := h.poll_eq hp hawaits count
    rw [hmove]
    refine ⟨after, h.setStream hp hothers ?_, fun other o items hwatches ho _ => ?_⟩
    · intro found hfound
      cases hfound
      exact ⟨first, left.drop count, rfl, hleft⟩
    · by_cases heq : other = stream
      · subst heq
        have hsame : some (some (0, Stream.plain o)) = some (some (0, Stream.plain p)) :=
          hwatches.symm.trans hp
        cases hsame
        obtain rfl := ho.unique hawaits
        refine ⟨first, items.drop count, ?_, hleft, ?_⟩
        · exact List.getElem?_set_self (List.getElem?_eq_some_iff.1 hwatches).1
        · rw [Move.taken, if_pos rfl, hanswer, valuesOf_drained, List.take_append_drop]
          exact (List.append_nil items).symm
      · refine ⟨o.first, items, hwatches.set_of_ne heq _,
          hothers o items ho (h.channel_ne hwatches hp heq), ?_⟩
        rw [Move.taken, if_neg (Ne.symm heq)]
        exact (List.append_nil items).symm

/-- Every move keeps a session on one store, and its observables follow it. -/
theorem Watched.follows (h : Watched session store) (move : Move) :
    ∃ after, Follows session store move (move.apply session) after := by
  cases move with
  | clone handle => exact ⟨store, h.follows_clone handle⟩
  | close handle => exact ⟨store, h.follows_close handle⟩
  | put handle key value => exact h.follows_put handle key value
  | putSync handle key value awaited => exact h.follows_putSync handle key value awaited
  | remove handle key => exact h.follows_remove handle key
  | clear handle => exact h.follows_clear handle
  | observe handle key fallback => exact h.follows_observe handle key fallback
  | poll stream count => exact h.follows_poll stream count
  | drop stream => exact h.follows_drop stream

/-! ### Runs -/

/-- Over a run, what is taken from an observable and what it then awaits are what it awaited at
first and what the moves show. -/
theorem Watched.follows_run (h : Watched session store) {stream : Nat} {o : Observable}
    {items : List Value} (hwatches : session.Watches stream o) (ho : o.Awaits store items)
    {moves : List Move} (hdrop : .drop stream ∉ moves) :
    ∃ after p left, Watched (session.after moves) after ∧
      (session.after moves).Watches stream p ∧ p.key = o.key ∧ p.Awaits after left ∧
      session.yielded stream moves ++ left = items ++ session.shown o.key o.fallback moves := by
  induction moves generalizing session store o items with
  | nil => exact ⟨store, o, items, h, hwatches, rfl, ho, (List.append_nil items).symm⟩
  | cons move rest ih =>
    rw [List.mem_cons, not_or] at hdrop
    obtain ⟨next, hfollows⟩ := h.follows move
    obtain ⟨first, left, hwatches', ho', htaken⟩ :=
      hfollows.tracks stream o items hwatches ho (Ne.symm hdrop.1)
    obtain ⟨last, p, remaining, hlast, hp, hkey, hawaits, hyielded⟩ :=
      ih hfollows.watched hwatches' ho' hdrop.2
    refine ⟨last, p, remaining, hlast, hp, hkey, hawaits, ?_⟩
    have hheld : (move.apply session).held o.key = next.values.get? o.key :=
      hfollows.watched.held_eq o.key
    rw [yielded, shown, List.append_assoc, hyielded, ← List.append_assoc, htaken,
      List.append_assoc]
    simp only [hheld]
    rfl

theorem Watched.after (h : Watched session store) (moves : List Move) :
    ∃ last, Watched (session.after moves) last := by
  induction moves generalizing session store with
  | nil => exact ⟨store, h⟩
  | cons move rest ih =>
    obtain ⟨next, hfollows⟩ := h.follows move
    exact ih hfollows.watched

/-- A handle that answers with a stream has made a new observable. -/
theorem Watched.observe_stream (h : Watched session store) {handle : Nat} {key : String}
    {fallback : Value} {stream : Nat}
    (hanswer : (Move.observe handle key fallback).answer session = .stream stream) :
    (Move.observe handle key fallback).apply session = session.watching store key fallback ∧
      (session.watching store key fallback).Watches stream (store.observe key fallback).1 := by
  rw [h.apply_observe]
  rw [Move.answer, Move.step, h.step_act] at hanswer
  split at hanswer
  · rename_i hhandle
    cases hanswer
    exact ⟨if_pos hhandle, List.getElem?_concat_length⟩
  · cases hanswer

theorem taken_of_ne {move : Move} {stream : Nat} (hpoll : ∀ count, move ≠ .poll stream count) :
    move.taken session stream = [] := by
  cases move with
  | poll polled count =>
    rw [Move.taken, if_neg]
    rintro rfl
    exact hpoll count rfl
  | clone | close | put | putSync | remove | clear | observe | drop => rfl

end Moves

/-- On a store that held anything at first, through whichever of its handles: what has been taken
from an observable, followed by what waits in it, is the decoded value of its key when it was made
and then after each move that changed it. Polls find what waits, and then never an end but nothing
for now. A move that neither takes from it nor drops it nor changes its key leaves it as it is. -/
theorem observable_shows_changes (values : Entries Value) (before moves : List Move)
    (handle stream : Nat) (key : String) (fallback : Value)
    (hanswer : (Move.observe handle key fallback).answer ((holding values).after before) =
      .stream stream) (hdrop : .drop stream ∉ moves) :
    let session := (holding values).after before
    let observed := (Move.observe handle key fallback).apply session
    let last := observed.after moves
    ∃ waiting, observed.yielded stream moves ++ waiting =
        (decode key (session.held key) fallback).1 :: observed.shown key fallback moves ∧
      (∀ count, (Move.poll stream count).answer last = .polled ((drained waiting).take count)) ∧
      ∀ move : Move, move ≠ .drop stream → (∀ count, move ≠ .poll stream count) →
        move.changes last key = false → ∀ count,
          (Move.poll stream count).answer (move.apply last) =
            (Move.poll stream count).answer last := by
  intro session observed last
  obtain ⟨store, hstore⟩ := (watched_holding values).after before
  obtain ⟨hobserved, hwatches⟩ := hstore.observe_stream hanswer
  obtain ⟨after, p, waiting, hlast, hp, hkey, hawaits, hyielded⟩ :=
    (hstore.watching key fallback).follows_run hwatches
      (Observable.Awaits.observe_self store key fallback) hdrop
  rw [← hobserved] at hlast hp hyielded
  have hanswers {left : List Value} {o : Observable} {session : Session} {store : Store}
      (hsession : Watched session store) (ho : session.Watches stream o)
      (hleft : o.Awaits store left) (count : Nat) :
      (Move.poll stream count).answer session = .polled ((drained left).take count) := by
    obtain ⟨_, _, hpolled, -⟩ := hsession.poll_eq ho hleft count
    exact hpolled
  refine ⟨waiting, ?_, hanswers hlast hp hawaits, fun move hnot hpoll hchanges count => ?_⟩
  · rw [hstore.held_eq]
    exact hyielded
  · obtain ⟨next, hfollows⟩ := hlast.follows move
    obtain ⟨first, left, hp', hawaits', htaken⟩ := hfollows.tracks stream p waiting hp hawaits hnot
    have hnone : move.changes last p.key = false := by
      rw [hkey]
      exact hchanges
    rw [taken_of_ne hpoll, hnone, if_neg Bool.false_ne_true, List.append_nil] at htaken
    rw [hanswers hfollows.watched hp' hawaits', hanswers hlast hp hawaits]
    exact congrArg (fun items => Answer.polled ((drained items).take count)) htaken

/-! ### A number -/

/-- A session with an observable of a number. -/
def numberObserved : Session := (Move.observe 0 "a" (.integer 0)).apply (holding .empty)

/-- The number is put, the only handle is closed, and the observable is polled to its end. -/
def numberMoves : List Move := [.put 0 "a" (.integer 1), .close 0, .poll 0 3]

/-- The observable has shown the fallback and the number, and is still pending without a handle. -/
theorem observable_shows_changes_number :
    (Move.observe 0 "a" (.integer 0)).answer (holding .empty) = .stream 0 ∧
      .drop 0 ∉ numberMoves ∧ numberObserved.yielded 0 numberMoves = [.integer 0, .integer 1] ∧
      ∀ count, (Move.poll 0 count).answer (numberObserved.after numberMoves) =
        .polled ([.pending].take count) := by
  have hdrop : .drop 0 ∉ numberMoves := by decide
  have hyielded : numberObserved.yielded 0 numberMoves = [.integer 0, .integer 1] := by
    decide +kernel
  have hshown : numberObserved.shown "a" (.integer 0) numberMoves = [.integer 1] := by
    decide +kernel
  obtain ⟨waiting, hwaiting, hpolls, -⟩ :=
    observable_shows_changes .empty [] numberMoves 0 0 "a" (.integer 0) rfl hdrop
  change numberObserved.yielded 0 numberMoves ++ waiting =
    Value.integer 0 :: numberObserved.shown "a" (.integer 0) numberMoves at hwaiting
  rw [hyielded, hshown] at hwaiting
  have hnothing : waiting = [] := List.append_right_eq_self.1 hwaiting
  refine ⟨rfl, hdrop, hyielded, fun count => ?_⟩
  rw [hnothing] at hpolls
  exact hpolls count

end Preferences.Session
