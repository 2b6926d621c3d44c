import Preferences.Proofs.Ownership
import Preferences.Proofs.Watching
import Preferences.Schema.Run

/-! The listener of a store over whole runs. Whatever is done to the store through its handles,
through adapters and through generated methods, the subscribers are the live observables, and there
is a listener exactly while there are any. In every run it is registered and released in turn. -/

namespace Preferences.Store

variable {store : Store}

/-! ### Gateways and adapters -/

theorem Permission.put_leaves (permission : Permission) (store : Store) (key : String)
    (value : Value) :
    Leaves store (permission.put store key value).1 (permission.put store key value).2 := by
  cases permission with
  | full => exact write_leaves store key value
  | readOnly => exact .refl store

theorem Permission.putSync_leaves (permission : Permission) (store : Store) (key : String)
    (value : Value) :
    Leaves store (permission.putSync store key value).2.1
      (permission.putSync store key value).2.2 := by
  cases permission with
  | full => exact write_leaves store key value
  | readOnly => exact .refl store

theorem Permission.remove_leaves (permission : Permission) (store : Store) (key : String) :
    Leaves store (permission.remove store key).1 (permission.remove store key).2 := by
  cases permission with
  | full => exact Store.remove_leaves store key
  | readOnly => exact .refl store

theorem Permission.clear_leaves (permission : Permission) (store : Store) :
    Leaves store (permission.clear store).1 (permission.clear store).2 := by
  cases permission with
  | full => exact Store.clear_leaves store
  | readOnly => exact .refl store

/-- An adapter that watches by a single observable, and watches nothing when it reads or writes. -/
structure Adapter.Plain (adapter : Adapter α) : Prop where
  observe : ∀ permission store key fallback,
    Opens store (adapter.observe permission store key fallback).1
      (adapter.observe permission store key fallback).2.1
      (adapter.observe permission store key fallback).2.2
  get : ∀ permission store key fallback,
    Leaves store (adapter.get permission store key fallback).2.1
      (adapter.get permission store key fallback).2.2
  put : ∀ permission store key value,
    Leaves store (adapter.put permission store key value).1
      (adapter.put permission store key value).2

theorem Codec.readOr_quiet (codec : Codec α) (key raw : String) (fallback : α) :
    ∀ event ∈ (codec.readOr key raw fallback).2, event.ofListener = false := by
  intro event hevent
  unfold Codec.readOr at hevent
  split at hevent
  · cases hevent
  · rw [List.mem_singleton.1 hevent]
    rfl

/-- Values in a written form are watched, read and written as strings are. -/
theorem Codec.adapter_plain (codec : Codec α) : codec.adapter.Plain where
  observe _ store key fallback := observe_opens store key _ fun _ =>
    codec.readOr_quiet key _ fallback
  get _ store key _ := (read_leaves store key _).trans (.of_quiet (codec.readOr_quiet key _ _))
  put permission store key _ := permission.put_leaves store key _

end Preferences.Store

namespace Preferences.Schema

open Preferences.Store

/-! ### Generated methods -/

/-- What a generated method does to a store: it opens the stream that it gives, and without one it
leaves the listener alone. -/
def Acts (store : Store) : Given α × Store × List Event → Prop
  | (.stream stream, after, events) => Opens store stream after events
  | (_, after, events) => Leaves store after events

variable (permission : Permission) (store : Store)

theorem runRead_acts (watch : Bool) (kind : Kind) (key : String) (fallback : Datum α) :
    Acts store (runRead store watch kind key fallback) := by
  unfold runRead
  split
  · exact .refl store
  · cases watch with
    | true => exact observe_opens store key _ nofun
    | false => exact read_leaves store key _

theorem runWrite_acts (sync : Bool) (kind : Kind) (key : String) (value : Datum α) :
    Acts store (runWrite permission store sync kind key value) := by
  unfold runWrite
  split
  · exact .refl store
  · rename_i value _
    cases sync with
    | true => exact permission.putSync_leaves store key value
    | false => exact permission.put_leaves store key value

theorem runAdapterRead_acts {adapter : Adapter α} (hplain : adapter.Plain) (watch : Bool)
    (key : String) (fallback : Datum α) :
    Acts store (runAdapterRead permission store watch adapter key fallback) := by
  unfold runAdapterRead
  split
  · exact .refl store
  · rename_i fallback _
    cases watch with
    | true =>
      obtain ⟨hserves, hheard, hquiet⟩ := hplain.observe permission store key fallback
      exact ⟨hserves, hheard, hquiet.map Datum.adapted⟩
    | false => exact hplain.get permission store key fallback

theorem runAdapterWrite_acts {adapter : Adapter α} (hplain : adapter.Plain) (key : String)
    (value : Datum α) : Acts store (runAdapterWrite permission store adapter key value) := by
  unfold runAdapterWrite
  split
  · exact .refl store
  · exact hplain.put permission store key _

theorem Call.run_acts {meaning : Meaning α} (passed : Passed α)
    (hplain : ∀ bound, (meaning.adapter bound).Plain) (call : Call) :
    Acts store (call.run meaning permission passed store) := by
  cases call with
  | read watch kind key fallback => exact runRead_acts store watch kind _ _
  | write sync kind key _ => exact runWrite_acts permission store sync kind _ _
  | adapterRead watch bound key fallback =>
    exact runAdapterRead_acts permission store (hplain bound) watch _ _
  | adapterWrite bound key _ => exact runAdapterWrite_acts permission store (hplain bound) _ _
  | contains key => exact .refl store
  | remove key => exact permission.remove_leaves store _
  | clear => exact permission.clear_leaves store

end Preferences.Schema

namespace Preferences.Sample

open Preferences.Schema Preferences.Store

theorem Custom.ordinalAdapter_plain : Custom.ordinalAdapter.Plain where
  observe _ store key _ := observe_opens store key _ nofun
  get _ store key _ := read_leaves store key _
  put permission store key _ := permission.put_leaves store key _

theorem Custom.imperialAdapter_plain : Custom.imperialAdapter.Plain where
  observe _ store key _ := observe_opens store key _ nofun
  get _ store _ _ := .refl store
  put permission store key _ := permission.put_leaves store key _

/-- So the methods of the sample declarations are among the uses below. -/
theorem adapterOf_plain (bound : AdapterBinding) : (adapterOf bound).Plain := by
  unfold adapterOf
  split
  · exact Custom.ordinalAdapter_plain
  · exact Codec.adapter_plain _
  · exact Custom.imperialAdapter_plain

end Preferences.Sample

namespace Preferences.Session

open Preferences.Store Preferences.Schema

/-! ### Uses of one store -/

def Action.isCall : Action → Bool
  | .call .. => true
  | _ => false

/-- What may be done with one store: actions through its handles, polls and drops of its streams,
and generated methods of any declaration, whose adapters each watch by a single observable. -/
inductive Use : Type 1 where
  | act (handle : Nat) (permission : Permission) (action : Action)
      (hdirect : action.isCall = false)
  | poll (stream count : Nat)
  | drop (stream : Nat)
  | generated {α : Type} (handle : Nat) (permission : Permission) (meaning : Meaning α)
      (hplain : ∀ bound, (meaning.adapter bound).Plain) (passed : Passed α)
      (shown : Datum α → Value) (call : Call)

/-- The session with what a generated method gives: a stream, or nothing to keep. -/
def keep (session : Session) (shown : Datum α → Value) : Given α → Session
  | .stream stream => (session.addStream 0 (stream.map shown)).2
  | _ => session

/-- The session after a use of its first store, and the log of it. -/
def Use.apply (session : Session) : Use → Session × List Event
  | act handle permission action _ => (session.step (.act handle permission (some action))).2
  | poll stream count => (session.step (.poll stream count)).2
  | drop stream => (session.step (.drop stream)).2
  | generated handle permission meaning _ passed shown call =>
    if (session.storeOf? handle).isSome then
      let (given, store, events) := call.run meaning permission passed (session.store 0)
      ((session.setStore 0 store).keep shown given, events)
    else (session, [])

/-- The session after some uses, one after another, and the log of them all. -/
def used (session : Session) : List Use → Session × List Event
  | [] => (session, [])
  | use :: rest =>
    let (next, events) := use.apply session
    let (last, more) := next.used rest
    (last, events ++ more)

/-- The number of streams that are held. -/
def live (session : Session) : Nat := session.streams.countP (·.isSome)

/-- The channel of a stream that is held. -/
def channelOf? (entry : Option (Nat × Stream Value)) : Option Nat := entry.map (·.2.source.channel)

/-- A session on one store: all handles lead to it, and its registered channels are those of the
streams that are held. -/
structure Attended (session : Session) (store : Store) : Prop where
  stores : session.stores = [store]
  handles : ∀ handle number, session.storeOf? handle = some number → number = 0
  streams : ∀ number stream, some (number, stream) ∈ session.streams → number = 0 ∧ stream.Quiet
  serves : store.feed.Serves (session.streams.filterMap channelOf?)

/-- A use keeps a session on one store, and its log follows the listener. -/
def Attends (store : Store) (result : Session × List Event) : Prop :=
  ∃ after, Attended result.1 after ∧ Heard store.feed.listening result.2 after.feed.listening

theorem attended_holding (values : Entries Value) :
    Attended (holding values) (.ofEntries values) where
  stores := rfl
  handles := (watched_holding values).handles
  streams _ _ h := by cases h
  serves := Feed.serves_empty

theorem live_eq (session : Session) :
    session.live = (session.streams.filterMap channelOf?).length := by
  rw [live]
  induction session.streams with
  | nil => rfl
  | cons entry rest ih =>
    cases entry with
    | none => exact ih
    | some entry => exact (List.countP_cons_of_pos rfl).trans (congrArg (· + 1) ih)

namespace Attended

variable {session : Session} {store : Store}

theorem store_eq (h : Attended session store) : session.store 0 = store := by
  rw [Session.store, h.stores]
  rfl

theorem setStore_eq (h : Attended session store) (after : Store) :
    session.setStore 0 after = ⟨[after], session.handles, session.streams⟩ := by
  rw [setStore, h.stores]
  rfl

theorem refused (h : Attended session store) : Attends store (session, []) :=
  ⟨store, h, .nil _⟩

/-- The handles change, and all still lead to the store. -/
theorem withHandles (h : Attended session store) {handles : List (Option Nat)}
    (hhandles : ∀ (handle number : Nat), handles[handle]?.join = some number → number = 0) :
    Attends store ({ session with handles }, []) :=
  ⟨store, ⟨h.stores, hhandles, h.streams, h.serves⟩, .nil _⟩

theorem leaves (h : Attended session store) {after : Store} {events : List Event}
    (hleaves : Leaves store after events) : Attends store (session.setStore 0 after, events) := by
  rw [h.setStore_eq]
  exact ⟨after, ⟨rfl, h.handles, h.streams, hleaves.serves _ h.serves⟩, hleaves.heard⟩

theorem opens (h : Attended session store) {stream : Stream Value} {after : Store}
    {events : List Event} (hopens : Opens store stream after events) :
    Attends store (((session.setStore 0 after).addStream 0 stream).2, events) := by
  rw [h.setStore_eq]
  refine ⟨after, ⟨rfl, h.handles, fun number found hfound => ?_, ?_⟩, hopens.heard⟩
  · rcases List.mem_append.1 hfound with hold | hnew
    · exact h.streams number found hold
    · cases List.mem_singleton.1 hnew
      exact ⟨rfl, hopens.quiet⟩
  · show after.feed.Serves ((session.streams ++ [some (0, stream)]).filterMap channelOf?)
    rw [List.filterMap_append]
    exact hopens.serves _ h.serves

/-! ### Actions -/

theorem act_clone (h : Attended session store) (handle : Nat) (permission : Permission) :
    Attends store (session.act handle 0 permission .clone).2 := by
  refine h.withHandles fun i number hnumber => ?_
  obtain hold | ⟨-, hnew⟩ := eq_of_getElem?_concat (Option.join_eq_some_iff.1 hnumber)
  · exact h.handles i number (Option.join_eq_some_iff.2 hold)
  · exact (Option.some.inj hnew).symm

theorem act_close (h : Attended session store) (handle : Nat) (permission : Permission) :
    Attends store (session.act handle 0 permission .close).2 := by
  refine h.withHandles fun i number hnumber => ?_
  rw [List.getElem?_set] at hnumber
  split at hnumber
  · split at hnumber <;> cases hnumber
  · exact h.handles i number hnumber

theorem withText (h : Attended session store) (codec : Codec String) (text : String)
    {go : String → Answer × Session × List Event} (hgo : ∀ usual, Attends store (go usual).2) :
    Attends store (session.withText codec text go).2 := by
  unfold Session.withText
  split
  · exact hgo _
  · exact h.refused

theorem act (h : Attended session store) (handle : Nat) (permission : Permission) {action : Action}
    (hdirect : action.isCall = false) :
    Attends store (session.act handle 0 permission action).2 := by
  have hstore := h.store_eq
  cases action with
  | clone => exact h.act_clone handle permission
  | close => exact h.act_close handle permission
  | put key value => exact h.leaves (hstore ▸ permission.put_leaves _ key value)
  | putSync key value awaited => exact h.leaves (hstore ▸ permission.putSync_leaves _ key value)
  | get key fallback =>
    exact ⟨store, h, hstore.symm ▸ (read_leaves store key fallback).heard⟩
  | observe key fallback => exact h.opens (hstore ▸ observe_opens _ key fallback nofun)
  | contains key => exact h.refused
  | remove key => exact h.leaves (hstore ▸ permission.remove_leaves _ key)
  | clear => exact h.leaves (hstore ▸ permission.clear_leaves _)
  | adapterGet codec key text =>
    exact h.withText codec text fun usual =>
      h.leaves (hstore ▸ codec.adapter_plain.get permission _ key usual)
  | adapterPut codec key text =>
    exact h.withText codec text fun usual =>
      h.leaves (hstore ▸ codec.adapter_plain.put permission _ key usual)
  | adapterObserve codec key text =>
    refine h.withText codec text fun usual => ?_
    obtain ⟨hserves, hheard, hquiet⟩ := codec.adapter_plain.observe permission store key usual
    rw [hstore]
    exact h.opens ⟨hserves, hheard, hquiet.map Value.string⟩
  | stored key => exact h.refused
  | dump => exact h.refused
  | call declaration method passed awaited => cases hdirect

/-! ### Streams -/

/-- A stream that is held is one of the store. -/
theorem held (h : Attended session store) {stream number : Nat} {source : Stream Value}
    (hheld : session.streams[stream]?.join = some (number, source)) :
    session.streams[stream]? = some (some (0, source)) ∧ number = 0 ∧ source.Quiet := by
  have hentry : session.streams[stream]? = some (some (number, source)) :=
    Option.join_eq_some_iff.1 hheld
  obtain ⟨rfl, hquiet⟩ := h.streams number source (List.mem_of_getElem? hentry)
  exact ⟨hentry, rfl, hquiet⟩

theorem poll (h : Attended session store) (stream count : Nat) :
    Attends store (session.step (.poll stream count)).2 := by
  simp only [Session.step]
  split
  · exact h.refused
  · rename_i number source hheld
    obtain ⟨hentry, rfl, hquiet⟩ := h.held hheld
    obtain ⟨hleaves, hchannel, hnext⟩ := hquiet.pollUpTo (session.store 0) count
    rw [h.store_eq] at hleaves hchannel hnext ⊢
    rcases hpoll : source.pollUpTo store count with ⟨found, next, after, events⟩
    rw [hpoll] at hleaves hchannel hnext
    show Attends store ((session.setStore 0 after).setStream stream (some (0, next)), events)
    rw [h.setStore_eq]
    refine ⟨after, ⟨rfl, h.handles, fun number found hfound => ?_, ?_⟩, hleaves.heard⟩
    · rcases List.mem_or_eq_of_mem_set hfound with hold | hnew
      · exact h.streams number found hold
      · cases hnew
        exact ⟨rfl, hnext⟩
    · -- The stream goes on under its number, with the same channel.
      have hsame : (session.streams.set stream (some (0, next))).map channelOf? =
          session.streams.map channelOf? := by
        rw [List.map_set]
        refine List.ext_getElem? fun i => ?_
        rw [List.getElem?_set]
        split
        · rename_i heq
          subst heq
          rw [List.getElem?_map, hentry, List.length_map,
            if_pos (List.getElem?_eq_some_iff.1 hentry).1]
          exact congrArg (fun channel => some (some channel)) hchannel
        · rfl
      have hids := congrArg (List.filterMap id) hsame
      rw [List.filterMap_map, List.filterMap_map, Function.id_comp] at hids
      show after.feed.Serves ((session.streams.set stream (some (0, next))).filterMap channelOf?)
      rw [hids]
      exact hleaves.serves _ h.serves

theorem drop (h : Attended session store) (stream : Nat) :
    Attends store (session.step (.drop stream)).2 := by
  simp only [Session.step]
  split
  · exact h.refused
  · rename_i number source hheld
    obtain ⟨hentry, rfl, -⟩ := h.held hheld
    rw [h.store_eq]
    show Attends store ((session.setStore 0 (store.drop source.source).1).setStream stream none,
      (store.drop source.source).2)
    rw [h.setStore_eq]
    have hlt := (List.getElem?_eq_some_iff.1 hentry).1
    have hget : session.streams[stream] = some (0, source) :=
      (List.getElem?_eq_some_iff.1 hentry).2
    refine ⟨_, ⟨rfl, h.handles, fun number found hfound => ?_, ?_⟩, drop_heard store _⟩
    · rcases List.mem_or_eq_of_mem_set hfound with hold | hnew
      · exact h.streams number found hold
      · cases hnew
    · -- The channel of the stream is taken from its place among those that are held.
      have hbefore : (session.streams.filterMap channelOf?).Perm
          (source.source.channel :: (session.streams.set stream none).filterMap channelOf?) := by
        have hstreams : session.streams = session.streams.take stream ++
            some (0, source) :: session.streams.drop (stream + 1) := by
          rw [← hget, List.getElem_cons_drop, List.take_append_drop]
        rw [List.set_eq_take_append_cons_drop, if_pos hlt]
        conv => lhs; rw [hstreams]
        rw [List.filterMap_append, List.filterMap_append]
        exact List.perm_middle
      have hserves := h.serves.perm hbefore
      have hdropped := drop_serves (o := source.source) hserves List.mem_cons_self
      rwa [List.erase_cons_head] at hdropped

theorem generated {α : Type} (h : Attended session store) {meaning : Meaning α}
    (hplain : ∀ bound, (meaning.adapter bound).Plain) (permission : Permission)
    (passed : Passed α) (shown : Datum α → Value) (call : Call) :
    Attends store
      (((session.setStore 0 (call.run meaning permission passed store).2.1).keep shown
        (call.run meaning permission passed store).1),
        (call.run meaning permission passed store).2.2) := by
  have hacts := call.run_acts permission store passed hplain
  rcases hrun : call.run meaning permission passed store with ⟨given, after, events⟩
  rw [hrun] at hacts
  cases given with
  | stream stream =>
    obtain ⟨hserves, hheard, hquiet⟩ := hacts
    exact h.opens ⟨hserves, hheard, hquiet.map shown⟩
  | nothing | datum | completion | flag | illTyped => exact h.leaves hacts

/-! ### Runs -/

theorem apply (h : Attended session store) (use : Use) : Attends store (use.apply session) := by
  cases use with
  | act handle permission action hdirect =>
    cases hhandle : session.storeOf? handle with
    | none =>
      have hstep : session.step (.act handle permission (some action)) =
          (.refused .noHandle, session, []) := by
        simp only [Session.step, hhandle]
      rw [Use.apply, hstep]
      exact h.refused
    | some number =>
      have hstep : session.step (.act handle permission (some action)) =
          session.act handle 0 permission action := by
        simp only [Session.step, hhandle, h.handles handle number hhandle]
      rw [Use.apply, hstep]
      exact h.act handle permission hdirect
  | poll stream count => exact h.poll stream count
  | drop stream => exact h.drop stream
  | generated handle permission meaning hplain passed shown call =>
    rw [Use.apply, h.store_eq]
    split
    · exact h.generated hplain permission passed shown call
    · exact h.refused

theorem used (h : Attended session store) (uses : List Use) :
    Attends store (session.used uses) := by
  induction uses generalizing session store with
  | nil => exact h.refused
  | cons use rest ih =>
    obtain ⟨between, hbetween, hfirst⟩ := h.apply use
    obtain ⟨after, hafter, hrest⟩ := ih hbetween
    exact ⟨after, hafter, hfirst.append hrest⟩

end Attended

/-- On any store, whatever is done to it, the subscribers are the observables that are held, and
there is a listener exactly while there are any. On a feed alone, a registered channel is one of a
subscription that is held and has a listener, and there is none once no subscription is held. The
log of every run registers the listener first, and then releases and registers it in turn. -/
theorem listener_lifecycle {α : Type} (values : Entries Value) (uses : List Use)
    (steps : List (FeedStep α)) :
    (let session := ((holding values).used uses).1
     let feed := (session.store 0).feed
     feed.subscribers = session.live ∧ (feed.listening = true ↔ 0 < session.live) ∧
       ∃ count, ((holding values).used uses).2.filter Event.ofListener = turns false count) ∧
    (let last := (FeedSession.start : FeedSession α).run steps
     (∀ id channel, last.feed.channel? id = some channel → channel.registered = true →
       (last.holding id).subscribed = true) ∧
     (0 < last.feed.subscribers → last.feed.listening = true) ∧
     ((∀ id, (last.holding id).subscribed = false) →
       last.feed.listening = false ∧ last.feed.subscribers = 0) ∧
     ∃ count, ((FeedSession.start : FeedSession α).logged steps).filter Event.ofListener =
       turns false count) := by
  constructor
  · obtain ⟨store, hattended, hheard⟩ := (attended_holding values).used uses
    dsimp only
    rw [hattended.store_eq, live_eq]
    refine ⟨hattended.serves.subscribers_eq, ?_, hheard.exists_turns⟩
    rw [hattended.serves.listening, Bool.not_eq_true', List.isEmpty_eq_false_iff,
      List.length_pos_iff]
  · have hdelivers := (FeedSession.delivers_start (α := α)).run steps
    have howned : FeedSession.Owned ((FeedSession.start : FeedSession α).run steps) :=
      FeedSession.Owned.run (absurd · Bool.false_ne_true) FeedSession.delivers_start steps
    refine ⟨fun id channel hchannel hregistered =>
      (hdelivers.fits id channel hchannel).registered hregistered,
      fun hpos => (hdelivers.exists_subscribed hpos).1, fun hnone => ⟨?_, ?_⟩,
      (FeedSession.logged_heard _ steps).exists_turns⟩
    · refine Bool.eq_false_iff.2 fun hlistening => ?_
      obtain ⟨id, hid⟩ := howned hlistening
      exact Bool.false_ne_true ((hnone id).symm.trans hid)
    · refine Nat.eq_zero_of_not_pos fun hpos => ?_
      obtain ⟨-, id, hid⟩ := hdelivers.exists_subscribed hpos
      exact Bool.false_ne_true ((hnone id).symm.trans hid)

end Preferences.Session
