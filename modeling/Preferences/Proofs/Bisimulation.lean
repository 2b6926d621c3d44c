import Preferences.Proofs.Puts
import Preferences.Proofs.Uniformity

/-! Sessions that nobody tells apart. Their stores are paired, and their handles and streams the
same. Every step has the same answer and the same log in both and leaves such sessions, and so a
whole run has the same answers and logs. -/

namespace Preferences.Session

open Preferences.Sample Preferences.Schema Preferences.Store

/-- The channels of a store that streams are held of, with their keys. -/
def watchedIn (streams : List (Option (Nat × Stream Value))) (number : Nat) : Watch :=
  fun channel key => ∃ stream : Stream Value, some (number, stream) ∈ streams ∧
    stream.source.channel = channel ∧ stream.source.key = key

/-- Two sessions with the same handles and streams, whose stores nobody tells apart. -/
structure Paired (session other : Session) : Prop where
  handles : session.handles = other.handles
  streams : session.streams = other.streams
  length : session.stores.length = other.stores.length
  stores : ∀ number, Store.Paired (watchedIn session.streams number) (session.store number)
    (other.store number)

/-- A step has the same answer and log in two sessions, and leaves sessions that nobody tells
apart. -/
structure PairedResults (result result' : Answer × Session × List Event) : Prop where
  answer : result.1 = result'.1
  paired : Paired result.2.1 result'.2.1
  log : result.2.2 = result'.2.2

theorem store_setStore_eq (session : Session) (number : Nat) (store : Store) (other : Nat) :
    (session.setStore number store).store other =
      if number = other ∧ number < session.stores.length then store else session.store other := by
  rw [Session.store, Session.store, setStore, List.getD_eq_getElem?_getD,
    List.getD_eq_getElem?_getD, List.getElem?_set]
  by_cases heq : number = other
  · subst heq
    by_cases hlt : number < session.stores.length
    · simp [hlt]
    · simp [hlt]
  · simp [heq]

namespace Paired

variable {session other : Session} {number : Nat}

theorem unchanged (h : Paired session other) (answer : Answer) :
    PairedResults (answer, session, []) (answer, other, []) := ⟨rfl, h, rfl⟩

theorem storeOf?_eq (h : Paired session other) (handle : Nat) :
    session.storeOf? handle = other.storeOf? handle := by
  rw [storeOf?, storeOf?, h.handles]

theorem withHandles (h : Paired session other) (handles : List (Option Nat)) :
    Paired { session with handles } { other with handles } :=
  ⟨rfl, h.streams, h.length, h.stores⟩

theorem setStore (h : Paired session other) {store store' : Store}
    (hstore : Store.Paired (watchedIn session.streams number) store store') :
    Paired (session.setStore number store) (other.setStore number store') where
  handles := h.handles
  streams := h.streams
  length := by rw [Session.setStore, Session.setStore, List.length_set, List.length_set, h.length]
  stores place := by
    rw [store_setStore_eq, store_setStore_eq, ← h.length]
    split
    · rename_i hplace
      exact hplace.1 ▸ hstore
    · exact h.stores place

theorem wrote (h : Paired session other) {result result' : Store × List Event}
    (hresult : PairedAfter (watchedIn session.streams number) result result') (answer : Answer) :
    PairedResults (answer, session.setStore number result.1, result.2)
      (answer, other.setStore number result'.1, result'.2) :=
  ⟨rfl, h.setStore hresult.1, hresult.2⟩

/-- A stream is added of a channel that has just been opened. -/
theorem addStream (h : Paired session other) (hnumber : number < session.stores.length)
    {store store' : Store} {stream stream' : Stream Value} (hstream : stream = stream')
    (hstore : Store.Paired ((watchedIn session.streams number).plus stream.source) store store') :
    ((session.setStore number store).addStream number stream).1 =
        ((other.setStore number store').addStream number stream').1 ∧
      Paired ((session.setStore number store).addStream number stream).2
        ((other.setStore number store').addStream number stream').2 := by
  subst hstream
  refine ⟨?_, h.handles, congrArg (· ++ [some (number, stream)]) h.streams, ?_, fun place => ?_⟩
  · show Answer.stream session.streams.length = Answer.stream other.streams.length
    rw [h.streams]
  · show (session.stores.set number store).length = (other.stores.set number store').length
    rw [List.length_set, List.length_set, h.length]
  · have hwatched {channel : Nat} {key : String}
        (hchannel : watchedIn (session.streams ++ [some (number, stream)]) place channel key) :
        watchedIn session.streams place channel key ∨
          (place = number ∧ channel = stream.source.channel ∧ key = stream.source.key) := by
      obtain ⟨held, hmem, rfl, rfl⟩ := hchannel
      rcases List.mem_append.1 hmem with hold | hnew
      · exact .inl ⟨held, hold, rfl, rfl⟩
      · cases List.mem_singleton.1 hnew
        exact .inr ⟨rfl, rfl, rfl⟩
    show Store.Paired (watchedIn (session.streams ++ [some (number, stream)]) place)
      ((session.setStore number store).store place) ((other.setStore number store').store place)
    rw [store_setStore_eq, store_setStore_eq, ← h.length]
    by_cases hplace : number = place
    · subst hplace
      rw [if_pos ⟨rfl, hnumber⟩, if_pos ⟨rfl, hnumber⟩]
      exact hstore.mono fun channel key hchannel => (hwatched hchannel).imp_right And.right
    · rw [if_neg fun hboth => hplace hboth.1, if_neg fun hboth => hplace hboth.1]
      exact (h.stores place).mono fun channel key hchannel =>
        (hwatched hchannel).resolve_right fun hnew => hplace hnew.1.symm

/-- A stream is set to one of a channel that is watched for its key, or to none. -/
theorem setStream (h : Paired session other) (place : Nat)
    {entry : Option (Nat × Stream Value)} (hentry : ∀ number stream,
      entry = some (number, stream) →
        watchedIn session.streams number stream.source.channel stream.source.key) :
    Paired (session.setStream place entry) (other.setStream place entry) where
  handles := h.handles
  streams := congrArg (·.set place entry) h.streams
  length := h.length
  stores number := by
    refine (h.stores number).mono fun channel key hchannel => ?_
    obtain ⟨held, hmem, rfl, rfl⟩ := hchannel
    rcases List.mem_or_eq_of_mem_set hmem with hold | hnew
    · exact ⟨held, hold, rfl, rfl⟩
    · exact hentry number held hnew.symm

/-- A new store is watched by nobody. -/
theorem addStore (h : Paired session other) (store : Store) :
    (session.addStore store).1 = (other.addStore store).1 ∧
      Paired (session.addStore store).2 (other.addStore store).2 := by
  refine ⟨?_, ?_, h.streams, ?_, fun number => ?_⟩
  · show Answer.handle session.handles.length = Answer.handle other.handles.length
    rw [h.handles]
  · show session.handles ++ [some session.stores.length] =
      other.handles ++ [some other.stores.length]
    rw [h.handles, h.length]
  · show (session.stores ++ [store]).length = (other.stores ++ [store]).length
    rw [List.length_append, List.length_append, h.length]
  · have hbefore := h.stores number
    show Store.Paired (watchedIn session.streams number)
      ((session.stores ++ [store]).getD number .empty)
      ((other.stores ++ [store]).getD number .empty)
    simp only [Session.store, List.getD_eq_getElem?_getD] at hbefore ⊢
    rcases Nat.lt_trichotomy number session.stores.length with hlt | heq | hgt
    · rwa [List.getElem?_append_left hlt, List.getElem?_append_left (h.length ▸ hlt)]
    · subst heq
      rw [List.getElem?_concat_length, h.length, List.getElem?_concat_length]
      refine .refl_of_unwatched fun id key hid => ?_
      rw [← h.length] at hid
      obtain ⟨_, _, hchannel, -⟩ := hbefore.waits id key hid
      rw [List.getElem?_eq_none (Nat.le_refl _)] at hchannel
      cases hchannel
    · have hlong (stores : List Store) (hlength : session.stores.length = stores.length) :
          (stores ++ [store])[number]? = stores[number]? := by
        have hpast : (stores ++ [store]).length ≤ number := by
          rw [List.length_append, List.length_singleton]
          omega
        rw [List.getElem?_eq_none hpast, List.getElem?_eq_none (by omega)]
      rwa [hlong _ rfl, hlong _ h.length]

theorem withText (h : Paired session other) (codec : Codec String) (text : String)
    {go go' : String → Answer × Session × List Event}
    (hgo : ∀ usual, PairedResults (go usual) (go' usual)) :
    PairedResults (session.withText codec text go) (other.withText codec text go') := by
  unfold Session.withText
  split
  · exact hgo _
  · exact h.unchanged _

/-- What a method gives has the same answer in both. -/
theorem give (h : Paired session other) (hnumber : number < session.stores.length)
    (awaited : Bool) {result result' : Given Custom × Store × List Event}
    (hresult : PairedGiven (watchedIn session.streams number) result result') :
    ((session.setStore number result.2.1).give number awaited result.1).1 =
        ((other.setStore number result'.2.1).give number awaited result'.1).1 ∧
      Paired ((session.setStore number result.2.1).give number awaited result.1).2
        ((other.setStore number result'.2.1).give number awaited result'.1).2 := by
  obtain ⟨given, store, events⟩ := result
  obtain ⟨given', store', events'⟩ := result'
  obtain ⟨rfl, hstore, -⟩ := hresult
  cases given with
  | stream stream => exact h.addStream hnumber rfl hstore
  | nothing | datum | completion | flag | illTyped => exact ⟨rfl, h.setStore hstore⟩

theorem act (h : Paired session other) (hnumber : number < session.stores.length)
    (handle : Nat) (permission : Permission) (action : Action) :
    PairedResults (session.act handle number permission action)
      (other.act handle number permission action) := by
  have hstore := h.stores number
  cases action with
  | clone =>
    simp only [Session.act, h.handles]
    exact ⟨rfl, h.withHandles _, rfl⟩
  | close =>
    simp only [Session.act, h.handles]
    exact ⟨rfl, h.withHandles _, rfl⟩
  | put key value => exact h.wrote (permission.paired_put hstore key value) _
  | putSync key value awaited =>
    obtain ⟨hresult, hafter⟩ := permission.paired_putSync hstore key value
    exact ⟨congrArg (completed awaited) hresult, h.setStore hafter.1, hafter.2⟩
  | get key fallback =>
    simp only [Session.act, hstore.read_eq key fallback]
    exact ⟨rfl, h, rfl⟩
  | observe key fallback =>
    obtain ⟨hstream, hafter⟩ := hstore.observe_stream key fallback fun value => (value, [])
    obtain ⟨hanswer, hpaired⟩ := h.addStream hnumber hstream hafter.1
    exact ⟨hanswer, hpaired, hafter.2⟩
  | contains key =>
    simp only [Session.act, hstore.values]
    exact h.unchanged _
  | remove key => exact h.wrote (permission.paired_remove hstore key) _
  | clear => exact h.wrote (permission.paired_clear hstore) _
  | adapterGet codec key text =>
    refine h.withText codec text fun usual => ?_
    obtain ⟨hvalue, hafter⟩ := codec.adapter_uniform.get hstore permission key usual
    exact ⟨congrArg (fun value => Answer.value (.string value)) hvalue, h.setStore hafter.1,
      hafter.2⟩
  | adapterPut codec key text =>
    exact h.withText codec text fun usual =>
      h.wrote (codec.adapter_uniform.put hstore permission key usual) _
  | adapterObserve codec key text =>
    refine h.withText codec text fun usual => ?_
    obtain ⟨hstream, hafter⟩ := codec.adapter_uniform.observe hstore permission key usual
    have hshown := congrArg (Stream.map Value.string) hstream
    obtain ⟨hanswer, hpaired⟩ := h.addStream hnumber hshown hafter.1
    exact ⟨hanswer, hpaired, hafter.2⟩
  | stored key =>
    simp only [Session.act, hstore.values]
    exact h.unchanged _
  | dump =>
    simp only [Session.act, hstore.values]
    exact h.unchanged _
  | call declaration method passed awaited =>
    have hinvoked := declaration.invoke_paired permission passed hstore method
    obtain ⟨hanswer, hpaired⟩ := h.give hnumber awaited hinvoked
    exact ⟨hanswer, hpaired, hinvoked.2.2⟩

/-- A stream is polled of a channel that is watched for its key, so the same is found. -/
theorem poll (h : Paired session other) (place count : Nat) :
    PairedResults (session.step (.poll place count)) (other.step (.poll place count)) := by
  unfold Session.step
  dsimp only
  rw [← h.streams]
  cases hheld : session.streams[place]?.join with
  | none => exact h.unchanged _
  | some entry =>
    obtain ⟨number, stream⟩ := entry
    have hwatched : watchedIn session.streams number stream.source.channel stream.source.key :=
      ⟨stream, List.mem_of_getElem? (Option.join_eq_some_iff.1 hheld), rfl, rfl⟩
    obtain ⟨hfound, hnext, hafter⟩ := stream.paired_pollUpTo (h.stores number) hwatched count
    obtain ⟨hchannel, hkey⟩ := stream.pollUpTo_source (session.store number) count
    dsimp only
    rw [← hfound, ← hnext]
    refine ⟨rfl, (h.setStore hafter.1).setStream place fun found next hentry => ?_, hafter.2⟩
    cases hentry
    show watchedIn session.streams number _ _
    rw [hchannel, hkey]
    exact hwatched

/-- Every step has the same answer and the same log. -/
theorem step (h : Paired session other) (hlinked : session.Linked) (step : Step) :
    PairedResults (session.step step) (other.step step) := by
  cases step with
  | new =>
    obtain ⟨hanswer, hpaired⟩ := h.addStore .empty
    exact ⟨hanswer, hpaired, rfl⟩
  | load text =>
    unfold Session.step
    dsimp only
    cases Snapshot.read text with
    | error error => exact h.unchanged _
    | ok values =>
      obtain ⟨hanswer, hpaired⟩ := h.addStore (.ofEntries values)
      exact ⟨hanswer, hpaired, rfl⟩
  | poll place count => exact h.poll place count
  | hint place =>
    unfold Session.step
    dsimp only
    rw [← h.streams]
    cases session.streams[place]?.join <;> exact h.unchanged _
  | drop place =>
    unfold Session.step
    dsimp only
    rw [← h.streams]
    cases session.streams[place]?.join with
    | none => exact h.unchanged _
    | some entry =>
      obtain ⟨number, stream⟩ := entry
      have hafter := (h.stores number).drop stream.source
      exact ⟨rfl, (h.setStore hafter.1).setStream place nofun, hafter.2⟩
  | act handle permission action =>
    unfold Session.step
    dsimp only
    rw [← h.storeOf?_eq]
    cases hhandle : session.storeOf? handle with
    | none => exact h.unchanged _
    | some number =>
      cases action with
      | none => exact h.unchanged _
      | some action => exact h.act (hlinked handle number hhandle) handle permission action
  | unknown => exact h.unchanged _

end Paired

/-- What the steps of a run answer and log. -/
def heard (session : Session) : List Step → List (Answer × List Event)
  | [] => []
  | step :: rest =>
    let result := session.step step
    (result.1, result.2.2) :: result.2.1.heard rest

/-- Nobody tells the sessions apart, whatever steps are done. -/
theorem Paired.heard_eq {session other : Session} (h : Paired session other)
    (hlinked : session.Linked) (steps : List Step) : session.heard steps = other.heard steps := by
  induction steps generalizing session other with
  | nil => rfl
  | cons step rest ih =>
    obtain ⟨hanswer, hpaired, hlog⟩ := h.step hlinked step
    rw [heard, heard, hanswer, hlog, ih hpaired (hlinked.step step)]

/-- What is watched of every session is a channel with one key. -/
theorem reached_paired (steps : List Step) : (reached steps).Paired (reached steps) := by
  have hfrom (session : Session) (h : session.Paired session) (hlinked : session.Linked) :
      let last := steps.foldl (fun session step => (session.step step).2.1) session
      last.Paired last := by
    induction steps generalizing session with
    | nil => exact h
    | cons step rest ih => exact ih _ (h.step hlinked step).paired (hlinked.step step)
  refine hfrom start ⟨rfl, rfl, rfl, fun number => .refl_of_unwatched ?_⟩ linked_start
  rintro id key ⟨stream, hmem, -⟩
  cases hmem

end Preferences.Session
