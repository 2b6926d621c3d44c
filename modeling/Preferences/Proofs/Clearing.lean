import Preferences.Proofs.Bisimulation
import Preferences.Proofs.Listening

/-! Clearing a store, and removing each of its keys. A clearing empties the values and then tells of
all keys in their order. Removals take the keys away and tell of them one by one, in whatever order
they are made. The channels that are told of a key are told of it once in both, so nobody tells the
stores apart. -/

namespace Preferences.Store

variable {store : Store} {keys : List String}

/-- The change that tells that a key is gone. -/
def gone (key : String) : Change := ⟨key, none⟩

/-- A store after the removal of some keys, one after another. -/
def without (store : Store) (keys : List String) : Store :=
  keys.foldl (fun store key => (store.remove key).1) store

/-! ### What is left of a store -/

theorem Entries.eq_empty {entries : Entries α} (h : ∀ key, entries.get? key = none) :
    entries = .empty := by
  obtain ⟨list, hsorted⟩ := entries
  cases list with
  | nil => rfl
  | cons first rest =>
    obtain ⟨key, value⟩ := first
    have hfirst : ((key, value) :: rest).lookup key = none := h key
    rw [lookup_cons, if_pos rfl] at hfirst
    cases hfirst

theorem publishGone_feed (store : Store) (keys : List String) :
    (publishGone store keys).1.feed = store.feed.publishAll (keys.map gone) := by
  induction keys generalizing store with
  | nil => rfl
  | cons key rest ih => exact ih (store.publish (gone key)).1

theorem clear_eq (store : Store) :
    store.clear.1 = ⟨.empty, store.feed.publishAll (store.values.keys.map gone)⟩ := by
  have hfeed : store.clear.1.feed = store.feed.publishAll (store.values.keys.map gone) :=
    publishGone_feed { store with values := .empty } store.values.keys
  rw [← hfeed, ← clear_values store]

theorem remove_of_contains {key : String} (h : store.values.contains key = true) :
    (store.remove key).1 = ⟨store.values.erase key, (store.feed.publish (gone key)).1⟩ := by
  rw [Store.remove, if_pos h]
  rfl

/-- Keys that are held, each removed once, are taken away and told of in turn. -/
theorem without_of_held (hheld : ∀ key ∈ keys, store.values.contains key = true)
    (hnodup : keys.Nodup) :
    (store.without keys).feed = store.feed.publishAll (keys.map gone) ∧
      ∀ key, (store.without keys).values.get? key =
        if key ∈ keys then none else store.values.get? key := by
  induction keys generalizing store with
  | nil => exact ⟨rfl, fun key => (if_neg List.not_mem_nil).symm⟩
  | cons first rest ih =>
    obtain ⟨hnotMem, hrest⟩ := List.nodup_cons.1 hnodup
    have hfirst := remove_of_contains (hheld first List.mem_cons_self)
    have hleft (key : String) (hkey : key ∈ rest) :
        (store.remove first).1.values.contains key = true := by
      have hne : key ≠ first := fun heq => hnotMem (heq ▸ hkey)
      rw [Entries.contains, remove_get?, if_neg hne]
      exact hheld key (List.mem_cons_of_mem first hkey)
    obtain ⟨hfeed, hvalues⟩ := ih hleft hrest
    refine ⟨?_, fun key => ?_⟩
    · rw [hfirst] at hfeed
      exact (congrArg (fun store => (Store.without store rest).feed) hfirst).trans hfeed
    · refine (hvalues key).trans ?_
      rw [remove_get?]
      by_cases hkey : key ∈ rest <;> by_cases heq : key = first <;> simp [hkey, heq]

/-- In whatever order all keys are removed, nothing is left. -/
theorem without_eq (hkeys : keys.Perm store.values.keys) :
    store.without keys = ⟨.empty, store.feed.publishAll (keys.map gone)⟩ := by
  have hnodup : keys.Nodup := hkeys.nodup_iff.2 store.values.keys_nodup
  have hheld (key : String) (hkey : key ∈ keys) : store.values.contains key = true :=
    (store.values.contains_iff key).2 (hkeys.mem_iff.1 hkey)
  obtain ⟨hfeed, hvalues⟩ := without_of_held hheld hnodup
  have hempty : (store.without keys).values = .empty := by
    refine Entries.eq_empty fun key => ?_
    rw [hvalues]
    split
    · rfl
    · rename_i hnotMem
      rw [hkeys.mem_iff, ← Entries.contains_iff] at hnotMem
      exact Option.not_isSome_iff_eq_none.1 hnotMem
  rw [← hfeed, ← hempty]

/-! ### What is told -/

/-- Of a key, channels are told as often as it is among the keys that are gone. -/
theorem filter_gone (keys : List String) (key : String) :
    (keys.map gone).filter (·.key = key) = (List.replicate (keys.count key) key).map gone := by
  rw [List.filter_map, ← List.filter_eq]
  rfl

theorem Paired.clear_without {watched : Watch} (h : Paired watched store store)
    (hkeys : keys.Perm store.values.keys) :
    Paired watched store.clear.1 (store.without keys) := by
  rw [clear_eq, without_eq hkeys]
  have hlength : (store.values.keys.map gone).length = (keys.map gone).length := by
    rw [List.length_map, List.length_map, hkeys.length_eq]
  refine (h.withValues .empty).publishAll hlength fun key => ?_
  rw [filter_gone, filter_gone, hkeys.count_eq]

theorem Feed.registeredIds_outline (feed : Feed α) :
    feed.outline.registeredIds = feed.registeredIds := by
  rw [registeredIds, registeredIds, outline, List.zipIdx_map, List.filter_map, List.map_map]
  rfl

end Preferences.Store

namespace Preferences.Session

open Preferences.Store

/-- The removal of a key through a handle. -/
def removal (entry : Nat × String) : Step := .act entry.1 .full (some (.remove entry.2))

theorem reached_append (steps more : List Step) :
    reached (steps ++ more) =
      more.foldl (fun session step => (session.step step).2.1) (reached steps) :=
  List.foldl_append

section Stores

variable {session : Session} {handle number : Nat}

theorem step_clear (hhandle : session.storeOf? handle = some number) :
    (session.step (.act handle .full (some .clear))).2.1 =
      session.setStore number (session.store number).clear.1 := by
  simp [Session.step, hhandle, Session.act, Permission.clear]

theorem step_removal {entry : Nat × String} (hhandle : session.storeOf? entry.1 = some number) :
    (session.step (removal entry)).2.1 =
      session.setStore number ((session.store number).remove entry.2).1 := by
  simp [removal, Session.step, hhandle, Session.act, Permission.remove]

/-- Removals through handles of a store do it to the store. -/
theorem foldl_removals (hnumber : number < session.stores.length)
    {removals : List (Nat × String)}
    (hhandles : ∀ entry ∈ removals, session.storeOf? entry.1 = some number) :
    (removals.map removal).foldl (fun session step => (session.step step).2.1) session =
      session.setStore number ((session.store number).without (removals.map (·.2))) := by
  induction removals generalizing session with
  | nil => exact (setStore_store session number).symm
  | cons entry rest ih =>
    have hstep := step_removal (hhandles entry List.mem_cons_self)
    have hlength : number < (session.step (removal entry)).2.1.stores.length := by
      rw [hstep, setStore, List.length_set]
      exact hnumber
    have hothers (other : Nat × String) (hother : other ∈ rest) :
        (session.step (removal entry)).2.1.storeOf? other.1 = some number := by
      rw [hstep]
      exact hhandles other (List.mem_cons_of_mem entry hother)
    refine (ih hlength hothers).trans ?_
    rw [hstep, store_setStore hnumber, setStore, setStore, List.set_set]
    rfl

end Stores

/-- In every session, clearing a store through a handle and removing all of its keys through any of
its handles, in whatever order, leave it with no values and the same subscribers, and leave the same
handles and streams. Nobody tells the two apart: whatever steps follow have the same answers, items
of observables among them, and the same logs. -/
theorem clear_eq_removals (steps : List Step) {handle number : Nat}
    (hhandle : (reached steps).storeOf? handle = some number) {removals : List (Nat × String)}
    (hhandles : ∀ entry ∈ removals, (reached steps).storeOf? entry.1 = some number)
    (hkeys : (removals.map (·.2)).Perm ((reached steps).store number).values.keys) :
    let cleared := reached (steps ++ [.act handle .full (some .clear)])
    let removed := reached (steps ++ removals.map removal)
    (cleared.store number).values = .empty ∧ (removed.store number).values = .empty ∧
      (cleared.store number).feed.outline = (removed.store number).feed.outline ∧
      (cleared.store number).feed.registeredIds = (removed.store number).feed.registeredIds ∧
      cleared.handles = removed.handles ∧ cleared.streams = removed.streams ∧
      (∀ other, other ≠ number → cleared.store other = removed.store other) ∧
      ∀ rest, cleared.heard rest = removed.heard rest := by
  intro cleared removed
  have hlinked := reached_linked steps
  have hnumber := hlinked handle number hhandle
  have hcleared : cleared =
      (reached steps).setStore number ((reached steps).store number).clear.1 :=
    (reached_append steps _).trans (step_clear hhandle)
  have hremoved : removed = (reached steps).setStore number
      (((reached steps).store number).without (removals.map (·.2))) :=
    (reached_append steps _).trans (foldl_removals hnumber hhandles)
  have hpaired : cleared.Paired removed := by
    have hself := reached_paired steps
    rw [hcleared, hremoved]
    exact hself.setStore ((hself.stores number).clear_without hkeys)
  have hvalues : (cleared.store number).values = .empty := by
    rw [hcleared, store_setStore hnumber, clear_values]
  have hstores := hpaired.stores number
  refine ⟨hvalues, hstores.values.symm.trans hvalues, hstores.outline, ?_, hpaired.handles,
    hpaired.streams, fun other hne => ?_, fun rest => ?_⟩
  · rw [← Feed.registeredIds_outline, hstores.outline, Feed.registeredIds_outline]
  · rw [hcleared, hremoved, store_setStore_eq, store_setStore_eq]
    rw [if_neg fun hboth => hne hboth.1.symm, if_neg fun hboth => hne hboth.1.symm]
  · exact hpaired.heard_eq (reached_linked _) rest

/-! ### Two keys -/

/-- A store with two keys and two handles. One observable has shown a value and has one that waits,
and the other has shown nothing yet. -/
def twoKeySteps : List Step :=
  [.act 0 .full (some .clone), .act 0 .full (some (.put "a" (.integer 1))),
    .act 0 .full (some (.put "b" (.string "x"))), .act 0 .full (some (.observe "a" (.integer 0))),
    .poll 0 1, .act 0 .full (some (.observe "b" (.string ""))),
    .act 1 .full (some (.put "a" (.integer 2)))]

/-- Both keys are removed, the last one first, through one handle each. -/
def twoRemovals : List (Nat × String) := [(1, "b"), (0, "a")]

/-- Either way both observables show that their keys are gone. -/
theorem clear_eq_removals_two_keys :
    let cleared := reached (twoKeySteps ++ [.act 0 .full (some .clear)])
    let removed := reached (twoKeySteps ++ twoRemovals.map removal)
    (reached twoKeySteps).storeOf? 0 = some 0 ∧
      (∀ entry ∈ twoRemovals, (reached twoKeySteps).storeOf? entry.1 = some 0) ∧
      (twoRemovals.map (·.2)).Perm ((reached twoKeySteps).store 0).values.keys ∧
      (∀ rest, cleared.heard rest = removed.heard rest) ∧
      cleared.heard [.poll 0 9, .poll 1 9] =
        [(.polled [.item (.integer 2), .item (.integer 0), .pending], []),
          (.polled [.item (.string "x"), .item (.string ""), .pending], [])] := by
  have hhandle : (reached twoKeySteps).storeOf? 0 = some 0 := rfl
  have hhandles : ∀ entry ∈ twoRemovals, (reached twoKeySteps).storeOf? entry.1 = some 0 := by
    decide +kernel
  have hkeys : (twoRemovals.map (·.2)).Perm ((reached twoKeySteps).store 0).values.keys := by
    decide +kernel
  obtain ⟨-, -, -, -, -, -, -, hheard⟩ := clear_eq_removals twoKeySteps hhandle hhandles hkeys
  exact ⟨hhandle, hhandles, hkeys, hheard, rfl⟩

end Preferences.Session
