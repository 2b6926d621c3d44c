import Preferences.Proofs.Entries
import Preferences.Store.Adapter

/-! What operations do to the values of a store. A write leaves a value under its key that no reader
tells from the written one, and every operation leaves all keys alone that it does not name. -/

namespace Preferences.Store

open Preferences.Number

/-! ### Values that readers do not tell apart -/

def Value.isNaN : Value → Bool
  | float x => x.isNaN
  | _ => false

/-- Whether two values compare equal, or else are both no number. -/
def Value.agrees (a b : Value) : Bool := a.equals b || (a.isNaN && b.isNaN)

theorem Value.agrees_self (a : Value) : a.agrees a = true := by
  cases a with
  | float x => cases hnan : x.isNaN <;> simp [agrees, equals, isNaN, Binary32.equals, hnan]
  | boolean | integer | long | string => simp [agrees, equals]

theorem Value.kind_eq_of_agrees {a b : Value} (h : a.agrees b = true) : a.kind = b.kind := by
  rw [agrees, Bool.or_eq_true] at h
  rcases h with heq | hnan
  · exact kind_eq_of_equals heq
  · cases a <;> cases b <;> simp_all [isNaN, kind]

/-! ### Operations -/

theorem publish_values (store : Store) (change : Change) :
    (store.publish change).1.values = store.values := rfl

theorem publishGone_values (store : Store) (keys : List String) :
    (publishGone store keys).1.values = store.values := by
  induction keys generalizing store with
  | nil => rfl
  | cons key rest ih => exact ih (store.publish ⟨key, none⟩).1

theorem write_values (store : Store) (key : String) (value : Value) :
    (store.write key value).1.values =
      if (store.values.get? key).any (·.equals value) then store.values
      else store.values.insert key value := by
  unfold write
  split <;> rfl

theorem write_get?_of_ne (store : Store) {key other : String} (value : Value)
    (hne : other ≠ key) :
    (store.write key value).1.values.get? other = store.values.get? other := by
  rw [write_values]
  split
  · rfl
  · rw [Entries.get?_insert, if_neg hne]

/-- After a write the key holds the value, or the one that compared equal to it. -/
theorem write_get?_self (store : Store) (key : String) (value : Value) :
    ∃ stored, (store.write key value).1.values.get? key = some stored ∧
      stored.agrees value = true := by
  rw [write_values]
  split
  · rename_i hequal
    obtain ⟨stored, hstored, hequal⟩ := (Option.any_eq_true _ _).1 hequal
    exact ⟨stored, hstored, by simp [Value.agrees, hequal]⟩
  · exact ⟨value, by rw [Entries.get?_insert, if_pos rfl], value.agrees_self⟩

theorem remove_get? (store : Store) (key other : String) :
    (store.remove key).1.values.get? other =
      if other = key then none else store.values.get? other := by
  unfold remove
  split
  · exact Entries.get?_erase store.values key other
  · rename_i habsent
    rw [Entries.contains, Bool.not_eq_true, Option.isSome_eq_false_iff, Option.isNone_iff_eq_none]
      at habsent
    by_cases heq : other = key
    · simp [heq, habsent]
    · simp [heq]

theorem clear_values (store : Store) : store.clear.1.values = .empty :=
  publishGone_values { store with values := .empty } store.values.keys

/-! ### Adapters -/

/-- An adapter that leaves all keys alone but the one it is handed, whether it reads or writes. -/
structure Adapter.Local (adapter : Adapter α) : Prop where
  observe (permission : Permission) (store : Store) {key other : String} (fallback : α) :
    other ≠ key → (adapter.observe permission store key fallback).2.1.values.get? other =
      store.values.get? other
  get (permission : Permission) (store : Store) {key other : String} (fallback : α) :
    other ≠ key → (adapter.get permission store key fallback).2.1.values.get? other =
      store.values.get? other
  put (permission : Permission) (store : Store) {key other : String} (value : α) :
    other ≠ key → (adapter.put permission store key value).1.values.get? other =
      store.values.get? other

theorem Permission.put_get?_of_ne (permission : Permission) (store : Store) {key other : String}
    (value : Value) (hne : other ≠ key) :
    (permission.put store key value).1.values.get? other = store.values.get? other := by
  cases permission with
  | full => exact write_get?_of_ne store value hne
  | readOnly => rfl

theorem Codec.adapter_local (codec : Codec α) : codec.adapter.Local where
  observe _ _ _ _ _ _ := rfl
  get _ _ _ _ _ _ := rfl
  put permission store _ _ _ hne := permission.put_get?_of_ne store _ hne

end Preferences.Store
