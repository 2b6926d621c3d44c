import Mathlib.Data.List.Nodup
import Preferences.Store.Entries

/-! Laws of entries: insertion and erasure change what one key holds and nothing else, and every key
is listed once. -/

namespace Preferences.Store.Entries

theorem lookup_cons (key k : String) (v : α) (rest : List (String × α)) :
    ((k, v) :: rest).lookup key = if key = k then some v else rest.lookup key := by
  rw [List.lookup_cons]
  by_cases heq : key = k
  · simp [heq]
  · simp [heq, beq_false_of_ne heq]

theorem get?_empty (key : String) : (empty : Entries α).get? key = none := rfl

theorem lookup_insertSorted (key other : String) (value : α) (list : List (String × α)) :
    (insertSorted key value list).lookup other =
      if other = key then some value else list.lookup other := by
  induction list with
  | nil => rw [insertSorted, lookup_cons]
  | cons first rest ih =>
    obtain ⟨k, v⟩ := first
    unfold insertSorted
    split
    · rw [lookup_cons]
    · split
      · rename_i hsame
        subst hsame
        rw [lookup_cons, lookup_cons]
        by_cases heq : other = key <;> simp [heq]
      · rename_i hne
        rw [lookup_cons, lookup_cons, ih]
        by_cases heq : other = k
        · simp [heq, Ne.symm hne]
        · simp [heq]

theorem get?_insert (entries : Entries α) (key other : String) (value : α) :
    (entries.insert key value).get? other =
      if other = key then some value else entries.get? other :=
  lookup_insertSorted key other value entries.list

theorem insertSorted_of_lookup {key : String} {value : α} {list : List (String × α)}
    (hsorted : list.Pairwise (·.1 < ·.1)) (h : list.lookup key = some value) :
    insertSorted key value list = list := by
  induction list with
  | nil => cases h
  | cons first rest ih =>
    obtain ⟨k, v⟩ := first
    obtain ⟨hbelow, hrest⟩ := List.pairwise_cons.1 hsorted
    rw [lookup_cons] at h
    unfold insertSorted
    split at h
    · rename_i hsame
      cases h
      rw [if_neg (hsame ▸ String.lt_irrefl key), if_pos hsame, hsame]
    · rename_i hne
      obtain ⟨front, back, hlist, -⟩ := List.lookup_eq_some_iff.1 h
      have hlt : k < key := hbelow (key, value) (by simp [hlist])
      rw [if_neg (String.lt_asymm hlt), if_neg hne, ih hrest h]

/-- What a key holds may be inserted again. -/
theorem insert_of_get? {entries : Entries α} {key : String} {value : α}
    (h : entries.get? key = some value) : entries.insert key value = entries := by
  obtain ⟨list, hsorted⟩ := entries
  have hlist := insertSorted_of_lookup hsorted h
  simp only [insert, hlist]

theorem lookup_filter_ne (key other : String) (list : List (String × α)) :
    (list.filter (·.1 ≠ key)).lookup other = if other = key then none else list.lookup other := by
  induction list with
  | nil => simp
  | cons first rest ih =>
    obtain ⟨k, v⟩ := first
    by_cases hkey : k = key
    · subst hkey
      rw [List.filter_cons_of_neg (by simp), ih, lookup_cons]
      by_cases heq : other = k <;> simp [heq]
    · rw [List.filter_cons_of_pos (by simpa using hkey), lookup_cons, lookup_cons, ih]
      by_cases heq : other = k
      · simp [heq, hkey]
      · simp [heq]

theorem get?_erase (entries : Entries α) (key other : String) :
    (entries.erase key).get? other = if other = key then none else entries.get? other :=
  lookup_filter_ne key other entries.list

theorem contains_iff (entries : Entries α) (key : String) :
    entries.contains key = true ↔ key ∈ entries.keys := by
  rw [contains, get?, List.lookup_isSome_iff, keys, List.mem_map]
  simp only [beq_iff_eq, @eq_comm _ key]

theorem keys_nodup (entries : Entries α) : entries.keys.Nodup := by
  refine List.pairwise_map.2 (entries.sorted.imp fun hlt heq => ?_)
  rw [heq] at hlt
  exact String.lt_irrefl _ hlt

end Preferences.Store.Entries
