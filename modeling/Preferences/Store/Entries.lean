/-! Entries by key, in the order of their keys. -/

namespace Preferences.Store

/-- A value for each of some keys. -/
structure Entries (α : Type) where
  list : List (String × α)
  sorted : list.Pairwise (·.1 < ·.1) := by simp
  deriving DecidableEq, Repr

namespace Entries

def empty : Entries α := { list := [] }

def size (entries : Entries α) : Nat := entries.list.length

def keys (entries : Entries α) : List String := entries.list.map (·.1)

def get? (entries : Entries α) (key : String) : Option α := entries.list.lookup key

def contains (entries : Entries α) (key : String) : Bool := (entries.get? key).isSome

/-- A sorted list with the entry of `key` added or replaced. -/
def insertSorted (key : String) (value : α) : List (String × α) → List (String × α)
  | [] => [(key, value)]
  | (k, v) :: rest =>
    if key < k then (key, value) :: (k, v) :: rest
    else if key = k then (key, value) :: rest
    else (k, v) :: insertSorted key value rest

theorem fst_mem_insertSorted {key : String} {value : α} {list : List (String × α)}
    {entry : String × α} (h : entry ∈ insertSorted key value list) :
    entry.1 = key ∨ entry ∈ list := by
  induction list with
  | nil => simp_all [insertSorted]
  | cons first rest ih => grind [insertSorted]

theorem lt_of_not_lt_of_ne {a b : String} (h : ¬a < b) (hne : a ≠ b) : b < a :=
  Std.lt_of_le_of_ne (String.not_lt.1 h) (Ne.symm hne)

theorem insertSorted_sorted {key : String} {value : α} {list : List (String × α)}
    (h : list.Pairwise (·.1 < ·.1)) : (insertSorted key value list).Pairwise (·.1 < ·.1) := by
  induction list with
  | nil => simp [insertSorted]
  | cons first rest ih =>
    obtain ⟨k, v⟩ := first
    obtain ⟨below, tail⟩ := List.pairwise_cons.1 h
    unfold insertSorted
    split
    · rename_i hlt
      refine List.pairwise_cons.2 ⟨fun entry hentry => ?_, h⟩
      rcases List.mem_cons.1 hentry with rfl | hentry
      · exact hlt
      · exact String.lt_trans hlt (below entry hentry)
    · split
      · rename_i heq
        exact List.pairwise_cons.2 ⟨fun entry hentry => heq ▸ below entry hentry, tail⟩
      · rename_i hlt hne
        refine List.pairwise_cons.2 ⟨fun entry hentry => ?_, ih tail⟩
        rcases fst_mem_insertSorted hentry with heq | hentry
        · exact heq ▸ lt_of_not_lt_of_ne hlt hne
        · exact below entry hentry

/-- The entries with `value` under `key`. -/
def insert (entries : Entries α) (key : String) (value : α) : Entries α :=
  ⟨insertSorted key value entries.list, insertSorted_sorted entries.sorted⟩

/-- The entries without the one of `key`. -/
def erase (entries : Entries α) (key : String) : Entries α :=
  ⟨entries.list.filter (·.1 ≠ key), entries.sorted.filter _⟩

def ofList (list : List (String × α)) : Entries α :=
  list.foldl (fun entries entry => entries.insert entry.1 entry.2) empty

end Entries

end Preferences.Store
