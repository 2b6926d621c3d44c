import Preferences.Proofs.Tables
import Preferences.Session.Basic

/-! Snapshots that read back. What is written for a store is read as a store with the same keys and
the same values, and is written for that one again. -/

namespace Preferences.Toml.Reader

theorem Reads.lift {o : Option α} {a : α} {rest : List Char} (h : o = some a) :
    Reads (liftM o) [] rest (Eq a) := by
  subst h
  exact fun _ => ⟨a, rfl, rfl⟩

end Preferences.Toml.Reader

namespace Preferences.Snapshot

open Preferences.Number Preferences.Store Preferences.Toml Preferences.Toml.Reader

/-! ### Texts -/

/-- The header of an entry, up to the end of its line. -/
def headerChars (key : String) : List Char :=
  '[' :: ("values".toList ++ '.' :: (keyText key).toList ++ [']'])

theorem toList_entryText (entry : String × Value) :
    (entryText entry).toList =
      headerChars entry.1 ++ ['\n'] ++ (assignmentChars entry.2 ++ ['\n']) := by
  simp [entryText, headerChars, assignmentChars]

theorem reads_headerLine (key : String) (more : List Char) :
    Reads line (headerChars key ++ ['\n']) more (IsHeader ["values"] key) := by
  have hvalues : keyText "values" = "values" := by decide
  have hkey : Reads dottedKey ("values".toList ++ '.' :: (keyText key).toList)
      (']' :: '\n' :: more) fun found =>
      List.Forall₂ Named ["values"] found.1 ∧ Named key found.2 := by
    have h := reads_double "values" key (c := ']') ('\n' :: more) (by decide) rfl rfl
    rwa [hvalues] at h
  exact reads_line_header (by decide) hkey

/-- The text of some entries is read line by line. -/
theorem readsEach_entries (entries : List (String × Value)) :
    ReadsEach line Match [] ("\n".intercalate (entries.map entryText)).toList
      (linesOf entries) := by
  induction entries using linesOf.induct with
  | case1 => exact .nil fails_line_nil
  | case2 entry =>
    rw [List.map_singleton, String.intercalate_singleton, toList_entryText,
      ← List.append_nil (assignmentChars entry.2 ++ ['\n'])]
    exact .cons (by simp) (reads_headerLine entry.1 _)
      (.cons (by simp) (reads_line_assignment entry.2 _) (.nil fails_line_nil))
  | case3 entry next rest ih =>
    rw [List.map_cons, List.map_cons, String.intercalate_cons_cons, ← List.map_cons,
      String.toList_append, String.toList_append, toList_entryText, List.append_assoc,
      List.append_assoc]
    exact .cons (by simp) (reads_headerLine entry.1 _)
      (.cons (by simp) (reads_line_assignment entry.2 _)
        (.cons (by simp) (reads_line_blank _) ih))

/-! ### Documents -/

/-- A text that is read line by line is the document that its lines make. -/
theorem parse?_of_lines {text : String} {expected : List (Line → Prop)}
    {wanted : Table Node → Prop} (hmark : text.toList.head? ≠ some '\ufeff')
    (hlines : ReadsEach line Match [] text.toList expected)
    (hdocument : ∀ lines, List.Forall₂ Match expected lines → ∃ root,
      Table.ofDocument (blocksOf lines).1 (blocksOf lines).2 = some root ∧ wanted root) :
    ∃ root, Toml.parse? text = some root ∧ wanted root := by
  have hread : Reads document text.toList [] wanted := by
    have hnone : Reads (optional (char '\ufeff')) [] (text.toList ++ []) (Eq none) :=
      Fails.optional (Fails.char (by simpa using hmark))
    have hend : Stops Toml.Reader.isBlank [] := fun _ hc => nomatch hc
    unfold document
    refine Reads.next_step hnone ?_
    refine hlines.many.last_step fun lines hmatch => ?_
    obtain ⟨root, hroot, hwanted⟩ := hdocument lines hmatch
    refine (Reads.no_blanks hend).last_step fun _ _ => Reads.atEnd.last_step fun _ _ => ?_
    exact (Reads.lift hroot).imp fun _ heq => heq ▸ hwanted
  obtain ⟨root, heq, hwanted⟩ := hread 0
  refine ⟨root, ?_, hwanted⟩
  rw [List.append_nil] at heq
  rw [Toml.parse?]
  show (document ⟨text.toList, 0⟩).map (·.1) = some root
  rw [heq]
  rfl

/-! ### Entries -/

/-- The same entries, one by one. -/
def Restored (values back : Entries Value) : Prop :=
  List.Forall₂ SameEntry values.list back.list

theorem keys_eq_of_same {entries back : List (String × Value)}
    (h : List.Forall₂ SameEntry entries back) : back.map (·.1) = entries.map (·.1) := by
  induction h with
  | nil => rfl
  | cons hentry _ ih => rw [List.map_cons, List.map_cons, ih, hentry.1]

theorem insertSorted_last {key : String} {value : α} {list : List (String × α)}
    (h : ∀ entry ∈ list, entry.1 < key) :
    Entries.insertSorted key value list = list ++ [(key, value)] := by
  induction list with
  | nil => rfl
  | cons first rest ih =>
    obtain ⟨k, v⟩ := first
    have hlt : k < key := h (k, v) List.mem_cons_self
    have hnot : ¬ key < k := fun hgt => String.lt_irrefl k (String.lt_trans hlt hgt)
    have hne : key ≠ k := by
      rintro rfl
      exact String.lt_irrefl key hlt
    rw [Entries.insertSorted, if_neg hnot, if_neg hne,
      ih fun entry hentry => h entry (List.mem_cons_of_mem _ hentry)]
    rfl

/-- Entries in order of their keys are those of their list. -/
theorem ofList_list {list : List (String × α)} (hsorted : list.Pairwise (·.1 < ·.1)) :
    (Entries.ofList list).list = list := by
  have hfold : ∀ (rest : List (String × α)) (entries : Entries α),
      (entries.list ++ rest).Pairwise (·.1 < ·.1) →
      (rest.foldl (fun entries entry => entries.insert entry.1 entry.2) entries).list =
        entries.list ++ rest := by
    intro rest
    induction rest with
    | nil => simp
    | cons entry rest ih =>
      intro entries hpairwise
      have hlast : (entries.insert entry.1 entry.2).list = entries.list ++ [entry] := by
        refine insertSorted_last fun other hother => ?_
        exact (List.pairwise_append.1 hpairwise).2.2 other hother entry List.mem_cons_self
      rw [List.foldl_cons, ih, hlast, List.append_assoc, List.singleton_append]
      rwa [hlast, List.append_assoc, List.singleton_append]
  exact hfold list .empty hsorted

/-! ### Stores -/

theorem read_of_root {text : String} {root : Table Node} {values : Entries Value}
    (hparse : Toml.parse? text = some root) (hentries : entriesOf root = .ok values) :
    read text = .ok values := by
  rw [read, hparse]
  simp only [hentries]
  rfl

/-- The document of no entries has an empty table of values. -/
theorem entriesOf_empty {lines : List Line} (h : List.Forall₂ Match [IsHeader [] "values"] lines) :
    ∃ root, Table.ofDocument (blocksOf lines).1 (blocksOf lines).2 = some root ∧
      entriesOf root = .ok .empty := by
  obtain ⟨_, _, ⟨path, key, span, rfl, hpath, hkey⟩, hnil, rfl⟩ := List.forall₂_cons_left_iff.1 h
  obtain rfl := List.forall₂_nil_left_iff.1 hpath
  obtain rfl := List.forall₂_nil_left_iff.1 hnil
  refine ⟨(Table.empty .headed none).append key (.table (.empty .headed (some span))), rfl, ?_⟩
  have hname : key.name = "values" := hkey
  simp [entriesOf, Table.append, Table.empty, hname, valuesOf]
  rfl

theorem readsEach_empty : ReadsEach line Match [] "[values]\n".toList [IsHeader [] "values"] := by
  have hvalues : keyText "values" = "values" := by decide
  have hkey : Reads dottedKey "values".toList (']' :: '\n' :: []) fun found =>
      List.Forall₂ Named [] found.1 ∧ Named "values" found.2 := by
    have hnone : ∀ c ∈ ([] : List Char), Toml.Reader.isBlank c = true := fun _ hc => nomatch hc
    have h := reads_single "values" (c := ']') ['\n'] (by decide) hnone rfl
      (stops_cons rfl)
    rw [hvalues, List.append_nil] at h
    exact h.imp fun found hfound => ⟨List.forall₂_nil_left_iff.2 hfound.1, hfound.2⟩
  show ReadsEach line Match [] ('[' :: ("values".toList ++ [']']) ++ ['\n'] ++ [])
    [IsHeader [] "values"]
  exact .cons (List.cons_ne_nil _ _) (reads_line_header (by decide) hkey) (.nil fails_line_nil)

theorem read_write_empty {values : Entries Value} (h : values.list = []) :
    ∃ back, read (write values) = .ok back ∧ Restored values back := by
  have hwrite : write values = "[values]\n" := by simp [write, h]
  obtain ⟨root, hparse, hroot⟩ := parse?_of_lines (by decide) readsEach_empty fun _ hlines =>
    entriesOf_empty hlines
  refine ⟨.empty, hwrite ▸ read_of_root hparse hroot, ?_⟩
  rw [Restored, h]
  exact .nil

theorem head?_entries {entries : List (String × Value)} (h : entries ≠ []) :
    ("\n".intercalate (entries.map entryText)).toList.head? = some '[' := by
  obtain ⟨entry, rest, rfl⟩ := List.exists_cons_of_ne_nil h
  have htext : (entryText entry).toList.head? = some '[' := by
    rw [toList_entryText]
    rfl
  cases rest with
  | nil => simpa using htext
  | cons next rest =>
    rw [List.map_cons, List.map_cons, String.intercalate_cons_cons, String.toList_append,
      String.toList_append, toList_entryText]
    rfl

theorem read_write_entries {values : Entries Value} (h : values.list ≠ []) :
    ∃ back, read (write values) = .ok back ∧ Restored values back := by
  have hwrite : write values = "\n".intercalate (values.list.map entryText) := by
    rw [write, if_neg (by simpa using h)]
  have hnodup : (values.list.map (·.1)).Nodup := values.keys_nodup
  obtain ⟨root, hparse, hroot⟩ : ∃ root, Toml.parse? (write values) = some root ∧
      IsRoot values.list root := by
    refine parse?_of_lines ?_ (hwrite ▸ readsEach_entries values.list) fun lines hmatch => ?_
    · rw [hwrite, head?_entries h]
      decide
    · obtain ⟨blocks, hblocks, hall⟩ := blocksOf_linesOf hmatch
      rw [hblocks]
      exact ofDocument_blocks h hall hnodup
  obtain ⟨back, hback, hsame⟩ := entriesOf_root hroot
  have hsorted : back.Pairwise (·.1 < ·.1) := by
    have hkeys := List.pairwise_map.2 values.sorted
    rw [← keys_eq_of_same hsame] at hkeys
    exact List.pairwise_map.1 hkeys
  refine ⟨.ofList back, read_of_root hparse hback, ?_⟩
  rw [Restored, ofList_list hsorted]
  exact hsame

/-- What is written is read, as the same entries. -/
theorem read_write (values : Entries Value) :
    ∃ back, read (write values) = .ok back ∧ Restored values back := by
  by_cases h : values.list = []
  · exact read_write_empty h
  · exact read_write_entries h

/-! ### Restored entries -/

theorem kind_eq_of_same {v w : Value} (h : v.Same w) : v.kind = w.kind := by
  rcases h with rfl | ⟨hv, hw⟩
  · rfl
  · cases v <;> cases w <;> simp_all [Value.isNaN, Value.kind]

/-- No number is written in one way, so that the same values have the same text. -/
theorem valueText_eq_of_same {v w : Value} (h : v.Same w) : valueText v = valueText w := by
  rcases h with rfl | ⟨hv, hw⟩
  · rfl
  · cases v <;> cases w <;> simp_all [Value.isNaN, valueText, floatText_nan]

theorem entryText_eq_of_same {entry back : String × Value} (h : SameEntry entry back) :
    entryText back = entryText entry := by
  rw [entryText, entryText, h.1, kind_eq_of_same h.2, valueText_eq_of_same h.2]

theorem map_entryText_of_same {entries back : List (String × Value)}
    (h : List.Forall₂ SameEntry entries back) : back.map entryText = entries.map entryText := by
  induction h with
  | nil => rfl
  | cons hentry _ ih => rw [List.map_cons, List.map_cons, ih, entryText_eq_of_same hentry]

theorem lookup_rel_of_same {entries back : List (String × Value)}
    (h : List.Forall₂ SameEntry entries back) (key : String) :
    Option.Rel Value.Same (entries.lookup key) (back.lookup key) := by
  induction h with
  | nil => exact .none
  | @cons entry other entries others hentry _ ih =>
    rw [Entries.lookup_cons key entry.1 entry.2, Entries.lookup_cons key other.1 other.2, hentry.1]
    split
    · exact .some hentry.2
    · exact ih

namespace Restored

variable {values back : Entries Value}

theorem keys_eq (h : Restored values back) : back.keys = values.keys := keys_eq_of_same h

theorem get?_rel (h : Restored values back) (key : String) :
    Option.Rel Value.Same (values.get? key) (back.get? key) := lookup_rel_of_same h key

theorem write_eq (h : Restored values back) : write back = write values := by
  have hmap := map_entryText_of_same h
  have hempty : back.list.isEmpty = values.list.isEmpty := by
    have h := congrArg List.isEmpty hmap
    rwa [List.isEmpty_map, List.isEmpty_map] at h
  rw [write, write, hmap, hempty]

end Restored

end Preferences.Snapshot

namespace Preferences.Session

open Preferences.Store

theorem status?_addStore (session : Session) (store : Store) :
    (session.addStore store).2.status? session.handles.length = some store := by
  simp [status?, storeOf?, addStore, Session.store]

theorem step_dump {session : Session} {handle : Nat} {store : Store} (permission : Permission)
    (hstore : session.status? handle = some store) :
    session.step (.act handle permission (some .dump)) =
      (.value (.string (Snapshot.write store.values)), session, []) := by
  obtain ⟨number, hnumber, rfl⟩ := Option.map_eq_some_iff.1 hstore
  simp only [step, hnumber]
  rfl

/-- A text that reads is loaded into a store of its own. -/
theorem step_load {session : Session} {text : String} {values : Entries Value}
    (hread : Snapshot.read text = .ok values) :
    ∃ after, session.step (.load text) = (.handle session.handles.length, after, []) ∧
      after.status? session.handles.length = some (.ofEntries values) := by
  refine ⟨(session.addStore (.ofEntries values)).2, ?_, status?_addStore session _⟩
  simp only [step, hread]
  rfl

/-- Every store that has a handle is dumped to a text that loads as a store with the same keys, each
with the same value or, for what is no number, with one that is no number; and that store is dumped
to the same text. -/
theorem dump_load (session : Session) {handle : Nat} (permission : Permission) {store : Store}
    (hstore : session.status? handle = some store) :
    ∃ (text : String) (back : Entries Value) (after : Session),
      session.step (.act handle permission (some .dump)) = (.value (.string text), session, []) ∧
      session.step (.load text) = (.handle session.handles.length, after, []) ∧
      after.status? session.handles.length = some (.ofEntries back) ∧
      back.keys = store.values.keys ∧
      (∀ key, Option.Rel Value.Same (store.values.get? key) (back.get? key)) ∧
      after.step (.act session.handles.length permission (some .dump)) =
        (.value (.string text), after, []) := by
  obtain ⟨back, hread, hback⟩ := Snapshot.read_write store.values
  obtain ⟨after, hload, hafter⟩ := step_load hread
  refine ⟨_, back, after, step_dump permission hstore, hload, hafter, hback.keys_eq, hback.get?_rel,
    ?_⟩
  have hdump := step_dump permission hafter
  rwa [show (Store.ofEntries back).values = back from rfl, hback.write_eq] at hdump

/-- A negative zero under the empty key, which comes back with its sign. -/
theorem dump_load_negative_zero :
    let session := (start.step (.act 0 .full (some (.put "" (.float ⟨0x80000000⟩))))).2.1
    ∃ (text : String) (back : Entries Value) (after : Session),
      session.step (.act 0 .full (some .dump)) = (.value (.string text), session, []) ∧
      session.step (.load text) = (.handle 1, after, []) ∧
      back.get? "" = some (.float ⟨0x80000000⟩) ∧
      after.step (.act 1 .full (some .dump)) = (.value (.string text), after, []) := by
  intro session
  have hstore : session.status? 0 =
      some ⟨.insert .empty "" (.float ⟨0x80000000⟩), .empty⟩ := by rfl
  obtain ⟨text, back, after, hdump, hload, -, -, hvalues, hagain⟩ := dump_load session .full hstore
  refine ⟨text, back, after, hdump, hload, ?_, hagain⟩
  have hzero := hvalues ""
  rw [Entries.get?_insert, if_pos rfl] at hzero
  generalize back.get? "" = found at hzero ⊢
  cases hzero with
  | some hsame =>
    rcases hsame with rfl | ⟨hnan, -⟩
    · rfl
    · exact absurd hnan (by decide)

end Preferences.Session
