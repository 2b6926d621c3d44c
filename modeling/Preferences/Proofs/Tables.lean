import Preferences.Proofs.Lines

/-! Tables of snapshots: from the lines of a document to the entries that it holds. -/

namespace Preferences.Snapshot

open Preferences.Store Preferences.Toml

/-! ### Blocks -/

/-- The only line below the header of an entry. -/
def IsAssignment (v : Value) (line : Assignment) : Prop :=
  line.path = [] ∧ Named v.kind.name line.key ∧ Holds v line.value

/-- The block of an entry, whose header has one key before the last. -/
structure IsBlock (entry : String × Value) (block : Block) : Prop where
  single : block.isElement = false
  path : List.Forall₂ Named ["values"] block.path
  key : Named entry.1 block.key
  lines : List.Forall₂ IsAssignment [entry.2] block.lines

/-- What the lines of a snapshot are: two for each entry, and a blank one between entries. -/
def linesOf : List (String × Value) → List (Line → Prop)
  | [] => []
  | [entry] => [IsHeader ["values"] entry.1, IsEntry entry.2]
  | entry :: next :: rest =>
    IsHeader ["values"] entry.1 :: IsEntry entry.2 :: Eq .blank :: linesOf (next :: rest)

/-- Lines as they should be. -/
def Match (expected : Line → Prop) (line : Line) : Prop := expected line

theorem blocksOf_header {entry : String × Value} {header line : Line} {more : List Line}
    {blocks : List Block} (hheader : IsHeader ["values"] entry.1 header)
    (hline : IsEntry entry.2 line) (hmore : blocksOf more = ([], blocks)) :
    ∃ block, blocksOf (header :: line :: more) = ([], block :: blocks) ∧ IsBlock entry block := by
  obtain ⟨path, key, span, rfl, hpath, hkey⟩ := hheader
  obtain ⟨kind, node, rfl, hkind, hnode⟩ := hline
  refine ⟨⟨false, path, key, span, [⟨[], kind, node⟩]⟩, ?_, rfl, hpath, hkey, ?_⟩
  · rw [blocksOf, blocksOf, hmore]
  · exact .cons ⟨rfl, hkind, hnode⟩ .nil

/-- The lines of a snapshot are one block for each entry. -/
theorem blocksOf_linesOf {entries : List (String × Value)} {lines : List Line}
    (h : List.Forall₂ Match (linesOf entries) lines) :
    ∃ blocks, blocksOf lines = ([], blocks) ∧ List.Forall₂ IsBlock entries blocks := by
  induction entries using linesOf.induct generalizing lines with
  | case1 =>
    obtain rfl := List.forall₂_nil_left_iff.1 h
    exact ⟨[], rfl, .nil⟩
  | case2 entry =>
    obtain ⟨header, _, hheader, hrest, rfl⟩ := List.forall₂_cons_left_iff.1 h
    obtain ⟨line, _, hline, hnil, rfl⟩ := List.forall₂_cons_left_iff.1 hrest
    obtain rfl := List.forall₂_nil_left_iff.1 hnil
    have hmore : blocksOf [] = ([], []) := rfl
    obtain ⟨block, heq, hblock⟩ := blocksOf_header hheader hline hmore
    exact ⟨_, heq, .cons hblock .nil⟩
  | case3 entry next rest ih =>
    obtain ⟨header, _, hheader, hlines, rfl⟩ := List.forall₂_cons_left_iff.1 h
    obtain ⟨line, _, hline, hblanks, rfl⟩ := List.forall₂_cons_left_iff.1 hlines
    obtain ⟨empty, more, hempty, hmore, rfl⟩ := List.forall₂_cons_left_iff.1 hblanks
    obtain rfl : .blank = empty := hempty
    obtain ⟨blocks, hblocks, hall⟩ := ih hmore
    have hmore' : blocksOf (.blank :: more) = ([], blocks) := hblocks
    obtain ⟨block, heq, hblock⟩ := blocksOf_header hheader hline hmore'
    exact ⟨_, heq, .cons hblock hall⟩

/-! ### Tables -/

/-- The table of an entry under its key. -/
def IsItem (entry : String × Value) (item : Key × Node) : Prop :=
  Named entry.1 item.1 ∧ ∃ table key node, item.2 = .table table ∧ table.entries = [(key, node)] ∧
    Named entry.2.kind.name key ∧ Holds entry.2 node

theorem assign_empty (span : Option Span) (key : Key) (node : Node) :
    (Table.empty .headed span).assign ⟨[], key, node⟩ =
      some ((Table.empty .headed span).append key node) := by
  simp [Table.assign, Table.update, Table.empty, Table.get?]

theorem assignAll_single (span : Span) (key : Key) (node : Node) :
    ∃ table, (Table.empty .headed (some span)).assignAll [⟨[], key, node⟩] = some table ∧
      table.entries = [(key, node)] := by
  simp only [Table.assignAll, List.foldlM_cons, List.foldlM_nil, assign_empty, Option.bind_eq_bind,
    Option.bind_some]
  cases node.span? with
  | none => exact ⟨_, rfl, rfl⟩
  | some last => exact ⟨_, rfl, rfl⟩

/-- The block of an entry is one more item of a table that has none of its name. -/
theorem addHeaded_block {entry : String × Value} {block : Block} {table : Table Node}
    (hblock : IsBlock entry block) (hnew : table.get? entry.1 = none) :
    ∃ item, IsItem entry item ∧ table.addHeaded block = some (table.append item.1 item.2) := by
  obtain ⟨⟨path, key, node⟩, _, ⟨rfl, hkind, hnode⟩, hnil, hlines⟩ :=
    List.forall₂_cons_left_iff.1 hblock.lines
  obtain rfl := List.forall₂_nil_left_iff.1 hnil
  obtain ⟨below, hbelow, hentries⟩ := assignAll_single block.span key node
  have hitem : IsItem entry (block.key, .table below) :=
    ⟨hblock.key, below, key, node, rfl, hentries, hkind, hnode⟩
  refine ⟨_, hitem, ?_⟩
  have hname : block.key.name = entry.1 := hblock.key
  simp only [Table.addHeaded, hname, hnew, hlines, hbelow]
  rfl

/-! ### Documents -/

/-- A document with nothing but a table of these entries. -/
def IsRoot (entries : List (String × Value)) (root : Table Node) : Prop :=
  ∃ key below, root.entries = [(key, .table below)] ∧ Named "values" key ∧
    below.form = .implied ∧ List.Forall₂ IsItem entries below.entries

theorem names_eq {entries : List (String × Value)} {items : List (Key × Node)}
    (h : List.Forall₂ IsItem entries items) : items.map (·.1.name) = entries.map (·.1) := by
  induction h with
  | nil => rfl
  | cons hitem _ ih =>
    obtain ⟨hname, -⟩ := hitem
    rw [List.map_cons, List.map_cons, ih, hname]

theorem get?_eq_none {entries : List (String × Value)} {table : Table Node} {name : String}
    (h : List.Forall₂ IsItem entries table.entries) (hnew : name ∉ entries.map (·.1)) :
    table.get? name = none := by
  rw [← names_eq h, List.mem_map] at hnew
  have hfind : table.entries.find? (·.1.name = name) = none := by
    rw [List.find?_eq_none]
    intro item hitem hname
    exact hnew ⟨item, hitem, of_decide_eq_true hname⟩
  rw [Table.get?, hfind]
  rfl

theorem addBlock_first {entry : String × Value} {block : Block} (hblock : IsBlock entry block) :
    ∃ root, (Table.empty .headed none).addBlock block = some root ∧ IsRoot [entry] root := by
  obtain ⟨key, _, hkey, hnil, hpath⟩ := List.forall₂_cons_left_iff.1 hblock.path
  obtain rfl := List.forall₂_nil_left_iff.1 hnil
  have hempty : (Table.empty .implied none : Table Node).get? entry.1 = none := rfl
  obtain ⟨item, hitem, hadd⟩ := addHeaded_block hblock hempty
  refine ⟨(Table.empty .headed none).append key
    (.table ((Table.empty .implied none).append item.1 item.2)), ?_,
    key, _, rfl, hkey, rfl, List.Forall₂.cons hitem .nil⟩
  have hnone : (Table.empty .headed none : Table Node).get? key.name = none := rfl
  rw [Table.addBlock, hpath, hblock.single]
  simp only [Table.update, hnone, Bool.false_eq_true, if_false, hadd]
  rfl

theorem addBlock_next {entries : List (String × Value)} {entry : String × Value} {block : Block}
    {root : Table Node} (hroot : IsRoot entries root) (hblock : IsBlock entry block)
    (hnew : entry.1 ∉ entries.map (·.1)) :
    ∃ root', root.addBlock block = some root' ∧ IsRoot (entries ++ [entry]) root' := by
  obtain ⟨key, _, hkey, hnil, hpath⟩ := List.forall₂_cons_left_iff.1 hblock.path
  obtain rfl := List.forall₂_nil_left_iff.1 hnil
  obtain ⟨values, below, hentries, hvalues, hform, hbelow⟩ := hroot
  obtain ⟨item, hitem, hadd⟩ := addHeaded_block hblock (get?_eq_none hbelow hnew)
  have hname : key.name = values.name := hkey.trans hvalues.symm
  have hfound : root.get? key.name = some (.table below) := by
    simp [Table.get?, hentries, hname]
  have hallows : below.form.allows .implied = true := by
    rw [hform]
    rfl
  refine ⟨root.replace key.name (.table (below.append item.1 item.2)), ?_,
    values, below.append item.1 item.2, ?_, hvalues, hform, ?_⟩
  · rw [Table.addBlock, hpath, hblock.single]
    simp only [Table.update, hfound, hallows, if_true, Bool.false_eq_true, if_false, hadd]
    rfl
  · simp [Table.replace, hentries, hname]
  · exact List.rel_append hbelow (.cons hitem .nil)

/-- Blocks with new keys are added one after the other. -/
theorem addBlocks {entries more : List (String × Value)} {blocks : List Block} {root : Table Node}
    (hroot : IsRoot entries root) (hblocks : List.Forall₂ IsBlock more blocks)
    (hnodup : ((entries ++ more).map (·.1)).Nodup) :
    ∃ root', blocks.foldlM Table.addBlock root = some root' ∧ IsRoot (entries ++ more) root' := by
  induction hblocks generalizing entries root with
  | nil => exact ⟨root, rfl, by rwa [List.append_nil]⟩
  | @cons entry block more blocks hblock _ ih =>
    have hnew : entry.1 ∉ entries.map (·.1) := by
      rw [List.map_append, List.map_cons, List.nodup_append'] at hnodup
      exact fun hmem => hnodup.2.2 hmem List.mem_cons_self
    obtain ⟨next, hnext, hroot'⟩ := addBlock_next hroot hblock hnew
    obtain ⟨final, hfinal, hall⟩ := ih hroot' (by rwa [List.append_assoc])
    refine ⟨final, ?_, by rwa [List.append_assoc] at hall⟩
    rw [List.foldlM_cons, hnext]
    exact hfinal

theorem ofDocument_blocks {entries : List (String × Value)} {blocks : List Block}
    (hne : entries ≠ []) (hblocks : List.Forall₂ IsBlock entries blocks)
    (hnodup : (entries.map (·.1)).Nodup) :
    ∃ root, Table.ofDocument [] blocks = some root ∧ IsRoot entries root := by
  cases hblocks with
  | nil => exact absurd rfl hne
  | @cons entry block entries blocks hblock hmore =>
    obtain ⟨first, hfirst, hroot⟩ := addBlock_first hblock
    obtain ⟨root, hfinal, hall⟩ := addBlocks hroot hmore hnodup
    refine ⟨root, ?_, hall⟩
    show (block :: blocks).foldlM Table.addBlock (Table.empty .headed none) = some root
    rw [List.foldlM_cons, hfirst]
    exact hfinal

/-! ### Entries -/

/-- An entry under the same key with the same value. -/
def SameEntry (entry back : String × Value) : Prop := back.1 = entry.1 ∧ entry.2.Same back.2

theorem entryValue_item {entry : String × Value} {item : Key × Node} (h : IsItem entry item) :
    ∃ back, entryValue item.2 = .ok back ∧ entry.2.Same back := by
  obtain ⟨-, table, key, node, htable, hentries, hkind, back, hsame, hvalue⟩ := h
  refine ⟨back, ?_, hsame⟩
  have hname : Kind.ofName? key.name = some entry.2.kind := by
    rw [hkind, Kind.ofName?_name]
  rw [htable, entryValue, taggedValue, hentries]
  simp only [hname, hvalue]
  rfl

theorem valuesOf_items {entries : List (String × Value)} {table : Table Node}
    (h : List.Forall₂ IsItem entries table.entries) :
    ∃ back, valuesOf (.table table) = .ok back ∧ List.Forall₂ SameEntry entries back := by
  rw [valuesOf]
  generalize table.entries = items at h ⊢
  induction h with
  | nil => exact ⟨[], rfl, .nil⟩
  | @cons entry item entries items hitem _ ih =>
    obtain ⟨value, hvalue, hsame⟩ := entryValue_item hitem
    obtain ⟨back, hback, hall⟩ := ih
    refine ⟨(item.1.name, value) :: back, ?_, .cons ⟨hitem.1, hsame⟩ hall⟩
    rw [List.mapM_cons, hback]
    simp only [hvalue]
    rfl

theorem entriesOf_root {entries : List (String × Value)} {root : Table Node}
    (h : IsRoot entries root) :
    ∃ back, entriesOf root = .ok (.ofList back) ∧ List.Forall₂ SameEntry entries back := by
  obtain ⟨key, below, hroot, hkey, -, hitems⟩ := h
  obtain ⟨back, hback, hall⟩ := valuesOf_items hitems
  refine ⟨back, ?_, hall⟩
  have hname : key.name = "values" := hkey
  simp only [entriesOf, hroot, List.find?_cons, hname, decide_true, hback]

end Preferences.Snapshot
