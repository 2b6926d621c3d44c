import Preferences.Proofs.Parsing

/-! The keys that attributes name. An attribute of a member stands alone, or holds entries
`name = "..."` between commas, and the last of these counts. -/

namespace Preferences.Schema

open Preferences.Source Preferences.Syntax Parser

/-! ### Entries -/

/-- The trees of an entry `name = "..."` whose string is not empty. -/
inductive KeyEntry : TextLiteral → List Tree → Prop
  | mk {lit : TextLiteral} {name : Name} {text : String} {equalsPos pos : Position} {joint : Bool}
      (named : name.text = "name") (spelled : TextLiteral.ofSpelling? text pos = some lit)
      (ne_empty : lit.value ≠ "") :
      KeyEntry lit [.ident name, .punct '=' joint equalsPos, .literal text pos]

/-- The trees of such entries between commas, of which one may end the list. -/
inductive KeyEntries : List TextLiteral → List Tree → Prop
  | nil : KeyEntries [] []
  | last {lit entry} (first : KeyEntry lit entry) : KeyEntries [lit] entry
  | cons {lit entry joint pos lits rest} (first : KeyEntry lit entry)
      (others : KeyEntries lits rest) :
      KeyEntries (lit :: lits) (entry ++ .punct ',' joint pos :: rest)

section Entries

variable {after : Cursor} {trees : List Tree} {stop : Position} {surplus : Option SyntaxError}

theorem isName_segments {start : Position} {leading : Bool} {first : Name} {others : List Name}
    {word : String} :
    Path.isName ⟨if leading then some start else none, (first :: others).map (.mk · .none)⟩ word =
        true ↔ leading = false ∧ others = [] ∧ first.text = word := by
  cases leading <;> cases others <;> simp [Path.isName]

/-- An entry's path is a word alone if that word stands next, and no path goes on behind it. -/
theorem entryPath_eq_ok {path : Path} {word : String} :
    entryPath ⟨trees, stop, surplus⟩ = .ok (path, after) ∧ path.isName word = true ↔
      ∃ name rest, trees = .ident name :: rest ∧ startsSymbol "::".toList rest = false ∧
        name.text = word ∧ path = .ofName name ∧ ⟨rest, stop, surplus⟩ = after := by
  unfold entryPath
  simp only [bind_eq_ok]
  constructor
  · rintro ⟨⟨start, _, hstart, leading, _, hleading, isName, _, hisName, isEnd, _, hisEnd,
      isLiteral, _, hisLiteral, h⟩, hname⟩
    -- All tests are made before the first branch, and none of them moves the cursor.
    obtain ⟨-, rfl⟩ := here_eq_ok.1 hstart
    obtain ⟨-, rfl⟩ := sees_eq_ok.1 hisName
    obtain ⟨-, rfl⟩ := sees_eq_ok.1 hisEnd
    obtain ⟨-, rfl⟩ := sees_eq_ok.1 hisLiteral
    split at h
    · obtain ⟨first, _, hfirst, h⟩ := bind_eq_ok.1 h
      obtain ⟨others, _, hothers, h⟩ := bind_eq_ok.1 h
      obtain ⟨rfl, rfl⟩ := pure_eq_ok.1 h
      obtain ⟨rfl, rfl, rfl⟩ := isName_segments.1 hname
      obtain ⟨-, rfl⟩ := symbol?_eq_false.1 hleading
      obtain ⟨rest, rfl, rfl⟩ := anyName_eq_ok.1 hfirst
      obtain ⟨hnot, rfl⟩ := manyWhile_eq_nil.1 hothers
      exact ⟨first, rest, rfl, hnot, rfl, rfl, rfl⟩
    · split at h
      · obtain ⟨_, _, h, -⟩ := bind_eq_ok.1 h
        exact absurd h failWanting_ne_ok
      · split at h
        all_goals
          obtain ⟨_, _, h, -⟩ := bind_eq_ok.1 h
          exact absurd h fail_ne_ok
  · rintro ⟨name, rest, rfl, hnot, rfl, rfl, rfl⟩
    refine ⟨⟨_, _, here_eq_ok.2 ⟨rfl, rfl⟩, false, _, symbol?_eq_false.2 ⟨rfl, rfl⟩, true, _,
      sees_eq_ok.2 ⟨rfl, rfl⟩, _, _, sees_eq_ok.2 ⟨rfl, rfl⟩, _, _, sees_eq_ok.2 ⟨rfl, rfl⟩, ?_⟩,
      by simp [Path.isName, Path.ofName]⟩
    rw [if_pos rfl]
    refine bind_eq_ok.2 ⟨name, _, anyName_eq_ok.2 ⟨rest, rfl, rfl⟩, ?_⟩
    exact bind_eq_ok.2 ⟨[], _, manyWhile_eq_nil.2 ⟨hnot, rfl⟩, pure_eq_ok.2 ⟨rfl, rfl⟩⟩

theorem nonEmptyString_eq_ok {complaint : String} {lit : TextLiteral} :
    nonEmptyString complaint ⟨trees, stop, surplus⟩ = .ok (lit, after) ↔
      ∃ joint equalsPos text pos rest,
        trees = .punct '=' joint equalsPos :: .literal text pos :: rest ∧
          TextLiteral.ofSpelling? text pos = some lit ∧ lit.value ≠ "" ∧
            ⟨rest, stop, surplus⟩ = after := by
  unfold nonEmptyString entryString
  simp only [bind_eq_ok]
  constructor
  · rintro ⟨found, _, ⟨_, _, hequals, hlit⟩, h⟩
    obtain ⟨joint, equalsPos, _, rfl, rfl⟩ := (symbol_single_eq_ok (c := '=') rfl).1 hequals
    obtain ⟨text, pos, rest, rfl, hspelled, rfl⟩ := stringLiteral_eq_ok.1 hlit
    split at h
    · exact absurd h failAt_ne_ok
    · rename_i hvalue
      obtain ⟨rfl, rfl⟩ := pure_eq_ok.1 h
      exact ⟨joint, equalsPos, text, pos, rest, rfl, hspelled, by simpa using hvalue, rfl⟩
  · rintro ⟨joint, equalsPos, text, pos, rest, rfl, hspelled, hvalue, rfl⟩
    refine ⟨lit, _, ⟨(), _, (symbol_single_eq_ok rfl).2 ⟨joint, equalsPos, _, rfl, rfl⟩,
      stringLiteral_eq_ok.2 ⟨text, pos, rest, rfl, hspelled, rfl⟩⟩, ?_⟩
    rw [if_neg (by simpa using hvalue)]
    exact pure_eq_ok.2 ⟨rfl, rfl⟩

/-- What an attribute reads of each entry. -/
def readKey (path : Path) (_ : Option TextLiteral) : Parser (Option TextLiteral) := do
  if path.isName "name" then some <$> nonEmptyString "preference keys must not be empty"
  else failAtEntry path "expected `name = \"...\"`"

theorem readEntry_eq_ok {state found : Option TextLiteral} :
    (entryPath >>= fun path => readKey path state) ⟨trees, stop, surplus⟩ = .ok (found, after) ↔
      ∃ lit entry rest, trees = entry ++ rest ∧ KeyEntry lit entry ∧ some lit = found ∧
        ⟨rest, stop, surplus⟩ = after := by
  rw [bind_eq_ok]
  constructor
  · rintro ⟨path, _, hpath, h⟩
    unfold readKey at h
    split at h
    · obtain ⟨_, _, rfl, -, hnamed, -, rfl⟩ := entryPath_eq_ok.1 ⟨hpath, ‹_›⟩
      rw [map_eq_pure_bind] at h
      obtain ⟨lit, _, hlit, hpure⟩ := bind_eq_ok.1 h
      obtain ⟨rfl, rfl⟩ := pure_eq_ok.1 hpure
      obtain ⟨_, _, _, _, rest, rfl, hspelled, hvalue, rfl⟩ := nonEmptyString_eq_ok.1 hlit
      exact ⟨lit, _, rest, rfl, .mk hnamed hspelled hvalue, rfl, rfl⟩
    · exact absurd h failAt_ne_ok
  · rintro ⟨lit, _, rest, rfl, ⟨hnamed, hspelled, hvalue⟩, rfl, rfl⟩
    refine ⟨.ofName _, _, (entryPath_eq_ok.2 ⟨_, _, rfl, ?_, hnamed, rfl, rfl⟩).1, ?_⟩
    · simp [startsSymbol]
    unfold readKey
    rw [if_pos (by simp [Path.isName, Path.ofName, hnamed]), map_eq_pure_bind]
    refine bind_eq_ok.2 ⟨lit, ⟨rest, stop, surplus⟩, ?_, pure_eq_ok.2 ⟨rfl, rfl⟩⟩
    exact nonEmptyString_eq_ok.2 ⟨_, _, _, _, rest, rfl, hspelled, hvalue, rfl⟩

/-- One round ends the list, reads the last entry, or reads an entry and a comma. -/
theorem entries_go_succ {bound : Nat} {state found : Option TextLiteral} :
    entries.go readKey (bound + 1) state ⟨trees, stop, surplus⟩ = .ok (found, after) ↔
      (trees = [] ∧ state = found ∧ ⟨trees, stop, surplus⟩ = after) ∨
      ∃ lit entry rest, trees = entry ++ rest ∧ KeyEntry lit entry ∧
        ((rest = [] ∧ some lit = found ∧ ⟨rest, stop, surplus⟩ = after) ∨
          ∃ joint pos others, rest = .punct ',' joint pos :: others ∧
            entries.go readKey bound (some lit) ⟨others, stop, surplus⟩ = .ok (found, after)) := by
  simp only [entries.go, bind_eq_ok, atEnd, sees_eq_ok]
  constructor
  · rintro ⟨isEnd, _, ⟨hisEnd, rfl⟩, h⟩
    split at h
    · exact .inl ⟨List.isEmpty_iff.1 (hisEnd.trans ‹_›), pure_eq_ok.1 h⟩
    · obtain ⟨path, _, hpath, h⟩ := bind_eq_ok.1 h
      obtain ⟨next, _, hnext, h⟩ := bind_eq_ok.1 h
      obtain ⟨lit, entry, rest, rfl, hentry, rfl, rfl⟩ :=
        readEntry_eq_ok.1 (bind_eq_ok.2 ⟨path, _, hpath, hnext⟩)
      refine .inr ⟨lit, entry, rest, rfl, hentry, ?_⟩
      obtain ⟨isEnd, _, hsees, h⟩ := bind_eq_ok.1 h
      obtain ⟨hisEnd, rfl⟩ := sees_eq_ok.1 hsees
      split at h
      · exact .inl ⟨List.isEmpty_iff.1 (hisEnd.trans ‹_›), pure_eq_ok.1 h⟩
      · obtain ⟨_, _, hcomma, h⟩ := bind_eq_ok.1 h
        obtain ⟨joint, pos, others, rfl, rfl⟩ := (symbol_single_eq_ok (c := ',') rfl).1 hcomma
        exact .inr ⟨joint, pos, others, rfl, h⟩
  · rintro (⟨rfl, rfl, rfl⟩ | ⟨lit, entry, rest, rfl, hentry, h⟩)
    · exact ⟨true, _, ⟨rfl, rfl⟩, pure_eq_ok.2 ⟨rfl, rfl⟩⟩
    · obtain ⟨path, _, hpath, hnext⟩ :=
        bind_eq_ok.1 (readEntry_eq_ok.2 ⟨lit, entry, rest, rfl, hentry, rfl, rfl⟩)
      refine ⟨false, _, ⟨?_, rfl⟩, ?_⟩
      · cases hentry
        rfl
      rw [if_neg Bool.false_ne_true]
      refine bind_eq_ok.2 ⟨path, _, hpath, bind_eq_ok.2 ⟨some lit, _, hnext, ?_⟩⟩
      rcases h with ⟨rfl, rfl, rfl⟩ | ⟨joint, pos, others, rfl, h⟩
      · exact bind_eq_ok.2 ⟨true, _, sees_eq_ok.2 ⟨rfl, rfl⟩, pure_eq_ok.2 ⟨rfl, rfl⟩⟩
      · refine bind_eq_ok.2 ⟨false, _, sees_eq_ok.2 ⟨rfl, rfl⟩, bind_eq_ok.2 ⟨(), _, ?_, h⟩⟩
        exact (symbol_single_eq_ok rfl).2 ⟨joint, pos, others, rfl, rfl⟩

theorem getLast?_cons_or {lit : TextLiteral} {lits : List TextLiteral}
    {state : Option TextLiteral} :
    (lit :: lits).getLast?.or state = lits.getLast?.or (some lit) := by
  rw [List.getLast?_cons, Option.some_or, Option.or_some]

/-- By induction on the bound, which counts more rounds than there are trees. -/
theorem entries_go_eq_ok {bound : Nat} {state found : Option TextLiteral}
    (hbound : trees.length < bound) :
    entries.go readKey bound state ⟨trees, stop, surplus⟩ = .ok (found, after) ↔
      ∃ lits, KeyEntries lits trees ∧ lits.getLast?.or state = found ∧
        ⟨[], stop, surplus⟩ = after := by
  induction bound generalizing trees state with
  | zero => exact absurd hbound (Nat.not_lt_zero _)
  | succ bound ih =>
    rw [entries_go_succ]
    constructor
    · rintro (⟨rfl, rfl, rfl⟩ | ⟨lit, entry, rest, rfl, hentry, ⟨rfl, rfl, rfl⟩ |
        ⟨joint, pos, others, rfl, h⟩⟩)
      · exact ⟨[], .nil, rfl, rfl⟩
      · rw [List.append_nil]
        exact ⟨[lit], .last hentry, rfl, rfl⟩
      · have hothers : others.length < bound := by
          rw [List.length_append, List.length_cons] at hbound
          omega
        obtain ⟨lits, hlits, rfl, rfl⟩ := (ih hothers).1 h
        exact ⟨lit :: lits, .cons hentry hlits, getLast?_cons_or, rfl⟩
    · rintro ⟨lits, hlits, rfl, rfl⟩
      cases hlits with
      | nil => exact .inl ⟨rfl, rfl, rfl⟩
      | last hentry => exact .inr ⟨_, _, [], (List.append_nil _).symm, hentry, .inl ⟨rfl, rfl, rfl⟩⟩
      | cons hentry hothers =>
        refine .inr ⟨_, _, _, rfl, hentry, .inr ⟨_, _, _, rfl, (ih ?_).2 ⟨_, hothers, ?_, rfl⟩⟩⟩
        · rw [List.length_append, List.length_cons] at hbound
          omega
        · exact getLast?_cons_or.symm

/-- The key that an attribute may name: none where it stands alone, and else the last of the entries
between its parentheses. -/
inductive NamesKey : Attribute.Content → Option TextLiteral → Prop
  | bare : NamesKey .bare none
  | list {delimiter body closes lits} (entries : KeyEntries lits body) :
      NamesKey (.list delimiter body closes) lits.getLast?

theorem keyName_iff {attr : Attribute} {explicit : Option TextLiteral} :
    keyName attr = .ok explicit ↔ NamesKey attr.content explicit := by
  unfold keyName
  cases attr.content with
  | bare =>
    constructor
    · rintro ⟨⟩
      exact .bare
    · rintro ⟨⟩
      rfl
  | value =>
    constructor
    · nofun
    · nofun
  | list delimiter body closes =>
    show parseAll (entries readKey none) body closes = _ ↔ _
    rw [parseAll_eq_ok]
    constructor
    · rintro ⟨_, h⟩
      obtain ⟨_, _, hrest, h⟩ := bind_eq_ok.1 h
      obtain ⟨rfl, rfl⟩ := rest_eq_ok.1 hrest
      obtain ⟨lits, hlits, rfl, -⟩ := (entries_go_eq_ok (Nat.lt_succ_self _)).1 h
      rw [Option.or_none]
      exact .list hlits
    · rintro ⟨⟩
      rename_i lits hlits
      refine ⟨closes, bind_eq_ok.2 ⟨body, _, rest_eq_ok.2 ⟨rfl, rfl⟩, ?_⟩⟩
      exact (entries_go_eq_ok (Nat.lt_succ_self _)).2 ⟨lits, hlits, Option.or_none, rfl⟩

end Entries

end Preferences.Schema
