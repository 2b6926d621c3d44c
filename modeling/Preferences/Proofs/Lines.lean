import Preferences.Proofs.Scalars

/-! Lines of snapshots: headers of tables, and values below them. -/

namespace Preferences.Snapshot

open Preferences.Store Preferences.Toml Preferences.Toml.Reader

/-! ### Keys -/

/-- A key of this name, wherever it stands. -/
def Named (name : String) (key : Key) : Prop := key.name = name

theorem isPlainChar_of_no_control {cs : List Char}
    (h : (cs.any fun c => isControl c || c = '\n') = false) {c : Char} (hc : c ∈ cs) :
    isPlainChar c = true := by
  rw [List.any_eq_false] at h
  have hplain := h c hc
  rw [Bool.or_eq_true, not_or, decide_eq_true_eq] at hplain
  exact isPlainChar_of_not_control (by simpa using hplain.1) hplain.2

theorem reads_bareKey {cs rest : List Char} (hcs : isBareKey cs = true)
    (hstop : Stops isBareChar rest) : Reads bareKey cs rest (Eq (String.ofList cs)) := by
  cases cs with
  | nil => exact absurd hcs (by decide)
  | cons c cs =>
    have hall : ∀ d ∈ c :: cs, isBareChar d = true := by
      rw [isBareKey, Bool.and_eq_true, List.all_eq_true] at hcs
      exact hcs.2
    have htail : Reads (takeWhile isBareChar) cs rest (Eq cs) :=
      Reads.takeWhile (fun d hd => hall d (List.mem_cons_of_mem c hd)) hstop
    refine (Reads.next (hall c List.mem_cons_self)).next_step (htail.last_step ?_)
    rintro _ rfl
    exact .pure rfl

theorem ne_quote_of_isBareChar {c : Char} (h : isBareChar c = true) : c ≠ '"' ∧ c ≠ '\'' := by
  constructor <;> rintro rfl <;> exact absurd h (by decide)

theorem fails_lineString {quote c : Char} {content : Reader Char} (hne : c ≠ quote)
    (rest : List Char) : Fails (Toml.lineString quote content) (c :: rest) :=
  Fails.bind_left (Fails.char (by simpa using hne))

/-- A key is read as itself, in whichever notation it is written. -/
theorem reads_keyText (key : String) {rest : List Char} (hstop : Stops isBareChar rest) :
    Reads (Toml.lineString '"' escapedChar <|> Toml.lineString '\'' literalChar <|> bareKey)
      (keyText key).toList rest (Eq key) := by
  obtain ⟨cs, rfl⟩ : ∃ cs, key = String.ofList cs := ⟨key.toList, by simp⟩
  unfold keyText
  simp only [String.toList_ofList]
  split_ifs with hbare hline hliteral
  · have hread := reads_bareKey hbare hstop
    rw [String.toList_ofList]
    cases cs with
    | nil => exact absurd hbare (by decide)
    | cons c cs =>
      have hc : isBareChar c = true := by
        rw [isBareKey, Bool.and_eq_true, List.all_eq_true] at hbare
        exact hbare.2 c List.mem_cons_self
      obtain ⟨hdouble, hsingle⟩ := ne_quote_of_isBareChar hc
      exact Reads.orElse_right (fails_lineString hdouble _)
        (Reads.orElse_right (fails_lineString hsingle _) hread)
  · exact Reads.orElse_left (reads_lineString cs rest)
  · simp only [Bool.not_eq_true', Bool.or_eq_false_iff] at hliteral
    have hread : Reads (Toml.lineString '\'' literalChar) (literalString cs).toList rest
        (Eq (String.ofList cs)) := by
      refine reads_literalString (fun c hc => ⟨isPlainChar_of_no_control hliteral.2 hc, ?_⟩) rest
      rintro rfl
      simp [hc] at hliteral
    rw [toList_literalString] at hread ⊢
    exact Reads.orElse_right (fails_lineString (by decide) _) (Reads.orElse_left hread)
  · exact Reads.orElse_left (reads_lineString cs rest)

/-- No key begins with a blank or with a bracket. -/
theorem exists_cons_keyText (key : String) :
    ∃ c tail, (keyText key).toList = c :: tail ∧ Toml.Reader.isBlank c = false ∧ c ≠ '[' := by
  unfold keyText
  simp only
  split_ifs with hbare hline hliteral
  · cases hcs : key.toList with
    | nil =>
      rw [hcs] at hbare
      exact absurd hbare (by decide)
    | cons c cs =>
      rw [hcs, isBareKey, Bool.and_eq_true, List.all_eq_true] at hbare
      have hc : isBareChar c = true := hbare.2 c List.mem_cons_self
      refine ⟨c, cs, rfl, ?_, ?_⟩
      · cases hblank : Toml.Reader.isBlank c with
        | false => rfl
        | true =>
          simp only [Toml.Reader.isBlank, Bool.or_eq_true, decide_eq_true_eq] at hblank
          rcases hblank with rfl | rfl <;> exact absurd hc (by decide)
      · rintro rfl
        exact absurd hc (by decide)
  · exact ⟨'"', _, toList_lineString _, by decide, by decide⟩
  · exact ⟨'\'', _, toList_literalString _, by decide, by decide⟩
  · exact ⟨'"', _, toList_lineString _, by decide, by decide⟩

/-- A key is read with the blanks behind it. -/
theorem reads_keyPart (key : String) {pad : List Char} (rest : List Char)
    (hpad : ∀ c ∈ pad, Toml.Reader.isBlank c = true) (hblank : Stops Toml.Reader.isBlank rest)
    (hbare : Stops isBareChar (pad ++ rest)) :
    Reads keyPart ((keyText key).toList ++ pad) rest (Named key) := by
  have hfirst : Stops Toml.Reader.isBlank ((keyText key).toList ++ pad ++ rest) := by
    obtain ⟨c, tail, heq, hc, -⟩ := exists_cons_keyText key
    rw [heq]
    exact stops_cons hc
  show Reads _ ([] ++ ((keyText key).toList ++ pad)) rest _
  refine (Reads.no_blanks hfirst).next_step ((reads_keyText key hbare).spanned.bind ?_)
  rintro ⟨span, name⟩ rfl
  exact (Reads.blanks hpad hblank).last_step fun _ _ => .pure rfl

/-! ### Dotted keys -/

theorem forall₂_concat {α β : Type} {R : α → β → Prop} {as : List α} {a : α} {bs : List β}
    (h : List.Forall₂ R (as ++ [a]) bs) :
    ∃ init last, bs = init ++ [last] ∧ List.Forall₂ R as init ∧ R a last := by
  induction as generalizing bs with
  | nil =>
    obtain ⟨b, tail, hb, htail, rfl⟩ := List.forall₂_cons_left_iff.1 h
    obtain rfl := List.forall₂_nil_left_iff.1 htail
    exact ⟨[], b, rfl, .nil, hb⟩
  | cons first as ih =>
    obtain ⟨b, tail, hb, htail, rfl⟩ := List.forall₂_cons_left_iff.1 h
    obtain ⟨init, last, rfl, hinit, hlast⟩ := ih htail
    exact ⟨b :: init, last, rfl, .cons hb hinit, hlast⟩

/-- The parts of a key, of which the last one stands apart. -/
theorem reads_dottedKey {names : List String} {last : String} {text rest : List Char}
    (hlength : names.length < nestingLimit)
    (hparts : Reads (separated keyPart '.') text rest (List.Forall₂ Named (names ++ [last]))) :
    Reads dottedKey text rest fun found =>
      List.Forall₂ Named names found.1 ∧ Named last found.2 := by
  refine hparts.last_step fun parts hparts => ?_
  obtain ⟨path, key, rfl, hpath, hkey⟩ := forall₂_concat hparts
  have hle : (path ++ [key]).length ≤ nestingLimit := by
    rw [List.length_append, ← hpath.length_eq]
    exact hlength
  simp only [List.getLast?_append, List.getLast?_singleton, Option.some_or, hle, if_true,
    List.dropLast_concat]
  exact .pure ⟨hpath, hkey⟩

theorem fails_dot {c : Char} (hc : c ≠ '.') (p : Reader α) (rest : List Char) :
    Fails (do char '.'; p) (c :: rest) :=
  Fails.bind_left (Fails.char (by simpa using hc))

/-- A key of one part. -/
theorem reads_single (name : String) {pad : List Char} {c : Char} (rest : List Char) (hc : c ≠ '.')
    (hpad : ∀ c ∈ pad, Toml.Reader.isBlank c = true) (hblank : Toml.Reader.isBlank c = false)
    (hbare : Stops isBareChar (pad ++ c :: rest)) :
    Reads dottedKey ((keyText name).toList ++ pad) (c :: rest)
      fun found => found.1 = [] ∧ Named name found.2 := by
  have hparts : Reads (separated keyPart '.') ((keyText name).toList ++ pad ++ []) (c :: rest)
      (List.Forall₂ Named ([] ++ [name])) :=
    Reads.separated (reads_keyPart name _ hpad (stops_cons hblank) hbare)
      (.nil (fails_dot hc keyPart rest))
  rw [List.append_nil] at hparts
  refine (reads_dottedKey (by decide) hparts).imp ?_
  rintro found ⟨hpath, hlast⟩
  exact ⟨List.forall₂_nil_left_iff.1 hpath, hlast⟩

/-- A key of two parts, with no blanks. -/
theorem reads_double (name last : String) {c : Char} (rest : List Char) (hc : c ≠ '.')
    (hblank : Toml.Reader.isBlank c = false) (hbare : isBareChar c = false) :
    Reads dottedKey ((keyText name).toList ++ '.' :: (keyText last).toList) (c :: rest)
      fun found => List.Forall₂ Named [name] found.1 ∧ Named last found.2 := by
  have hnone : ∀ d ∈ ([] : List Char), Toml.Reader.isBlank d = true := fun _ hd => nomatch hd
  have hfirst := reads_keyPart name ('.' :: ((keyText last).toList ++ c :: rest)) hnone
    (stops_cons rfl) (stops_cons rfl)
  have hlast := reads_keyPart last (c :: rest) hnone (stops_cons hblank) (stops_cons hbare)
  rw [List.append_nil] at hfirst hlast
  have hmore : ReadsEach (do char '.'; keyPart) Named (c :: rest)
      ('.' :: (keyText last).toList ++ []) [last] :=
    .cons (List.cons_ne_nil _ _) ((Reads.char '.').next_step hlast)
      (.nil (fails_dot hc keyPart rest))
  rw [List.append_nil] at hmore
  have hlength : [name].length < nestingLimit := by simp [nestingLimit]
  exact reads_dottedKey hlength (Reads.separated hfirst hmore)

/-! ### Headers -/

/-- The header of a table whose key has parts of these names. -/
def IsHeader (names : List String) (last : String) (line : Line) : Prop :=
  ∃ path key span, line = .header false path key span ∧ List.Forall₂ Named names path ∧
    Named last key

theorem reads_header {names : List String} {last : String} {c : Char} {tail rest : List Char}
    (hc : c ≠ '[')
    (hkey : Reads dottedKey (c :: tail) (']' :: rest) fun found =>
      List.Forall₂ Named names found.1 ∧ Named last found.2) :
    Reads header ('[' :: (c :: tail ++ [']'])) rest (IsHeader names last) := by
  have hseen : ['[', '['].isPrefixOf ('[' :: (c :: tail ++ [']']) ++ rest) = false := by
    simp [List.isPrefixOf, Ne.symm hc]
  have hsees : Reads (sees ['[', '[']) [] ('[' :: (c :: tail ++ [']']) ++ rest) (Eq false) :=
    Reads.sees hseen
  have hopen : Reads (exactly (· = '[') 1) ['['] (c :: tail ++ [']'] ++ rest) (Eq ['[']) :=
    Reads.exactly (by simp) rfl
  have hclose : Reads (exactly (· = ']') 1) [']'] rest (Eq [']']) := Reads.exactly (by simp) rfl
  refine (Reads.spanned (?_ : Reads _ ('[' :: (c :: tail ++ [']'])) rest
    fun found : Bool × List Key × Key =>
      found.1 = false ∧ List.Forall₂ Named names found.2.1 ∧ Named last found.2.2)).last_step ?_
  · exact hsees.next_step (hopen.next_step (hkey.bind fun found hnames =>
      hclose.last_step fun _ _ => .pure ⟨rfl, hnames⟩))
  · rintro ⟨span, isElement, path, key⟩ ⟨rfl, hpath, hlast⟩
    exact .pure ⟨path, key, span, rfl, hpath, hlast⟩

/-! ### Entries -/

theorem reads_value (v : Value) (depth : Nat) {more : List Char} :
    Reads (value depth) (valueText v).toList ('\n' :: more) (Holds v) := by
  -- The depth is only about values that hold others.
  cases depth
  all_goals
    refine (Reads.orElse_left (reads_scalar v more)).spanned.last_step ?_
    exact fun found hmake => .pure (hmake found.1)

/-- The kind of a value and the value. -/
def IsEntry (v : Value) (line : Line) : Prop :=
  ∃ key node, line = .assignment ⟨[], key, node⟩ ∧ Named v.kind.name key ∧ Holds v node

theorem keyText_kind (kind : Kind) : keyText kind.name = kind.name := by
  cases kind <;> decide

/-- No value begins with a blank, since nothing is read from there. -/
theorem stops_valueText (v : Value) (more : List Char) :
    Stops Toml.Reader.isBlank ((valueText v).toList ++ '\n' :: more) := by
  intro c hc
  obtain ⟨make, hread, -⟩ := reads_scalar v more 0
  cases htext : (valueText v).toList ++ '\n' :: more with
  | nil => simp [htext] at hc
  | cons d rest =>
    rw [htext] at hc hread
    obtain rfl : d = c := by simpa using hc
    cases hblank : Toml.Reader.isBlank d with
    | false => rfl
    | true =>
      simp only [Toml.Reader.isBlank, Bool.or_eq_true, decide_eq_true_eq] at hblank
      rcases hblank with rfl | rfl <;> exact nomatch hread

/-- The text of an assignment, up to the end of its line. -/
def assignmentChars (v : Value) : List Char :=
  v.kind.name.toList ++ [' '] ++ (['='] ++ ([' '] ++ (valueText v).toList))

theorem reads_assignment (v : Value) {more : List Char} :
    Reads (do return .assignment (← assignment (value nestingLimit))) (assignmentChars v)
      ('\n' :: more) (IsEntry v) := by
  have hpad : ∀ c ∈ [' '], Toml.Reader.isBlank c = true := by simp [Toml.Reader.isBlank]
  have hkey := reads_single v.kind.name (c := '=') ([' '] ++ (valueText v).toList ++ '\n' :: more)
    (by decide) hpad rfl (stops_cons rfl)
  have hblank := Reads.blanks hpad (stops_valueText v more)
  rw [keyText_kind] at hkey
  have hassign : Reads (assignment (value nestingLimit)) (assignmentChars v) ('\n' :: more)
      fun found => found.path = [] ∧ Named v.kind.name found.key ∧ Holds v found.value := by
    unfold assignment assignmentChars
    refine hkey.bind ?_
    rintro ⟨path, key⟩ ⟨hpath, hname⟩
    refine (Reads.char '=').next_step (hblank.next_step ((reads_value v nestingLimit).last_step ?_))
    exact fun node hnode => .pure ⟨hpath, hname, hnode⟩
  refine hassign.last_step ?_
  rintro ⟨path, key, node⟩ ⟨rfl, hname, hnode⟩
  exact .pure ⟨key, node, rfl, hname, hnode⟩

/-! ### Lines -/

theorem reads_line_blank (more : List Char) : Reads line ['\n'] more (Eq .blank) := by
  show Reads _ ([] ++ ['\n']) more _
  exact (Reads.no_blanks (stops_cons rfl)).next_step
    (Reads.orElse_left (Reads.newline.last_step fun _ _ => .pure rfl))

/-- A header or an assignment, with the end of its line. -/
theorem reads_line {text more : List Char} {found : Line → Prop} {c : Char} {tail : List Char}
    (htext : text = c :: tail) (hblank : Toml.Reader.isBlank c = false) (hline : c ≠ '\n')
    (hreturn : c ≠ '\r') (hcomment : c ≠ '#')
    (hread : Reads (header <|> do return .assignment (← assignment (value nestingLimit))) text
      ('\n' :: more) found) : Reads line (text ++ ['\n']) more found := by
  have hnewline : Fails newline (text ++ ['\n'] ++ more) := by
    subst htext
    exact Fails.newline (by simpa using hline) (by simpa using hreturn)
  have hmark : Fails comment (text ++ ['\n'] ++ more) := by
    subst htext
    exact Fails.bind_left (Fails.char (by simpa using hcomment))
  have hfirst : Stops Toml.Reader.isBlank (text ++ ['\n'] ++ more) := by
    subst htext
    exact stops_cons hblank
  show Reads _ ([] ++ (text ++ ['\n'])) more _
  refine (Reads.no_blanks hfirst).next_step (Reads.orElse_right (Fails.bind_left hnewline)
    (Reads.orElse_right (Fails.bind_left hmark) (hread.bind fun found hfound => ?_)))
  exact Reads.lineEnd.last_step fun _ _ => .pure hfound

theorem reads_line_header {names : List String} {last : String} {c : Char}
    {tail more : List Char} (hc : c ≠ '[')
    (hkey : Reads dottedKey (c :: tail) (']' :: '\n' :: more) fun found =>
      List.Forall₂ Named names found.1 ∧ Named last found.2) :
    Reads line ('[' :: (c :: tail ++ [']']) ++ ['\n']) more (IsHeader names last) :=
  reads_line rfl rfl (by decide) (by decide) (by decide) (Reads.orElse_left (reads_header hc hkey))

/-- A line that begins with something else than a bracket has no header. -/
theorem fails_header {c : Char} (hc : c ≠ '[') (rest : List Char) : Fails header (c :: rest) := by
  have hseen : ['[', '['].isPrefixOf (c :: rest) = false := by
    simp [List.isPrefixOf, Ne.symm hc]
  have hopen : Fails (exactly (· = '[') 1) (c :: rest) :=
    Fails.bind_left (Fails.next (stops_cons (by simpa using hc)))
  have hsees : Reads (sees ['[', '[']) [] (c :: rest) (Eq false) := Reads.sees hseen
  refine Fails.bind_left (Fails.spanned ?_)
  show Fails _ ([] ++ c :: rest)
  exact Fails.bind_right hsees (Fails.bind_left hopen)

theorem exists_cons_kind (kind : Kind) : ∃ c tail, kind.name.toList = c :: tail ∧
    Toml.Reader.isBlank c = false ∧ c ≠ '\n' ∧ c ≠ '\r' ∧ c ≠ '#' ∧ c ≠ '[' := by
  cases kind <;> exact ⟨_, _, rfl, by decide⟩

theorem reads_line_assignment (v : Value) (more : List Char) :
    Reads line (assignmentChars v ++ ['\n']) more (IsEntry v) := by
  obtain ⟨c, tail, heq, hblank, hline, hreturn, hcomment, hopen⟩ := exists_cons_kind v.kind
  have htext : assignmentChars v =
      c :: (tail ++ [' '] ++ (['='] ++ ([' '] ++ (valueText v).toList))) := by
    rw [assignmentChars, heq]
    rfl
  refine reads_line htext hblank hline hreturn hcomment
    (Reads.orElse_right ?_ (reads_assignment v))
  rw [htext]
  exact fails_header hopen _

theorem fails_line_nil : Fails line [] := fun _ => rfl

end Preferences.Snapshot
