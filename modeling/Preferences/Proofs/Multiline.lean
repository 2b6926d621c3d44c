import Preferences.Proofs.Strings

/-! Strings on several lines that read back as themselves. Between their triple quotes no more than
two quotes stand together, so that none of them are taken for the closing ones. -/

namespace Preferences.Snapshot

open Preferences.Toml Preferences.Toml.Reader

/-! ### Quotes between triple quotes -/

/-- A content with at most two quotes before each character that is not written as a quote, and at
the end. -/
inductive Segments (quote : Char) (content : Reader (List Char)) : List Char → List Char → Prop
  | last {n : Nat} : n ≤ 2 →
    Segments quote content (List.replicate n quote) (List.replicate n quote)
  | item {n : Nat} {c d : Char} {tail more cs : List Char} : n ≤ 2 → d ≠ quote →
    (∀ rest, Reads content (d :: tail) rest (Eq [c])) → Segments quote content more cs →
    Segments quote content (List.replicate n quote ++ (d :: tail ++ more))
      (List.replicate n quote ++ c :: cs)

section

variable {quote : Char} {content : Reader (List Char)}

/-- A part between triple quotes. -/
def part (quote : Char) (content : Reader (List Char)) : Reader (List Char) :=
  content <|> (do return [← innerQuote quote])

theorem reads_innerQuote {rest : List Char}
    (h : [quote, quote, quote].isPrefixOf (quote :: rest) = false) :
    Reads (innerQuote quote) [quote] rest (Eq quote) := by
  have hsees : Reads (sees [quote, quote, quote]) [] ([quote] ++ rest) (Eq false) := Reads.sees h
  show Reads _ ([] ++ [quote]) rest _
  exact hsees.next_step ((Reads.char quote).last_step fun _ _ => .pure rfl)

theorem fails_innerQuote (rest : List Char) :
    Fails (innerQuote quote) (quote :: quote :: quote :: rest) := by
  have hseen : [quote, quote, quote].isPrefixOf (quote :: quote :: quote :: rest) = true := by
    simp
  show Fails _ ([] ++ (quote :: quote :: quote :: rest))
  exact Fails.bind_right (Reads.sees hseen) (Fails.bind_left Fails.failure)

/-- A line end after the opening quotes is skipped, and no line end is no error. -/
theorem reads_opening {opening next : List Char}
    (h : opening = ['\n'] ∨ opening = [] ∧ Fails newline next) :
    Reads (optional newline) opening next fun _ => True := by
  rcases h with rfl | ⟨rfl, hfails⟩
  · exact (Reads.optional Reads.newline).imp fun _ _ => trivial
  · exact (Fails.optional hfails).imp fun _ _ => trivial

variable (hcontent : ∀ rest, Fails content (quote :: rest))

include hcontent

/-- Up to two quotes are parts of their own before what does not begin with a quote. -/
theorem readsEach_quotes {n : Nat} (hn : n ≤ 2) {d : Char} {text rest : List Char}
    {items : List (List Char)} (hd : d ≠ quote)
    (h : ReadsEach (part quote content) Eq rest (d :: text) items) :
    ReadsEach (part quote content) Eq rest (List.replicate n quote ++ d :: text)
      (List.replicate n [quote] ++ items) := by
  induction n with
  | zero => exact h
  | succ n ih =>
    have hone : [quote, quote, quote].isPrefixOf
        (quote :: (List.replicate n quote ++ d :: text ++ rest)) = false := by
      obtain rfl | rfl : n = 0 ∨ n = 1 := by omega
      · simp [List.isPrefixOf, Ne.symm hd]
      · simp [List.isPrefixOf, Ne.symm hd]
    have hpart : Reads (part quote content) [quote] (List.replicate n quote ++ d :: text ++ rest)
        (Eq [quote]) := by
      refine Reads.orElse_right (hcontent _) ((reads_innerQuote hone).last_step ?_)
      rintro _ rfl
      exact .pure rfl
    show ReadsEach _ _ _ ([quote] ++ (List.replicate n quote ++ d :: text))
      ([quote] :: (List.replicate n [quote] ++ items))
    exact .cons (List.cons_ne_nil quote []) hpart (ih (by omega))

/-- All parts are read up to the last quotes, which stand directly before the closing ones. -/
theorem Segments.readsEach {text cs : List Char} (h : Segments quote content text cs)
    (rest : List Char) :
    ∃ (body : List Char) (items : List (List Char)) (n : Nat), n ≤ 2 ∧
      text = body ++ List.replicate n quote ∧ cs = items.flatten ++ List.replicate n quote ∧
      ReadsEach (part quote content) Eq (List.replicate (n + 3) quote ++ rest) body items := by
  induction h with
  | @last n hn =>
    refine ⟨[], [], n, hn, rfl, rfl, .nil (Fails.orElse ?_ (Fails.bind_left ?_))⟩
    · exact hcontent _
    · exact fails_innerQuote (List.replicate n quote ++ rest)
  | @item n c d tail more cs hn hd hitem _ ih =>
    obtain ⟨body, items, last, hlast, rfl, rfl, hbody⟩ := ih
    refine ⟨List.replicate n quote ++ d :: (tail ++ body), List.replicate n [quote] ++ [c] :: items,
      last, hlast, by simp, by simp, readsEach_quotes hcontent hn hd ?_⟩
    exact .cons (List.cons_ne_nil d tail) (Reads.orElse_left (hitem _)) hbody

/-- A content in segments is read up to the closing quotes, whether it begins on a line of its own
or not. -/
theorem Segments.reads {text cs opening rest : List Char} (h : Segments quote content text cs)
    (hopening : opening = ['\n'] ∨
      opening = [] ∧ Fails newline (text ++ [quote, quote, quote] ++ rest))
    (hrest : Stops (· = quote) rest) :
    Reads (Toml.multilineString quote content)
      ([quote, quote, quote] ++ (opening ++ (text ++ [quote, quote, quote]))) rest
      (Eq (String.ofList cs)) := by
  obtain ⟨body, items, n, hn, rfl, rfl, hbody⟩ := h.readsEach hcontent rest
  -- The quotes that end the content are read together with the closing ones, as one run.
  have hclosing : body ++ List.replicate n quote ++ [quote, quote, quote] =
      body ++ List.replicate (n + 3) quote := by
    rw [List.append_assoc, List.replicate_add]
    rfl
  rw [hclosing] at hopening ⊢
  refine (Reads.chars _).next_step ?_
  refine (reads_opening hopening).bind fun _ _ => hbody.many_eq.next_step ?_
  have hrun : Reads (takeWhile (· = quote)) (List.replicate (n + 3) quote) rest
      (Eq (List.replicate (n + 3) quote)) := by
    refine Reads.takeWhile (fun c hc => ?_) hrest
    rw [List.eq_of_mem_replicate hc]
    simp
  refine hrun.last_step ?_
  rintro _ rfl
  have hwidth : 3 ≤ (List.replicate (n + 3) quote).length ∧
      (List.replicate (n + 3) quote).length ≤ 5 := by
    rw [List.length_replicate]
    omega
  rw [if_pos hwidth, List.drop_replicate, Nat.add_sub_cancel]
  exact .pure rfl

end

/-! ### Strings with escapes -/

/-- What stands between triple double quotes, quotes apart. -/
def escapedContent : Reader (List Char) :=
  (do lineFold; return []) <|> (do return [← escapedChar]) <|> innerLineEnd

theorem fails_lineFold {c : Char} (hslash : c ≠ '\\') (rest : List Char) :
    Fails lineFold (c :: rest) :=
  Fails.bind_left (Fails.char (by simpa using hslash))

/-- A backslash folds no line if something else stands behind it. -/
theorem fails_lineFold_escape {c : Char} (hblank : Toml.Reader.isBlank c = false)
    (hline : c ≠ '\n') (hreturn : c ≠ '\r') (rest : List Char) :
    Fails lineFold ('\\' :: c :: rest) := by
  show Fails _ (['\\'] ++ (c :: rest))
  refine Fails.bind_right (Reads.char '\\') ?_
  show Fails _ ([] ++ (c :: rest))
  refine Fails.bind_right (Reads.no_blanks (stops_cons hblank)) (Fails.bind_left ?_)
  exact Fails.newline (by simpa using hline) (by simpa using hreturn)

theorem fails_escapedContent_quote (rest : List Char) : Fails escapedContent ('"' :: rest) :=
  Fails.orElse (Fails.bind_left (fails_lineFold (by decide) rest))
    (Fails.orElse (Fails.bind_left (fails_escapedChar_quote rest))
      (Fails.bind_left (Fails.newline (by simp) (by simp))))

theorem reads_escapedContent_line (rest : List Char) :
    Reads escapedContent ['\n'] rest (Eq ['\n']) := by
  refine Reads.orElse_right (Fails.bind_left (fails_lineFold (by decide) rest)) ?_
  refine Reads.orElse_right (Fails.bind_left ?_) (Reads.newline.last_step fun _ _ => .pure rfl)
  exact fun _ => rfl

theorem reads_escapedContent {c : Char} {text : List Char} (rest : List Char)
    (hfold : Fails lineFold (text ++ rest)) (hread : Reads escapedChar text rest (Eq c)) :
    Reads escapedContent text rest (Eq [c]) := by
  refine Reads.orElse_right (Fails.bind_left hfold) (Reads.orElse_left (hread.last_step ?_))
  rintro _ rfl
  exact .pure rfl

theorem reads_escapedContent_escaped {c : Char} (hquote : c ≠ '"') (hline : c ≠ '\n')
    (rest : List Char) : Reads escapedContent (escaped c) rest (Eq [c]) := by
  refine reads_escapedContent rest ?_ (reads_escaped hquote hline rest)
  rcases escaped_cases hline with ⟨heq, -, hslash⟩ | ⟨letter, tail, heq, hblank, hline, hreturn⟩
  · rw [heq]
    exact fails_lineFold hslash rest
  · rw [heq]
    exact fails_lineFold_escape hblank hline hreturn (tail ++ rest)

/-- A text with escapes, after some quotes that are counted already. -/
theorem segments_multilineChars (cs : List Char) {quotes : Nat} (h : quotes ≤ 2) :
    Segments '"' escapedContent (List.replicate quotes '"' ++ multilineChars quotes cs)
      (List.replicate quotes '"' ++ cs) := by
  induction cs generalizing quotes with
  | nil =>
    simp only [multilineChars, List.append_nil]
    exact .last h
  | cons c cs ih =>
    have hnone : Segments '"' escapedContent (multilineChars 0 cs) cs := by
      simpa using ih (Nat.zero_le 2)
    by_cases hquote : c = '"'
    · subst hquote
      by_cases htwo : quotes = 2
      · rw [multilineChars, if_pos htwo]
        show Segments _ _ (_ ++ (['\\', '"'] ++ multilineChars 0 cs)) _
        refine .item h (by decide) (fun rest => ?_) hnone
        exact reads_escapedContent rest (fails_lineFold_escape rfl (by decide) (by decide) rest)
          fun _ => ⟨_, rfl, rfl⟩
      · have hmore : quotes + 1 ≤ 2 := by omega
        rw [multilineChars, if_neg htwo]
        simpa [List.replicate_succ'] using ih hmore
    · by_cases hline : c = '\n'
      · subst hline
        rw [multilineChars]
        show Segments _ _ (_ ++ (['\n'] ++ multilineChars 0 cs)) _
        exact .item h (by decide) reads_escapedContent_line hnone
      · obtain ⟨d, tail, heq, hd⟩ := head?_escaped hquote hline
        have hread := reads_escapedContent_escaped hquote hline
        rw [heq] at hread
        rw [multilineChars, heq]
        · exact .item h hd hread hnone
        · exact hquote
        · exact hline

/-! ### Openings -/

/-- Whether a text is broken into lines, so that it begins on a line of its own. -/
def opening (cs : List Char) : List Char := if cs.contains '\n' then ['\n'] else []

theorem toList_multilineString (quotes : String) (cs content : List Char) :
    (multilineString quotes cs content).toList =
      quotes.toList ++ (opening cs ++ (content ++ quotes.toList)) := by
  unfold multilineString opening
  split <;> simp

theorem opening_cases {cs : List Char} {text : List Char}
    (hfails : '\n' ∉ cs → Fails newline text) :
    opening cs = ['\n'] ∨ opening cs = [] ∧ Fails newline text := by
  unfold opening
  split
  · exact .inl rfl
  · rename_i hline
    exact .inr ⟨rfl, hfails (by simpa using hline)⟩

theorem fails_newline_of_plain {c : Char} (hplain : isPlainChar c = true) (rest : List Char) :
    Fails newline (c :: rest) := by
  have hline : c ≠ '\n' := by
    rintro rfl
    exact absurd hplain (by decide)
  have hreturn : c ≠ '\r' := by
    rintro rfl
    exact absurd hplain (by decide)
  exact Fails.newline (by simpa using hline) (by simpa using hreturn)

theorem fails_newline_multilineChars {cs : List Char} (hline : '\n' ∉ cs) (rest : List Char) :
    Fails newline (multilineChars 0 cs ++ '"' :: rest) := by
  cases cs with
  | nil => exact Fails.newline (by simp [multilineChars]) (by simp [multilineChars])
  | cons c cs =>
    obtain ⟨hne, -⟩ := List.ne_and_not_mem_of_not_mem_cons hline
    by_cases hquote : c = '"'
    · subst hquote
      exact Fails.newline (by simp [multilineChars]) (by simp [multilineChars])
    · rw [multilineChars]
      · rcases escaped_cases (Ne.symm hne) with ⟨heq, hplain, -⟩ | ⟨letter, tail, heq, -⟩
        · rw [heq]
          exact fails_newline_of_plain hplain _
        · rw [heq]
          exact Fails.newline (by simp) (by simp)
      · exact hquote
      · exact Ne.symm hne

theorem reads_multilineString (cs : List Char) {rest : List Char} (hrest : Stops (· = '"') rest) :
    Reads (Toml.multilineString '"' escapedContent)
      (multilineString "\"\"\"" cs (multilineChars 0 cs)).toList rest (Eq (String.ofList cs)) := by
  have hsegments : Segments '"' escapedContent (multilineChars 0 cs) cs := by
    simpa using segments_multilineChars cs (Nat.zero_le 2)
  rw [toList_multilineString]
  refine hsegments.reads fails_escapedContent_quote (opening_cases fun hline => ?_) hrest
  rw [List.append_assoc]
  exact fails_newline_multilineChars hline _

/-! ### Strings without escapes -/

/-- What stands between triple single quotes, quotes apart. -/
def literalContent : Reader (List Char) := (do return [← literalChar]) <|> innerLineEnd

theorem fails_literalContent_quote (rest : List Char) : Fails literalContent ('\'' :: rest) :=
  Fails.orElse (Fails.bind_left (Fails.next (stops_cons rfl)))
    (Fails.bind_left (Fails.newline (by simp) (by simp)))

theorem reads_literalContent {c : Char} (hquote : c ≠ '\'')
    (hc : isPlainChar c = true ∨ c = '\n') (rest : List Char) :
    Reads literalContent [c] rest (Eq [c]) := by
  rcases hc with hplain | rfl
  · refine Reads.orElse_left ((Reads.next (by simp [hplain, hquote])).last_step ?_)
    rintro _ rfl
    exact .pure rfl
  · refine Reads.orElse_right (Fails.bind_left (Fails.next (stops_cons rfl))) ?_
    exact Reads.newline.last_step fun _ _ => .pure rfl

theorem hasTriple_of_append {quote : Char} {before cs : List Char}
    (h : hasTriple quote (before ++ cs) = false) : hasTriple quote cs = false := by
  induction before with
  | nil => exact h
  | cons c before ih =>
    rw [List.cons_append, hasTriple, Bool.or_eq_false_iff] at h
    exact ih h.2

theorem segments_literal {cs : List Char} (hcs : ∀ c ∈ cs, isPlainChar c = true ∨ c = '\n')
    {quotes : Nat} (h : quotes ≤ 2)
    (htriple : hasTriple '\'' (List.replicate quotes '\'' ++ cs) = false) :
    Segments '\'' literalContent (List.replicate quotes '\'' ++ cs)
      (List.replicate quotes '\'' ++ cs) := by
  induction cs generalizing quotes with
  | nil =>
    rw [List.append_nil]
    exact .last h
  | cons c cs ih =>
    have hcs' := fun d hd => hcs d (List.mem_cons_of_mem c hd)
    by_cases hquote : c = '\''
    · subst hquote
      by_cases htwo : quotes = 2
      · subst htwo
        simp [List.replicate, hasTriple] at htriple
      · have hmore : quotes + 1 ≤ 2 := by omega
        have hnext := ih hcs' hmore
        simp only [List.replicate_succ', List.append_assoc, List.singleton_append] at hnext
        exact hnext htriple
    · have hrest : hasTriple '\'' cs = false :=
        hasTriple_of_append (List.append_cons _ _ _ ▸ htriple)
      have hnone : Segments '\'' literalContent cs cs := by
        simpa using ih hcs' (Nat.zero_le 2) (by simpa using hrest)
      exact .item h hquote (reads_literalContent hquote (hcs c List.mem_cons_self)) hnone

theorem reads_multilineLiteral {cs rest : List Char}
    (hcs : ∀ c ∈ cs, isPlainChar c = true ∨ c = '\n') (htriple : hasTriple '\'' cs = false)
    (hrest : Stops (· = '\'') rest) :
    Reads (Toml.multilineString '\'' literalContent) (multilineString "'''" cs cs).toList rest
      (Eq (String.ofList cs)) := by
  have hsegments : Segments '\'' literalContent cs cs := by
    simpa using segments_literal hcs (Nat.zero_le 2) (by simpa using htriple)
  rw [toList_multilineString]
  refine hsegments.reads fails_literalContent_quote (opening_cases fun hline => ?_) hrest
  cases cs with
  | nil => exact Fails.newline (by simp) (by simp)
  | cons c cs =>
    have hplain := (hcs c List.mem_cons_self).resolve_right fun heq => hline (by simp [heq])
    exact fails_newline_of_plain hplain _

/-! ### All notations -/

/-- One quote begins no triple quotes, unless the string is empty and a quote stands behind it. -/
theorem fails_triple {quote : Char} {content rest : List Char}
    (hcontent : content.head? ≠ some quote) (hrest : Stops (· = quote) rest) :
    Fails (chars [quote, quote, quote]) ([quote] ++ (content ++ [quote]) ++ rest) := by
  cases content with
  | nil =>
    have hthird : rest.head? ≠ some quote := fun heq => by simpa using hrest quote heq
    show Fails _ ([quote] ++ ([quote] ++ rest))
    exact Fails.bind_right (Reads.char quote) (Fails.bind_right (Reads.char quote)
      (Fails.bind_left (Fails.char hthird)))
  | cons c content =>
    show Fails _ ([quote] ++ (c :: content ++ [quote] ++ rest))
    exact Fails.bind_right (Reads.char quote) (Fails.bind_left (Fails.char hcontent))

variable {cs rest : List Char}

theorem reads_string_line (hrest : Stops (· = '"') rest) :
    Reads Toml.string (lineString cs).toList rest (Eq (String.ofList cs)) := by
  refine Reads.orElse_right (Fails.bind_left ?_) (Reads.orElse_left (reads_lineString cs rest))
  rw [toList_lineString]
  refine fails_triple ?_ hrest
  cases cs with
  | nil => simp [lineChars]
  | cons c cs =>
    obtain ⟨d, tail, heq, hd⟩ := head?_lineItem c
    simpa [lineChars_cons, heq] using hd

/-- A string between single quotes is none between double quotes. -/
theorem reads_string_single {text : List Char} {found : String → Prop}
    (h : Reads (Toml.multilineString '\'' literalContent <|> Toml.lineString '\'' literalChar)
      ('\'' :: text) rest found) : Reads Toml.string ('\'' :: text) rest found :=
  Reads.orElse_right (Fails.bind_left (Fails.bind_left (Fails.char (by simp))))
    (Reads.orElse_right (Fails.bind_left (Fails.char (by simp))) h)

theorem reads_string_literal (hcs : isLiteral cs) (hrest : Stops (· = '\'') rest) :
    Reads Toml.string (literalString cs).toList rest (Eq (String.ofList cs)) := by
  have hread := reads_literalString hcs rest
  rw [toList_literalString] at hread ⊢
  refine reads_string_single (Reads.orElse_right (Fails.bind_left ?_) hread)
  refine fails_triple ?_ hrest
  cases cs with
  | nil => simp
  | cons c cs => simpa using (hcs c List.mem_cons_self).2

theorem reads_string_multilineLiteral (hcs : ∀ c ∈ cs, isPlainChar c = true ∨ c = '\n')
    (htriple : hasTriple '\'' cs = false) (hrest : Stops (· = '\'') rest) :
    Reads Toml.string (multilineString "'''" cs cs).toList rest (Eq (String.ofList cs)) := by
  have hread := reads_multilineLiteral hcs htriple hrest
  rw [toList_multilineString] at hread ⊢
  exact reads_string_single (Reads.orElse_left hread)

/-- A string is read as itself, before what is no quote. -/
theorem reads_stringText (s : String) (hdouble : Stops (· = '"') rest)
    (hsingle : Stops (· = '\'') rest) : Reads Toml.string (stringText s).toList rest (Eq s) := by
  obtain ⟨cs, rfl⟩ : ∃ cs, s = String.ofList cs := ⟨s.toList, by simp⟩
  have hplain (hcontrol : cs.any isControl = false) (c : Char) (hc : c ∈ cs) :
      isPlainChar c = true ∨ c = '\n' := by
    by_cases hline : c = '\n'
    · exact .inr hline
    · rw [List.any_eq_false] at hcontrol
      exact .inl (isPlainChar_of_not_control (by simpa using hcontrol c hc) hline)
  unfold stringText
  simp only [String.toList_ofList]
  split_ifs with hline hliteral hescapes hmultiline hnewline
  · exact reads_string_line hdouble
  · simp only [Bool.not_eq_true', Bool.or_eq_false_iff] at hliteral
    obtain ⟨⟨hquote, hnewline⟩, hcontrol⟩ := hliteral
    refine reads_string_literal (fun c hc => ⟨(hplain hcontrol c hc).resolve_right ?_, ?_⟩) hsingle
    · rintro rfl
      simp [hc] at hnewline
    · rintro rfl
      simp [hc] at hquote
  · exact Reads.orElse_left (reads_multilineString cs hdouble)
  · simp only [Bool.not_eq_true', Bool.or_eq_false_iff] at hmultiline
    exact reads_string_multilineLiteral (hplain hmultiline.1) hmultiline.2 hsingle
  · exact Reads.orElse_left (reads_multilineString cs hdouble)
  · exact reads_string_line hdouble

end Preferences.Snapshot
