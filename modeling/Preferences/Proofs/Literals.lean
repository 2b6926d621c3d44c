import Mathlib.Data.Nat.Digits.Defs
import Preferences.Proofs.Members

/-! String literals that read back as themselves. A text that is written as a literal is what the
literal means, and every key of a parsed member is such a literal, whether its attribute spells it
or it comes from the method's name. -/

namespace Preferences.Source

open Preferences.Text

/-! ### Written literals -/

/-- A character that does not end the literal is one step of the reader. -/
theorem readQuoted_cons {dialect : Dialect} {reading : Reading} {c : Char} {rest : List Char}
    (next : Reading) (text : List Char) (hend : (reading.endsAtQuote && c = '"') = false)
    (hstep : reading.step dialect c = some (next, text)) :
    readQuoted dialect reading (c :: rest) =
      (readQuoted dialect next rest).map fun (more, rest) => (text ++ more, rest) := by
  rw [readQuoted, hend, hstep, if_neg Bool.false_ne_true]
  cases hrest : readQuoted dialect next rest <;> simp [hrest]

theorem hexDigit?_digitChar : ∀ digit < 16, hexDigit? (Nat.digitChar digit) = some digit := by
  decide

/-- A digit comes behind the digits of `value`. -/
theorem readQuoted_digitChar (dialect : Dialect) (value count digit : Nat) (rest : List Char)
    (hcount : count < 6) (hdigit : digit < 16) :
    readQuoted dialect (.codeDigits value count) (digit.digitChar :: rest) =
      readQuoted dialect (.codeDigits (16 * value + digit) (count + 1)) rest := by
  have hstep : Reading.step dialect (.codeDigits value count) digit.digitChar =
      some (.codeDigits (16 * value + digit) (count + 1), []) := by
    simp [Reading.step, Reading.stepCode, hexDigit?_digitChar digit hdigit, Nat.ne_of_lt hcount]
  rw [readQuoted_cons _ _ rfl hstep]
  simp

/-- The digits of a code point are read to the code point. -/
theorem readQuoted_toDigits (dialect : Dialect) (code : Nat) (rest : List Char)
    (h : (Nat.toDigits 16 code).length ≤ 6) :
    readQuoted dialect (.codeDigits 0 0) (Nat.toDigits 16 code ++ rest) =
      readQuoted dialect (.codeDigits code (Nat.toDigits 16 code).length) rest := by
  induction code using Nat.strong_induction_on generalizing rest with
  | _ code ih =>
    by_cases hlt : code < 16
    · rw [Nat.toDigits_of_lt_base hlt]
      simpa using readQuoted_digitChar dialect 0 0 code rest (by decide) hlt
    · have hle : 16 ≤ code := Nat.le_of_not_lt hlt
      have hsplit := Nat.toDigits_of_base_le (by decide : 1 < 16) hle
      rw [hsplit, List.length_append, List.length_singleton] at h
      rw [hsplit, List.append_assoc, ih (code / 16) (by omega) _ (by omega),
        List.length_append, List.length_singleton, List.singleton_append,
        readQuoted_digitChar _ _ _ _ _ (by omega) (Nat.mod_lt code (by decide)), Nat.div_add_mod]

/-- An escaped code point is read as its character. -/
theorem readQuoted_codePointEscape (c : Char) (rest : List Char) :
    readQuoted .text .plain (codePointEscape c ++ rest) =
      (readQuoted .text .plain rest).map fun (more, rest) => (c :: more, rest) := by
  have hlength : (Nat.toDigits 16 c.toNat).length ≤ 6 := by
    have hvalid : c.toNat < 16 ^ 6 := by
      have := c.valid
      simp only [UInt32.isValidChar, Nat.isValidChar] at this
      show c.val.toNat < 16 ^ 6
      omega
    exact Nat.toDigits_length 16 c.toNat 6 (by decide) hvalid
  have hcount : (Nat.toDigits 16 c.toNat).length ≠ 0 := by
    simp [Nat.toDigits_ne_nil]
  have hclose : Reading.step .text (.codeDigits c.toNat (Nat.toDigits 16 c.toNat).length) '\x7d' =
      some (.plain, [c]) := by
    have hvalid : c.toNat.isValidChar := c.valid
    simp [Reading.step, Reading.stepCode, show hexDigit? '\x7d' = none by rfl, hcount,
      Reading.escaped, hvalid]
  simp only [codePointEscape, List.cons_append, List.nil_append, List.append_assoc]
  rw [readQuoted_cons .escape [] rfl rfl, readQuoted_cons .codeOpening [] rfl rfl,
    readQuoted_cons (.codeDigits 0 0) [] rfl rfl, readQuoted_toDigits .text c.toNat _ hlength,
    readQuoted_cons _ _ rfl hclose]
  simp [Function.comp_def]

/-- The ways a character stands between quotes: as an escape of one letter, as itself, or by its
code point. -/
theorem quotedChar_cases (c : Char) :
    (∃ letter, quotedChar c = ['\\', letter] ∧
      Reading.step .text .escape letter = some (.plain, [c])) ∨
    (quotedChar c = [c] ∧ c ≠ '"' ∧ Reading.step .text .plain c = some (.plain, [c])) ∨
    quotedChar c = codePointEscape c := by
  unfold quotedChar
  split_ifs with hnull htab hline hreturn hquote hslash hshown
  · exact .inl ⟨'0', rfl, by rw [hnull]; rfl⟩
  · exact .inl ⟨'t', rfl, by rw [htab]; rfl⟩
  · exact .inl ⟨'n', rfl, by rw [hline]; rfl⟩
  · exact .inl ⟨'r', rfl, by rw [hreturn]; rfl⟩
  · exact .inl ⟨'"', rfl, by rw [hquote]; rfl⟩
  · exact .inl ⟨'\\', rfl, by rw [hslash]; rfl⟩
  · refine .inr (.inl ⟨rfl, hquote, ?_⟩)
    simp [Reading.step, Reading.stepPlain, hreturn, hslash, Dialect.admits]
  · exact .inr (.inr rfl)

/-- A character is read as it is written between quotes. -/
theorem readQuoted_quotedChar (c : Char) (rest : List Char) :
    readQuoted .text .plain (quotedChar c ++ rest) =
      (readQuoted .text .plain rest).map fun (more, rest) => (c :: more, rest) := by
  rcases quotedChar_cases c with ⟨letter, hc, hstep⟩ | ⟨hc, hquote, hstep⟩ | hc
  · rw [hc, List.cons_append, List.singleton_append,
      readQuoted_cons .escape [] rfl rfl, readQuoted_cons _ _ rfl hstep]
    simp [Function.comp_def]
  · rw [hc, List.singleton_append, readQuoted_cons _ _ (by simp [hquote]) hstep]
    rfl
  · rw [hc, readQuoted_codePointEscape]

/-- A null is spelled in one of two ways, by what stands behind it. -/
theorem literalChars_null (text : List Char) :
    literalChars ('\x00' :: text) = ['\\', '0'] ++ literalChars text ∨
      literalChars ('\x00' :: text) = ['\\', 'x', '0', '0'] ++ literalChars text := by
  cases text with
  | nil => exact .inl rfl
  | cons next rest =>
    by_cases hoctal : '0' ≤ next ∧ next ≤ '7'
    · exact .inr (congrArg (· ++ literalChars (next :: rest)) (if_pos hoctal))
    · exact .inl (congrArg (· ++ literalChars (next :: rest)) (if_neg hoctal))

/-- A text is what its literal's characters are read as, up to the closing quote. -/
theorem readQuoted_literalChars (text rest : List Char) :
    readQuoted .text .plain (literalChars text ++ '"' :: rest) = some (text, rest) := by
  induction text with
  | nil => rfl
  | cons c text ih =>
    by_cases hnull : c = '\x00'
    · subst hnull
      rcases literalChars_null text with hshort | hlong
      · have hread := readQuoted_quotedChar '\x00' (literalChars text ++ '"' :: rest)
        rw [ih] at hread
        rw [hshort, List.append_assoc]
        exact hread
      · simp only [hlong, List.cons_append, List.nil_append]
        rw [readQuoted_cons .escape [] rfl rfl, readQuoted_cons .hexHigh [] rfl rfl,
          readQuoted_cons (.hexLow 0) [] rfl rfl, readQuoted_cons .plain ['\x00'] rfl rfl, ih]
        rfl
    · rw [literalChars, List.append_assoc, readQuoted_quotedChar, ih]
      · rfl
      · exact hnull

/-- A text is what its literal means. -/
theorem stringLiteral?_literal (text : String) :
    stringLiteral? (literal text).toList = some (text.toList, []) := by
  rw [literal, String.toList_ofList]
  exact readQuoted_literalChars text.toList []

/-! ### Literals as they are kept -/

namespace TextLiteral

/-- The literal's spelling is read as the literal itself. -/
def ReadsBack (lit : TextLiteral) : Prop := ofSpelling? lit.spelling lit.pos = some lit

theorem readsBack_of_ofSpelling? {spelling : String} {pos : Position} {lit : TextLiteral}
    (h : ofSpelling? spelling pos = some lit) : lit.ReadsBack := by
  obtain ⟨read, hread, rfl⟩ := Option.map_eq_some_iff.1 h
  simp [ReadsBack, ofSpelling?, hread]

/-- The literal's spelling means the text. -/
def Spells (lit : TextLiteral) (text : String) : Prop :=
  ∃ suffix, stringLiteral? lit.spelling.toList = some (text.toList, suffix)

theorem Spells.unique {lit : TextLiteral} {text other : String} (h : lit.Spells text)
    (h' : lit.Spells other) : text = other := by
  obtain ⟨_, hread⟩ := h
  obtain ⟨_, hread'⟩ := h'
  rw [hread] at hread'
  exact String.toList_inj.1 (Prod.mk.inj (Option.some.inj hread')).1

/-- A literal that reads back spells its value. -/
theorem ReadsBack.spells {lit : TextLiteral} (h : lit.ReadsBack) : lit.Spells lit.value := by
  obtain ⟨⟨value, suffix⟩, hread, hlit⟩ := Option.map_eq_some_iff.1 h
  refine ⟨suffix, hread.trans ?_⟩
  rw [← hlit, String.toList_ofList]

theorem readsBack_ofValue (value : String) (pos : Position) : (ofValue value pos).ReadsBack := by
  simp [ReadsBack, ofSpelling?, ofValue, stringLiteral?_literal]

end TextLiteral

/-! ### Literals that a parser reads -/

namespace Parser

open Preferences.Schema

/-- Whatever trees it is given, the parser has no values but those that `P` holds of. -/
def Yields (p : Parser α) (P : α → Prop) : Prop :=
  ∀ cursor value after, p cursor = .ok (value, after) → P value

variable {P : α → Prop} {Q : β → Prop}

theorem yields_pure {a : α} (h : P a) : Yields (pure a) P := by
  intro cursor value after hp
  cases hp
  exact h

theorem yields_bind {p : Parser α} {f : α → Parser β} (hp : Yields p P)
    (hf : ∀ a, P a → Yields (f a) Q) : Yields (p >>= f) Q := by
  intro cursor value after h
  obtain ⟨⟨a, between⟩, hfirst, hsecond⟩ := ok_of_bind h
  exact hf a (hp _ _ _ hfirst) _ _ _ hsecond

theorem yields_true (p : Parser α) : Yields p fun _ => True := fun _ _ _ _ => trivial

theorem yields_failAt (pos : Position) (cause : SyntaxError.Cause) :
    Yields (failAt pos cause) P := by
  intro cursor value after h
  cases h

theorem yields_failWanting (wanted : List Wanted) : Yields (failWanting wanted) P := by
  intro cursor value after h
  cases h

theorem yields_map {p : Parser α} {f : α → β} (hp : Yields p P) (hf : ∀ a, P a → Q (f a)) :
    Yields (f <$> p) Q := by
  rw [map_eq_pure_bind]
  exact yields_bind hp fun a ha => yields_pure (hf a ha)

theorem yields_parseAll {p : Parser α} {trees : List Tree} {stop : Position} {value : α}
    (hp : Yields p P) (h : parseAll p trees stop = .ok value) : P value := by
  obtain ⟨⟨a, cursor⟩, hfirst, hsecond⟩ := ok_of_bind h
  dsimp only at hsecond
  split at hsecond
  · cases hsecond
  · cases hsecond
    exact hp _ _ _ hfirst

theorem yields_stringLiteral : Yields stringLiteral TextLiteral.ReadsBack := by
  unfold stringLiteral
  refine yields_bind (yields_true rest) fun trees _ => ?_
  split
  · split
    · rename_i lit hlit
      refine yields_bind (yields_true _) fun _ _ => yields_pure ?_
      exact TextLiteral.readsBack_of_ofSpelling? hlit
    · exact yields_failWanting _
  · exact yields_failWanting _

end Parser

end Preferences.Source

namespace Preferences.Schema

open Preferences.Source Preferences.Syntax Parser

theorem yields_nonEmptyString (complaint : String) :
    Yields (nonEmptyString complaint) TextLiteral.ReadsBack := by
  unfold nonEmptyString
  refine yields_bind (P := TextLiteral.ReadsBack) ?_ fun lit hlit => ?_
  · exact yields_bind (yields_true _) fun _ _ => yields_stringLiteral
  · split
    · exact yields_failAt _ _
    · exact yields_pure hlit

/-- What holds at first and after each entry holds after all of them. -/
theorem yields_entries {P : σ → Prop} {entry : Path → σ → Parser σ} {state : σ} (hstate : P state)
    (hentry : ∀ path state, P state → Yields (entry path state) P) :
    Yields (entries entry state) P := by
  have hgo (bound : Nat) : ∀ state, P state → Yields (entries.go entry bound state) P := by
    induction bound with
    | zero => exact fun state hstate => yields_pure hstate
    | succ bound ih =>
      intro state hstate
      unfold entries.go
      refine yields_bind (yields_true _) fun ended _ => ?_
      split
      · exact yields_pure hstate
      · refine yields_bind (yields_true _) fun path _ => ?_
        refine yields_bind (hentry path state hstate) fun next hnext => ?_
        refine yields_bind (yields_true _) fun ended _ => ?_
        split
        · exact yields_pure hnext
        · exact yields_bind (yields_true _) fun _ _ => ih next hnext
  exact yields_bind (yields_true _) fun _ _ => hgo _ state hstate

/-- A key that an attribute names is one of its strings, whichever it is. -/
theorem of_keyName {P : TextLiteral → Prop}
    (hstring : ∀ complaint, Yields (nonEmptyString complaint) P) {attr : Attribute}
    {lit : TextLiteral} (h : keyName attr = .ok (some lit)) : P lit := by
  unfold keyName at h
  split at h
  · cases h
  · refine yields_parseAll (P := fun found => ∀ lit, found = some lit → P lit) ?_ h lit rfl
    refine yields_entries nofun fun path _ _ => ?_
    split
    · exact yields_map (hstring _) fun lit hlit found hfound => by
        cases hfound
        exact hlit
    · exact yields_failAt _ _
  · cases h

/-- A key that an attribute names reads back. -/
theorem readsBack_of_keyName {attr : Attribute} {lit : TextLiteral}
    (h : keyName attr = .ok (some lit)) : lit.ReadsBack :=
  of_keyName yields_nonEmptyString h

/-! ### Keys of members -/

section Shapes

variable {sig : Signature} {access : Access} {explicit : Option TextLiteral}

/-- The key that a method's attribute names, or else the one that its own name stands for. -/
theorem readsBack_getD (h : ∀ lit, explicit = some lit → lit.ReadsBack) :
    (explicit.getD (derivedKey sig access)).ReadsBack := by
  cases explicit with
  | none => exact TextLiteral.readsBack_ofValue _ _
  | some lit => exact h lit rfl

theorem shapeOf_readsBack {params : List (Pattern × Ty)} {shape : Shape}
    (hexplicit : ∀ lit, explicit = some lit → lit.ReadsBack)
    (h : shapeOf sig access explicit params = .ok shape) {lit : TextLiteral}
    (hkey : shape.key = .fixed lit) : lit.ReadsBack := by
  have hnamed : shape.key = .fixed (explicit.getD (derivedKey sig access)) → lit.ReadsBack := by
    intro hshape
    cases hshape.symm.trans hkey
    exact readsBack_getD hexplicit
  cases access with
  | get | observe =>
    obtain ⟨-, ty, rfl⟩ := readShape_ok h
    exact hnamed rfl
  | set | setSync =>
    obtain ⟨pattern, ty, name, -, -, rfl⟩ := writeShape_ok h
    exact hnamed rfl
  | contains | remove =>
    obtain ⟨-, rfl⟩ | ⟨pattern, ty, name, -, -, rfl⟩ := keyShape_ok h
    · exact hnamed rfl
    · cases hkey
  | clear =>
    obtain ⟨-, rfl⟩ := clearShape_ok h
    cases hkey
    exact TextLiteral.readsBack_ofValue _ _

end Shapes

/-- Every fixed key of a member reads back. -/
theorem memberOf_readsBack {sig : Signature} {access adapters : List Attribute} {member : Member}
    (h : memberOf sig access adapters = .ok member) {lit : TextLiteral}
    (hkey : member.key = .fixed lit) : lit.ReadsBack := by
  obtain ⟨mark, explicit, params, -, -, hname, -, -, hshape, -⟩ := memberOf_ok h
  refine shapeOf_readsBack (fun lit hlit => ?_) hshape hkey
  rw [hlit] at hname
  exact readsBack_of_keyName hname

end Preferences.Schema
