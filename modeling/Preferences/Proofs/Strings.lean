import Preferences.Proofs.Readers
import Preferences.Snapshot.Write
import Preferences.Toml.Document

/-! Strings that read back as themselves, in whichever notation they are written. -/

namespace Preferences.Snapshot

open Preferences.Number Preferences.Toml Preferences.Toml.Reader

/-! ### Escapes -/

theorem isPlainChar_of_not_control {c : Char} (hcontrol : isControl c = false) (hline : c ≠ '\n') :
    isPlainChar c = true := by
  simp only [isControl, isPlainChar, Bool.or_eq_false_iff, Bool.and_eq_false_imp,
    decide_eq_true_eq, decide_eq_false_iff_not, Bool.or_eq_true, Bool.and_eq_true] at *
  obtain ⟨hlow, hdelete⟩ := hcontrol
  by_cases htab : c = '\t'
  · exact .inl htab
  · refine .inr ⟨Char.not_lt.1 fun hlt => ?_, hdelete⟩
    simp_all

/-- Whether the four digits in an escape by code point mean the code point. -/
def hasFourDigits (code : Nat) : Bool :=
  let digits := (Nat.toDigits 16 code).map Char.toUpper
  let padded := List.replicate (4 - digits.length) '0' ++ digits
  padded.length == 4 && padded.all (isDigitOf 16) && ofDigits 16 padded == code

theorem hasFourDigits_of_isControl {c : Char} (hcontrol : isControl c = true) :
    hasFourDigits c.toNat = true := by
  have hlow : (List.range 32).all hasFourDigits = true := by decide
  have hdelete : hasFourDigits 127 = true := by decide
  simp only [isControl, Bool.or_eq_true, Bool.and_eq_true, decide_eq_true_eq] at hcontrol
  rcases hcontrol with ⟨⟨hlt, -⟩, -⟩ | rfl
  · exact List.all_eq_true.1 hlow c.toNat (List.mem_range.2 (Char.lt_def.1 hlt))
  · exact hdelete

theorem reads_codePointEscape {c : Char} (hcontrol : isControl c = true) (rest : List Char) :
    Reads escape (codePointEscape c) rest (Eq c) := by
  have hfour := hasFourDigits_of_isControl hcontrol
  simp only [hasFourDigits, Bool.and_eq_true, beq_iff_eq, List.all_eq_true] at hfour
  obtain ⟨⟨hlength, hdigits⟩, hcode⟩ := hfour
  refine (Reads.char '\\').next_step ((Reads.next rfl).next_step ?_)
  refine (Reads.exactly hdigits hlength).last_step ?_
  rintro _ rfl
  have hvalid : c.toNat.isValidChar := c.valid
  rw [hcode]
  simp only [hvalid, if_true, Char.ofNat_toNat]
  exact .pure rfl

/-- The two forms of an escaped character. One that stands for itself is plain, and an escape is
told from the end of a line by its second character. -/
theorem escaped_cases {c : Char} (hline : c ≠ '\n') :
    (escaped c = [c] ∧ isPlainChar c = true ∧ c ≠ '\\') ∨
      ∃ letter tail, escaped c = '\\' :: letter :: tail ∧ Toml.Reader.isBlank letter = false ∧
        letter ≠ '\n' ∧ letter ≠ '\r' := by
  unfold escaped
  split
  · exact .inr ⟨'b', [], rfl, by decide⟩
  · exact .inr ⟨'t', [], rfl, by decide⟩
  · exact .inr ⟨'f', [], rfl, by decide⟩
  · exact .inr ⟨'r', [], rfl, by decide⟩
  · exact .inr ⟨'\\', [], rfl, by decide⟩
  · rename_i hslash
    split
    · exact .inr ⟨'u', _, rfl, by decide⟩
    · rename_i hcontrol
      exact .inl ⟨rfl, isPlainChar_of_not_control (by simpa using hcontrol) hline, hslash⟩

theorem reads_escaped {c : Char} (hquote : c ≠ '"') (hline : c ≠ '\n') (rest : List Char) :
    Reads escapedChar (escaped c) rest (Eq c) := by
  unfold escaped
  split
  · exact fun _ => ⟨_, rfl, rfl⟩
  · exact fun _ => ⟨_, rfl, rfl⟩
  · exact fun _ => ⟨_, rfl, rfl⟩
  · exact fun _ => ⟨_, rfl, rfl⟩
  · exact fun _ => ⟨_, rfl, rfl⟩
  · rename_i hslash
    split
    · rename_i hcontrol
      exact Reads.orElse_right (Fails.next (stops_cons rfl)) (reads_codePointEscape hcontrol rest)
    · rename_i hcontrol
      have hplain := isPlainChar_of_not_control (by simpa using hcontrol) hline
      have hother : c ≠ '\\' := hslash
      exact Reads.orElse_left (Reads.next (by simp [hplain, hquote, hother]))

theorem head?_escaped {c : Char} (hquote : c ≠ '"') (hline : c ≠ '\n') :
    ∃ d tail, escaped c = d :: tail ∧ d ≠ '"' := by
  rcases escaped_cases hline with ⟨heq, -, -⟩ | ⟨letter, tail, heq, -⟩
  · exact ⟨c, [], heq, hquote⟩
  · exact ⟨_, _, heq, by decide⟩

/-! ### Strings on one line -/

/-- A character as it stands in a string on one line. -/
def lineItem (c : Char) : List Char :=
  if c = '"' then ['\\', '"'] else if c = '\n' then ['\\', 'n'] else escaped c

theorem lineChars_cons (c : Char) (cs : List Char) :
    lineChars (c :: cs) = lineItem c ++ lineChars cs := rfl

theorem reads_lineItem (c : Char) (rest : List Char) :
    Reads escapedChar (lineItem c) rest (Eq c) := by
  unfold lineItem
  split_ifs with hquote hline
  · rw [hquote]
    exact fun _ => ⟨_, rfl, rfl⟩
  · rw [hline]
    exact fun _ => ⟨_, rfl, rfl⟩
  · exact reads_escaped hquote hline rest

theorem head?_lineItem (c : Char) : ∃ d tail, lineItem c = d :: tail ∧ d ≠ '"' := by
  unfold lineItem
  split_ifs with hquote hline
  · exact ⟨_, _, rfl, by decide⟩
  · exact ⟨_, _, rfl, by decide⟩
  · exact head?_escaped hquote hline

theorem fails_escapedChar_quote (rest : List Char) : Fails escapedChar ('"' :: rest) :=
  fun _ => rfl

theorem readsEach_lineChars (cs rest : List Char) :
    ReadsEach escapedChar Eq ('"' :: rest) (lineChars cs) cs := by
  induction cs with
  | nil => exact .nil (fails_escapedChar_quote rest)
  | cons c cs ih =>
    obtain ⟨d, tail, heq, -⟩ := head?_lineItem c
    rw [lineChars_cons]
    exact .cons (by simp [heq]) (reads_lineItem c _) ih

theorem toList_lineString (cs : List Char) :
    (lineString cs).toList = ['"'] ++ (lineChars cs ++ ['"']) := by
  simp [lineString]

theorem reads_lineString (cs rest : List Char) :
    Reads (Toml.lineString '"' escapedChar) (lineString cs).toList rest
      (Eq (String.ofList cs)) := by
  rw [toList_lineString]
  refine (Reads.char '"').next_step ((readsEach_lineChars cs rest).many_eq.next_step ?_)
  exact (Reads.char '"').last_step fun _ _ => .pure rfl

/-- A string without escapes on one line. -/
def isLiteral (cs : List Char) : Prop := ∀ c ∈ cs, isPlainChar c = true ∧ c ≠ '\''

theorem readsEach_literal {cs : List Char} (hcs : isLiteral cs) (rest : List Char) :
    ReadsEach literalChar Eq ('\'' :: rest) cs cs := by
  induction cs with
  | nil => exact .nil (Fails.next (stops_cons rfl))
  | cons c cs ih =>
    obtain ⟨hplain, hquote⟩ := hcs c List.mem_cons_self
    have htail := ih fun d hd => hcs d (List.mem_cons_of_mem c hd)
    exact .cons (List.cons_ne_nil c []) (Reads.next (by simp [hplain, hquote])) htail

theorem toList_literalString (cs : List Char) :
    (literalString cs).toList = ['\''] ++ (cs ++ ['\'']) := by
  simp [literalString]

theorem reads_literalString {cs : List Char} (hcs : isLiteral cs) (rest : List Char) :
    Reads (Toml.lineString '\'' literalChar) (literalString cs).toList rest
      (Eq (String.ofList cs)) := by
  rw [toList_literalString]
  refine (Reads.char '\'').next_step ((readsEach_literal hcs rest).many_eq.next_step ?_)
  exact (Reads.char '\'').last_step fun _ _ => .pure rfl

end Preferences.Snapshot
