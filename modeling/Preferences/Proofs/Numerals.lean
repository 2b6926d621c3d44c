import Mathlib.Tactic.IntervalCases
import Preferences.Number.Digits
import Preferences.Proofs.Widening

/-! Numbers in positional notation. The digits of a text mean the number that the text is made
from. -/

namespace Preferences.Number

/-! ### Digits -/

def AllDigits (cs : List Char) : Prop := ∀ c ∈ cs, c.isDigit = true

theorem AllDigits.append {cs ds : List Char} (hcs : AllDigits cs) (hds : AllDigits ds) :
    AllDigits (cs ++ ds) := fun c hc => (List.mem_append.1 hc).elim (hcs c) (hds c)

theorem allDigits_toDigits (n : ℕ) : AllDigits (Nat.toDigits 10 n) :=
  fun _ hc => Nat.isDigit_of_mem_toDigits (by decide) (by decide) hc

theorem allDigits_zeros (n : ℕ) : AllDigits (List.replicate n '0') := by
  intro c hc
  rw [List.eq_of_mem_replicate hc]
  rfl

theorem digitValue_lt {c : Char} (h : c.isDigit = true) : digitValue c < 10 := by
  rw [digitValue, if_pos h]
  simp only [Char.isDigit, Bool.and_eq_true, decide_eq_true_eq] at h
  have hhigh : c.toNat ≤ 57 := h.2
  show c.toNat - 48 < 10
  omega

theorem isDigitOf_ten {c : Char} (h : c.isDigit = true) : isDigitOf 10 c = true := by
  simp [isDigitOf, h, digitValue_lt h]

theorem ofDigits_eq {cs : List Char} (h : AllDigits cs) :
    ofDigits 10 cs = Nat.ofDigitChars 10 cs 0 := by
  have hgeneral (n : ℕ) : cs.foldl (fun n c => 10 * n + digitValue c) n =
      Nat.ofDigitChars 10 cs n := by
    induction cs generalizing n with
    | nil => rfl
    | cons c cs ih =>
      have hc : digitValue c = c.toNat - '0'.toNat := if_pos (h c List.mem_cons_self)
      have htail : AllDigits cs := fun d hd => h d (List.mem_cons_of_mem c hd)
      rw [List.foldl_cons, Nat.ofDigitChars_cons, ih htail, hc]
  exact hgeneral 0

theorem ofDigits_toDigits (n : ℕ) : ofDigits 10 (Nat.toDigits 10 n) = n := by
  rw [ofDigits_eq (allDigits_toDigits n), Nat.ofDigitChars_ten_toDigits]

/-- Zeros in front do not count. -/
theorem ofDigits_zeros_append (count n : ℕ) :
    ofDigits 10 (List.replicate count '0' ++ Nat.toDigits 10 n) = n := by
  rw [ofDigits_eq ((allDigits_zeros count).append (allDigits_toDigits n)), Nat.ofDigitChars_append,
    Nat.ofDigitChars_replicate_zero, Nat.mul_zero, Nat.ofDigitChars_ten_toDigits]

theorem ofDigits_append_zeros (count n : ℕ) :
    ofDigits 10 (Nat.toDigits 10 n ++ List.replicate count '0') = 10 ^ count * n := by
  rw [ofDigits_eq ((allDigits_toDigits n).append (allDigits_zeros count)), Nat.ofDigitChars_append,
    Nat.ofDigitChars_ten_toDigits, Nat.ofDigitChars_replicate_zero]

theorem head?_toDigits {n : ℕ} (hpos : 0 < n) : (Nat.toDigits 10 n).head? ≠ some '0' := by
  induction n using Nat.strong_induction_on with
  | _ n ih =>
    by_cases hlt : n < 10
    · rw [Nat.toDigits_of_lt_base hlt]
      simp [hpos.ne']
    · have hhead := ih (n / 10) (by omega) (by omega)
      rw [Nat.toDigits_of_base_le (by decide) (by omega), List.head?_append]
      cases hdigits : Nat.toDigits 10 (n / 10) with
      | nil => exact absurd hdigits Nat.toDigits_ne_nil
      | cons c cs =>
        rw [hdigits] at hhead
        simpa using hhead

/-! ### Whole numbers -/

/-- The digits of a whole number, of which no zero is the first of several. -/
structure IsWhole (cs : List Char) : Prop where
  digits : AllDigits cs
  lead : cs = ['0'] ∨ cs ≠ [] ∧ cs.head? ≠ some '0'

theorem IsWhole.exists_cons {cs : List Char} (h : IsWhole cs) :
    ∃ c tail, cs = c :: tail ∧ c.isDigit = true := by
  have hne : cs ≠ [] := by
    rcases h.lead with rfl | ⟨hne, -⟩
    · exact List.cons_ne_nil '0' []
    · exact hne
  obtain ⟨c, tail, rfl⟩ := List.exists_cons_of_ne_nil hne
  exact ⟨c, tail, rfl, h.digits c List.mem_cons_self⟩

theorem isWhole_toDigits (n : ℕ) : IsWhole (Nat.toDigits 10 n) := by
  refine ⟨allDigits_toDigits n, ?_⟩
  rcases Nat.eq_zero_or_pos n with rfl | hpos
  · exact .inl (Nat.toDigits_zero 10)
  · exact .inr ⟨Nat.toDigits_ne_nil, head?_toDigits hpos⟩

/-! ### Decimals -/

/-- The digits before and behind the point of a decimal. -/
structure Positional (d : Decimal) (before behind : List Char) : Prop where
  whole : IsWhole before
  digits : AllDigits behind
  value : (⟨ofDigits 10 (before ++ behind), -behind.length⟩ : Decimal).value = d.value

/-- A decimal without a point has only a zero behind it. -/
theorem Decimal.text_whole {d : Decimal} (h : 0 ≤ d.exponent) :
    Positional d d.text.toList ['0'] := by
  obtain ⟨n, k⟩ := d
  obtain ⟨count, rfl⟩ := Int.eq_ofNat_of_zero_le h
  have htext : (Decimal.mk n count).text.toList =
      Nat.toDigits 10 n ++ List.replicate (if n = 0 then 0 else count) '0' := by
    simp [Decimal.text]
  rw [htext]
  refine ⟨?_, allDigits_zeros 1, ?_⟩
  · rcases Nat.eq_zero_or_pos n with rfl | hpos
    · simpa using isWhole_toDigits 0
    · refine ⟨(allDigits_toDigits n).append (allDigits_zeros _), .inr ⟨by simp, ?_⟩⟩
      have hhead := head?_toDigits hpos
      rw [List.head?_append]
      cases hdigits : Nat.toDigits 10 n with
      | nil => exact absurd hdigits Nat.toDigits_ne_nil
      | cons c cs =>
        rw [hdigits] at hhead
        simpa using hhead
  · have happend (m : ℕ) : Nat.toDigits 10 n ++ List.replicate m '0' ++ ['0'] =
        Nat.toDigits 10 n ++ List.replicate (m + 1) '0' := by
      rw [List.replicate_succ', List.append_assoc]
    rw [happend, ofDigits_append_zeros]
    rcases Nat.eq_zero_or_pos n with rfl | hpos
    · simp [Decimal.value]
    · have hten : (10 : ℚ) ^ (-1 : ℤ) = 1 / 10 := by norm_num
      rw [if_neg hpos.ne']
      simp only [Decimal.value, List.length_singleton, Nat.cast_one, hten, zpow_natCast]
      push_cast
      ring

/-- Digits with as many zeros in front as it takes for one digit before the point. -/
def padded (n places : ℕ) : List Char :=
  List.replicate (places + 1 - (Nat.toDigits 10 n).length) '0' ++ Nat.toDigits 10 n

theorem length_padded (n places : ℕ) :
    (padded n places).length = max (places + 1) (Nat.toDigits 10 n).length := by
  rw [padded, List.length_append, List.length_replicate]
  omega

theorem allDigits_padded (n places : ℕ) : AllDigits (padded n places) :=
  (allDigits_zeros _).append (allDigits_toDigits n)

theorem isWhole_take_padded (n : ℕ) {places : ℕ} (hpos : 0 < places) :
    IsWhole ((padded n places).take ((padded n places).length - places)) := by
  refine ⟨fun c hc => allDigits_padded n places c (List.mem_of_mem_take hc), ?_⟩
  rw [length_padded]
  by_cases hshort : (Nat.toDigits 10 n).length ≤ places
  · left
    obtain ⟨zeros, hzeros⟩ : ∃ zeros, places + 1 - (Nat.toDigits 10 n).length = zeros + 1 :=
      ⟨places - (Nat.toDigits 10 n).length, by omega⟩
    rw [show max (places + 1) (Nat.toDigits 10 n).length - places = 1 by omega, padded, hzeros,
      List.replicate_succ, List.cons_append, List.take_succ_cons, List.take_zero]
  · right
    have hnone : places + 1 - (Nat.toDigits 10 n).length = 0 := by omega
    have hwidth : max (places + 1) (Nat.toDigits 10 n).length - places ≠ 0 := by omega
    have hn : 0 < n := by
      by_contra hzero
      obtain rfl : n = 0 := by omega
      rw [Nat.toDigits_zero, List.length_singleton] at hshort
      omega
    rw [padded, hnone, List.replicate_zero, List.nil_append]
    refine ⟨fun hnil => ?_, ?_⟩
    · rw [List.take_eq_nil_iff] at hnil
      exact hnil.elim hwidth Nat.toDigits_ne_nil
    · rw [List.head?_take, if_neg hwidth]
      exact head?_toDigits hn

theorem Decimal.text_fraction {d : Decimal} (h : d.exponent < 0) :
    ∃ before behind, d.text.toList = before ++ '.' :: behind ∧ behind ≠ [] ∧
      Positional d before behind := by
  obtain ⟨n, k⟩ := d
  obtain ⟨places, hplaces⟩ := Int.eq_ofNat_of_zero_le (Int.neg_nonneg_of_nonpos h.le)
  simp only at h hplaces
  obtain rfl : k = -(places : ℤ) := by omega
  have hlength := length_padded n places
  refine ⟨(padded n places).take ((padded n places).length - places),
    (padded n places).drop ((padded n places).length - places), ?_, ?_,
    isWhole_take_padded n (by omega),
    fun c hc => allDigits_padded n places c (List.mem_of_mem_drop hc), ?_⟩
  · have hneg : ¬ 0 ≤ -(places : ℤ) := by omega
    simp only [Decimal.text, hneg, if_false, neg_neg, Int.toNat_natCast, String.toList_ofList]
    rfl
  · intro hnil
    have := congrArg List.length hnil
    rw [List.length_drop, List.length_nil] at this
    omega
  · rw [List.take_append_drop, List.length_drop, Nat.sub_sub_self (by omega), padded,
      ofDigits_zeros_append]

/-! ### Numbers of 64 bits -/

def signText (negative : Bool) : List Char := if negative then ['-'] else []

/-- A finite number is written with a point between digits that mean its shortest decimal. -/
theorem Double.pointText_finite (negative : Bool) (x : Magnitude) :
    ∃ before behind, (Double.finite negative x).pointText.toList =
        signText negative ++ (before ++ '.' :: behind) ∧ behind ≠ [] ∧
      Positional (shortest .double x) before behind := by
  have htext : (Double.finite negative x).text.toList =
      signText negative ++ (shortest .double x).text.toList := by
    cases negative <;> simp [Double.text, signText]
  rcases le_or_gt 0 (shortest .double x).exponent with hwhole | hfraction
  · have hposition := Decimal.text_whole hwhole
    refine ⟨_, ['0'], ?_, List.cons_ne_nil _ _, hposition⟩
    have hpoint : '.' ∉ signText negative ++ (shortest .double x).text.toList := by
      intro hmem
      rcases List.mem_append.1 hmem with hsign | hdigit
      · cases negative <;> simp [signText] at hsign
      · exact absurd (hposition.whole.digits _ hdigit) (by decide)
    simp [Double.pointText, Double.isFinite, String.contains_char_eq, htext, hpoint]
  · obtain ⟨before, behind, heq, hne, hposition⟩ := Decimal.text_fraction hfraction
    refine ⟨before, behind, ?_, hne, hposition⟩
    simp [Double.pointText, String.contains_char_eq, htext, heq]

end Preferences.Number
