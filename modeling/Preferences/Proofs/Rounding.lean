import Mathlib.Algebra.Order.Field.Power
import Mathlib.Data.Rat.Cast.Order
import Mathlib.Tactic.FieldSimp
import Mathlib.Tactic.Linarith
import Mathlib.Tactic.Ring
import Preferences.Number.Decimal

/-! Rounding to a binary format. A magnitude covers the numbers that are nearer to it than to any
other one of its format, halves to the even one, and a quotient is rounded to the magnitude that
covers it. -/

namespace Preferences.Number

/-! ### Values -/

def Magnitude.value (x : Magnitude) : ℚ := x.significand * 2 ^ x.exponent

def Decimal.value (d : Decimal) : ℚ := d.digits * 10 ^ d.exponent

/-- A power with a whole exponent as the quotient of two powers, of which one is that of zero. -/
theorem zpow_eq_div (base : ℕ) (hbase : 0 < base) (k : ℤ) :
    (base : ℚ) ^ k = ((Nat.pow base k.toNat : ℕ) : ℚ) / ((Nat.pow base (-k).toNat : ℕ) : ℚ) := by
  have hne : (base : ℚ) ≠ 0 := by positivity
  rcases le_total 0 k with hk | hk
  · have hneg : (-k).toNat = 0 := by omega
    obtain ⟨n, rfl⟩ := Int.eq_ofNat_of_zero_le hk
    rw [hneg]
    simp
  · have hpos : k.toNat = 0 := by omega
    obtain ⟨n, hn⟩ := Int.eq_ofNat_of_zero_le (Int.neg_nonneg_of_nonpos hk)
    obtain rfl : k = -(n : ℤ) := by omega
    rw [hpos]
    simp

/-- A multiple of a power with a whole exponent as the quotient of two whole numbers. -/
theorem mul_zpow_eq_div (base : ℕ) (hbase : 0 < base) (n : ℕ) (k : ℤ) :
    (n : ℚ) * (base : ℚ) ^ k =
      ((n * Nat.pow base k.toNat : ℕ) : ℚ) / ((Nat.pow base (-k).toNat : ℕ) : ℚ) := by
  rw [zpow_eq_div base hbase, Nat.cast_mul, mul_div_assoc]

theorem two_zpow_pos (k : ℤ) : (0 : ℚ) < 2 ^ k := zpow_pos (by norm_num) k

theorem two_zpow_lt {j k : ℤ} : (2 : ℚ) ^ j < 2 ^ k ↔ j < k :=
  zpow_lt_zpow_iff_right₀ (by norm_num)

theorem two_zpow_le {j k : ℤ} : (2 : ℚ) ^ j ≤ 2 ^ k ↔ j ≤ k :=
  zpow_le_zpow_iff_right₀ (by norm_num)

theorem two_zpow_add (j k : ℤ) : (2 : ℚ) ^ (j + k) = 2 ^ j * 2 ^ k := zpow_add₀ (by norm_num) j k

/-- A quotient over a power of two, without fractions. -/
theorem scaled_eq (num den : ℕ) (k : ℤ) :
    ((num * Nat.pow 2 (-k).toNat : ℕ) : ℚ) / ((den * Nat.pow 2 k.toNat : ℕ) : ℚ) =
      (num : ℚ) / den / 2 ^ k := by
  have hpow := zpow_eq_div 2 (by norm_num) k
  push_cast at hpow ⊢
  rw [hpow]
  field_simp

theorem scaled_den_pos {den : ℕ} (hden : 0 < den) (k : ℤ) : 0 < den * Nat.pow 2 k.toNat :=
  Nat.mul_pos hden (Nat.pow_pos (by norm_num))

/-! ### Exponents -/

theorem two_zpow_log2_le {n : ℕ} (hn : 0 < n) : (2 : ℚ) ^ (n.log2 : ℤ) ≤ n := by
  rw [zpow_natCast]
  exact_mod_cast Nat.log2_self_le hn.ne'

theorem lt_two_zpow_log2 (n : ℕ) : (n : ℚ) < 2 ^ (n.log2 + 1 : ℤ) := by
  have h : n < 2 ^ (n.log2 + 1) := Nat.lt_log2_self
  have hcast : (n : ℚ) < ((2 ^ (n.log2 + 1) : ℕ) : ℚ) := by exact_mod_cast h
  rw [← Nat.cast_succ, zpow_natCast]
  exact_mod_cast hcast

/-- A quotient lies between the powers of two that the lengths of its parts give. -/
theorem quotient_bounds {num den : ℕ} (hnum : 0 < num) (hden : 0 < den) :
    (2 : ℚ) ^ ((num.log2 : ℤ) - den.log2 - 1) ≤ (num : ℚ) / den ∧
      (num : ℚ) / den < 2 ^ ((num.log2 : ℤ) - den.log2 + 1) := by
  have hden' : (0 : ℚ) < den := by exact_mod_cast hden
  constructor
  · rw [le_div_iff₀ hden']
    calc (2 : ℚ) ^ ((num.log2 : ℤ) - den.log2 - 1) * den
        ≤ 2 ^ ((num.log2 : ℤ) - den.log2 - 1) * 2 ^ (den.log2 + 1 : ℤ) :=
          mul_le_mul_of_nonneg_left (lt_two_zpow_log2 den).le (two_zpow_pos _).le
      _ = 2 ^ (num.log2 : ℤ) := by
          rw [← two_zpow_add]
          congr 1
          ring
      _ ≤ num := two_zpow_log2_le hnum
  · rw [div_lt_iff₀ hden']
    calc (num : ℚ) < 2 ^ (num.log2 + 1 : ℤ) := lt_two_zpow_log2 num
      _ = 2 ^ ((num.log2 : ℤ) - den.log2 + 1) * 2 ^ (den.log2 : ℤ) := by
          rw [← two_zpow_add]
          congr 1
          ring
      _ ≤ 2 ^ ((num.log2 : ℤ) - den.log2 + 1) * den :=
          mul_le_mul_of_nonneg_left (two_zpow_log2_le hden) (two_zpow_pos _).le

namespace Format

variable (format : Format)

/-- A whole part is short of the bits of a format just if the quotient is. -/
theorem scaled_lt_iff (num : ℕ) {den : ℕ} (hden : 0 < den) (k : ℤ) :
    num * Nat.pow 2 (-k).toNat / (den * Nat.pow 2 k.toNat) < Nat.pow 2 format.bits ↔
      (num : ℚ) / den < 2 ^ (format.bits + k) := by
  have hden' := scaled_den_pos hden k
  have hpos : (0 : ℚ) < ((den * Nat.pow 2 k.toNat : ℕ) : ℚ) := by exact_mod_cast hden'
  rw [Nat.div_lt_iff_lt_mul hden', ← Nat.cast_lt (α := ℚ), Nat.cast_mul (Nat.pow 2 format.bits),
    ← div_lt_iff₀ hpos, scaled_eq, div_lt_iff₀ (two_zpow_pos k), two_zpow_add, zpow_natCast]
  simp

/-- The exponent of a quotient: with it the significand has at most the bits of the format, and all
of them unless it is the least one. -/
theorem exponentOf_spec {num den : ℕ} (hnum : 0 < num) (hden : 0 < den) :
    format.least ≤ format.exponentOf num den ∧
      (num : ℚ) / den < 2 ^ (format.bits + format.exponentOf num den) ∧
      (format.exponentOf num den = format.least ∨
        2 ^ (format.bits + format.exponentOf num den - 1) ≤ (num : ℚ) / den) := by
  obtain ⟨hlow, hhigh⟩ := quotient_bounds hnum hden
  unfold exponentOf
  set guess := max format.least ((num.log2 : Int) - den.log2 - format.bits) with hguess
  have hleast : format.least ≤ guess := le_max_left _ _
  have hlog : (num.log2 : Int) - den.log2 - format.bits ≤ guess := le_max_right _ _
  have hiff := format.scaled_lt_iff num hden guess
  by_cases hlt : num * Nat.pow 2 (-guess).toNat / (den * Nat.pow 2 guess.toNat) <
      Nat.pow 2 format.bits
  · simp only [hlt, if_true]
    refine ⟨hleast, hiff.1 hlt, ?_⟩
    rcases max_choice format.least ((num.log2 : Int) - den.log2 - format.bits) with hmax | hmax
    · exact .inl (hguess.trans hmax)
    · refine .inr (le_trans (two_zpow_le.2 ?_) hlow)
      rw [hguess, hmax]
      omega
  · simp only [hlt, if_false]
    refine ⟨by omega, lt_of_lt_of_le hhigh (two_zpow_le.2 (by omega)), .inr ?_⟩
    rw [show (format.bits : ℤ) + (guess + 1) - 1 = format.bits + guess by ring]
    exact le_of_not_gt (mt hiff.2 hlt)

end Format

/-! ### Significands -/

/-- The bounds of a rounded quotient without fractions. -/
theorem roundedQuotient_of_bounds {num den n : ℕ} (hden : 0 < den)
    (hlow : 2 * (n * den) ≤ 2 * num + den) (hhigh : 2 * num ≤ 2 * (n * den) + den)
    (hodd : n % 2 = 1 → 2 * (n * den) < 2 * num + den ∧ 2 * num < 2 * (n * den) + den) :
    roundedQuotient num den = n := by
  have hsplit : num = num / den * den + num % den := (Nat.div_add_mod' num den).symm
  have hrest : num % den < den := Nat.mod_lt num hden
  unfold roundedQuotient
  generalize num / den = quotient at hsplit ⊢
  generalize num % den = rest at hsplit hrest ⊢
  have hle : quotient ≤ n := by
    by_contra hgt
    have : (n + 1) * den ≤ quotient * den := Nat.mul_le_mul_right den (by omega)
    rw [Nat.add_mul] at this
    omega
  have hge : n ≤ quotient + 1 := by
    by_contra hlt
    have : (quotient + 2) * den ≤ n * den := Nat.mul_le_mul_right den (by omega)
    rw [Nat.add_mul] at this
    omega
  obtain rfl | rfl : n = quotient ∨ n = quotient + 1 := by omega
  · grind
  · rw [Nat.add_mul, Nat.one_mul] at hlow hhigh hodd
    grind

/-- A quotient is rounded to the whole number that is no further than a half away, and exactly a
half only if it is even. -/
theorem roundedQuotient_eq {num den n : ℕ} (hden : 0 < den)
    (hlow : (n : ℚ) - 1 / 2 ≤ (num : ℚ) / den) (hhigh : (num : ℚ) / den ≤ n + 1 / 2)
    (hodd : n % 2 = 1 → (n : ℚ) - 1 / 2 < (num : ℚ) / den ∧ (num : ℚ) / den < n + 1 / 2) :
    roundedQuotient num den = n := by
  have hden' : (0 : ℚ) < den := by exact_mod_cast hden
  rw [le_div_iff₀ hden'] at hlow
  rw [div_le_iff₀ hden'] at hhigh
  rw [lt_div_iff₀ hden', div_lt_iff₀ hden'] at hodd
  refine roundedQuotient_of_bounds hden ?_ ?_ fun hn => ?_
  · have : (2 : ℚ) * (n * den) ≤ 2 * num + den := by linarith
    exact_mod_cast this
  · have : (2 : ℚ) * num ≤ 2 * (n * den) + den := by linarith
    exact_mod_cast this
  · obtain ⟨hlt, hgt⟩ := hodd hn
    have hlt' : (2 : ℚ) * (n * den) < 2 * num + den := by linarith
    have hgt' : (2 : ℚ) * num < 2 * (n * den) + den := by linarith
    exact ⟨by exact_mod_cast hlt', by exact_mod_cast hgt'⟩

/-! ### Rounding -/

/-- A magnitude of a format: its significand has no more bits than the format, and all of them
unless its exponent is the least one. -/
structure Format.Holds (format : Format) (x : Magnitude) : Prop where
  lt : x.significand < 2 ^ format.bits
  least : format.least ≤ x.exponent
  greatest : x.exponent ≤ format.greatest
  full : 2 ^ (format.bits - 1) ≤ x.significand ∨ x.exponent = format.least

/-- The distance from a magnitude to where the numbers below it begin, in quarters of its last
place. -/
def Format.reach (format : Format) (x : Magnitude) : ℚ :=
  if isLowestOfBinade format x then 1 / 4 else 1 / 2

/-- The numbers that a magnitude of a format stands for, in units of its last place. -/
structure Format.Covers (format : Format) (x : Magnitude) (q : ℚ) : Prop where
  low : x.significand - format.reach x ≤ q / 2 ^ x.exponent
  high : q / 2 ^ x.exponent ≤ x.significand + 1 / 2
  odd : x.significand % 2 = 1 →
    x.significand - format.reach x < q / 2 ^ x.exponent ∧
      q / 2 ^ x.exponent < x.significand + 1 / 2

namespace Format

variable {format : Format} {x : Magnitude}

theorem reach_pos (format : Format) (x : Magnitude) : 0 < format.reach x := by
  unfold reach
  split <;> norm_num

theorem reach_le (format : Format) (x : Magnitude) : format.reach x ≤ 1 / 2 := by
  unfold reach
  split <;> norm_num

/-- A magnitude covers its own value. -/
theorem covers_value (format : Format) (x : Magnitude) : format.Covers x x.value := by
  have hself : x.value / 2 ^ x.exponent = x.significand :=
    mul_div_cancel_right₀ _ (two_zpow_pos x.exponent).ne'
  have hreach := format.reach_pos x
  constructor
  · rw [hself]
    linarith
  · rw [hself]
    linarith
  · intro _
    rw [hself]
    constructor <;> linarith

theorem Covers.lt_two_zpow {q : ℚ} (hx : format.Holds x) (hq : format.Covers x q) :
    q < 2 ^ (format.bits + x.exponent) := by
  have hlt : (x.significand : ℚ) + 1 ≤ 2 ^ format.bits := by exact_mod_cast hx.lt
  have hhigh := hq.high
  rw [two_zpow_add, zpow_natCast, ← div_lt_iff₀ (two_zpow_pos x.exponent)]
  linarith

/-- What a magnitude with all bits covers, in terms of the power of two below it. Only the least of
such magnitudes reaches below that power. -/
theorem Covers.two_zpow_le {q : ℚ} (hq : format.Covers x q) (hleast : format.least < x.exponent)
    (hfull : 2 ^ (format.bits - 1) ≤ x.significand) :
    (2 ^ (format.bits - 1) - 1 / 4) * 2 ^ x.exponent ≤ q ∧
      (x.significand ≠ 2 ^ (format.bits - 1) → 2 ^ (format.bits - 1) * 2 ^ x.exponent ≤ q) := by
  have hlow := hq.low
  have hpos := two_zpow_pos x.exponent
  rw [← le_div_iff₀ hpos, ← le_div_iff₀ hpos]
  by_cases heq : x.significand = 2 ^ (format.bits - 1)
  · have hlowest : isLowestOfBinade format x = true := by
      have heq' : x.significand = Nat.pow 2 (format.bits - 1) := heq
      simp [isLowestOfBinade, heq', hleast]
    have hcast : (x.significand : ℚ) = 2 ^ (format.bits - 1) := by exact_mod_cast heq
    rw [reach, if_pos hlowest, hcast] at hlow
    exact ⟨hlow, fun hne => absurd heq hne⟩
  · have hgt : 2 ^ (format.bits - 1) + 1 ≤ x.significand := by omega
    have hcast : (2 : ℚ) ^ (format.bits - 1) + 1 ≤ x.significand := by exact_mod_cast hgt
    have hreach := format.reach_le x
    constructor
    · linarith
    · intro _
      linarith

section Round

variable {num den : ℕ} (hbits : 2 ≤ format.bits) (hnum : 0 < num) (hden : 0 < den)
  (hx : format.Holds x) (hq : format.Covers x ((num : ℚ) / den))

include hbits hnum hden hx hq

/-- The exponent of a quotient is that of the magnitude that covers it, unless the magnitude is the
least one with its exponent and the quotient is below it. -/
theorem exponentOf_cases :
    format.exponentOf num den = x.exponent ∨
      (format.exponentOf num den = x.exponent - 1 ∧ format.least < x.exponent ∧
        x.significand = 2 ^ (format.bits - 1)) := by
  obtain ⟨hleast, hlt, hfull⟩ := format.exponentOf_spec hnum hden
  have hle : format.exponentOf num den ≤ x.exponent := by
    rcases hfull with heq | hfull
    · exact heq ▸ hx.least
    · have := two_zpow_lt.1 (hfull.trans_lt (hq.lt_two_zpow hx))
      omega
  rcases eq_or_lt_of_le hle with heq | hless
  · exact .inl heq
  · have habove : format.least < x.exponent := by omega
    obtain ⟨hlow, hstrict⟩ := hq.two_zpow_le habove (hx.full.resolve_right (by omega))
    obtain ⟨b, hb⟩ : ∃ b, format.bits - 1 = b + 1 := ⟨format.bits - 2, by omega⟩
    rw [hb] at hlow hstrict ⊢
    have hnext : x.exponent - 1 ≤ format.exponentOf num den := by
      have hpow : (2 : ℚ) ^ (b + x.exponent : ℤ) ≤ (num : ℚ) / den := by
        refine le_trans ?_ hlow
        rw [two_zpow_add, zpow_natCast]
        refine mul_le_mul_of_nonneg_right ?_ (two_zpow_pos _).le
        have : (1 : ℚ) ≤ 2 ^ b := one_le_pow₀ (by norm_num)
        rw [pow_succ]
        linarith
      have := two_zpow_lt.1 (hpow.trans_lt hlt)
      omega
    refine .inr ⟨by omega, habove, ?_⟩
    by_contra hne
    have hpow := (hstrict hne).trans_lt hlt
    rw [← zpow_natCast, ← two_zpow_add, two_zpow_lt] at hpow
    push_cast at hpow
    omega

omit hbits hnum hx in
theorem roundedQuotient_at_exponent :
    roundedQuotient (num * Nat.pow 2 (-x.exponent).toNat) (den * Nat.pow 2 x.exponent.toNat) =
      x.significand := by
  have hlow := hq.low
  have hreach := format.reach_le x
  apply roundedQuotient_eq (scaled_den_pos hden x.exponent) <;> rw [scaled_eq]
  · linarith
  · exact hq.high
  · intro hodd
    obtain ⟨hlow, hhigh⟩ := hq.odd hodd
    exact ⟨by linarith, hhigh⟩

omit hx in
/-- With the exponent before, a quotient below the least magnitude of an exponent is rounded up to
one bit more than there is room for. -/
theorem roundedQuotient_before_exponent (hbefore : format.exponentOf num den = x.exponent - 1)
    (hleast : format.least < x.exponent) (hlowest : x.significand = 2 ^ (format.bits - 1)) :
    roundedQuotient (num * Nat.pow 2 (-(x.exponent - 1)).toNat)
      (den * Nat.pow 2 (x.exponent - 1).toNat) = 2 ^ format.bits := by
  obtain ⟨b, hb⟩ : ∃ b, format.bits = b + 1 := ⟨format.bits - 1, by omega⟩
  have hpos := two_zpow_pos (x.exponent - 1)
  have hlow := (hq.two_zpow_le hleast hlowest.ge).1
  have hlt := (format.exponentOf_spec hnum hden).2.1
  rw [show x.exponent = 1 + (x.exponent - 1) by omega, two_zpow_add, zpow_one,
    show format.bits - 1 = b by omega] at hlow
  rw [hbefore, two_zpow_add, zpow_natCast] at hlt
  apply roundedQuotient_eq (scaled_den_pos hden _) <;> rw [scaled_eq]
  · rw [le_div_iff₀ hpos]
    push_cast
    rw [hb, pow_succ]
    linarith
  · rw [div_le_iff₀ hpos]
    push_cast
    linarith
  · have heven : 2 ^ format.bits % 2 = 0 := by
      rw [hb, pow_succ]
      omega
    omega

/-- A quotient is rounded to the magnitude that covers it. -/
theorem round_eq : format.round num den = some x := by
  have hshort : x.significand < Nat.pow 2 format.bits := hx.lt
  rcases exponentOf_cases hbits hnum hden hx hq with hsame | ⟨hbefore, hleast, hlowest⟩
  · have hsignificand := roundedQuotient_at_exponent hden hq
    simp only [round, hsame, hsignificand, hshort, if_true, hx.greatest]
  · have hsignificand := roundedQuotient_before_exponent hbits hnum hden hq hbefore hleast hlowest
    have hlong : ¬ 2 ^ format.bits < Nat.pow 2 format.bits := Nat.lt_irrefl _
    have hx' : (⟨Nat.pow 2 (format.bits - 1), x.exponent - 1 + 1⟩ : Magnitude) = x := by
      rw [Int.sub_add_cancel]
      exact congrArg (Magnitude.mk · x.exponent) hlowest.symm
    simp only [round, hbefore, hsignificand, if_neg hlong, hx', hx.greatest, if_true]

end Round

/-! ### Rounding magnitudes -/

/-- Another spelling of a magnitude of the format is rounded to the magnitude. -/
theorem roundMagnitude_eq {y : Magnitude} (hbits : 2 ≤ format.bits) (hx : format.Holds x)
    (hpos : 0 < y.significand) (hvalue : y.value = x.value) :
    format.roundMagnitude y = some x := by
  have hnum : 0 < y.significand * Nat.pow 2 y.exponent.toNat :=
    Nat.mul_pos hpos (Nat.pow_pos (by norm_num))
  have hden : 0 < Nat.pow 2 (-y.exponent).toNat := Nat.pow_pos (by norm_num)
  refine round_eq hbits hnum hden hx ?_
  have hquotient := mul_zpow_eq_div 2 (by norm_num) y.significand y.exponent
  rw [Nat.cast_ofNat] at hquotient
  change (y.significand : ℚ) * 2 ^ y.exponent = x.value at hvalue
  have hcovers := format.covers_value x
  rwa [← hvalue, hquotient] at hcovers

theorem exponentOf_zero (format : Format) (den : ℕ) :
    format.exponentOf 0 den = max format.least (-(den.log2 : ℤ) - format.bits) := by
  simp [exponentOf]

theorem roundedQuotient_zero {den : ℕ} (hden : 0 < den) : roundedQuotient 0 den = 0 := by
  simp [roundedQuotient, hden]

theorem roundMagnitude_zero (format : Format) (e : ℤ)
    (hgreatest : max format.least (-((-e).toNat : ℤ) - format.bits) ≤ format.greatest) :
    format.roundMagnitude ⟨0, e⟩ =
      some ⟨0, max format.least (-((-e).toNat : ℤ) - format.bits)⟩ := by
  have hshort : 0 < Nat.pow 2 format.bits := Nat.pow_pos (by norm_num)
  have hden : 0 < Nat.pow 2 (-e).toNat := Nat.pow_pos (by norm_num)
  have hlog : (Nat.pow 2 (-e).toNat).log2 = (-e).toNat := Nat.log2_two_pow
  simp only [roundMagnitude, round, Nat.zero_mul, exponentOf_zero, hlog,
    roundedQuotient_zero (scaled_den_pos hden _), hshort, if_true, hgreatest]

end Format

end Preferences.Number
