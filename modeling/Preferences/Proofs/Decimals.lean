import Mathlib.Tactic.LinearCombination
import Preferences.Number.Binary32
import Preferences.Proofs.Rounding

/-! Shortest decimals. The decimal found for a magnitude is one that the magnitude covers, so that
reading it gives the magnitude again. -/

namespace Preferences.Number

/-! ### Grids -/

/-- Multiples of a power of two and of a power of ten, as multiples of one unit. -/
theorem exists_unit (j k : ℤ) : ∃ unit : ℚ, 0 < unit ∧
    (∀ a : ℕ, ((a * (Nat.pow 2 j.toNat * Nat.pow 10 (-k).toNat) : ℕ) : ℚ) = a * 2 ^ j * unit) ∧
    ∀ n : ℕ, ((n * (Nat.pow 10 k.toNat * Nat.pow 2 (-j).toNat) : ℕ) : ℚ) = n * 10 ^ k * unit := by
  have htwo := zpow_eq_div 2 (by norm_num) j
  have hten := zpow_eq_div 10 (by norm_num) k
  have hj : (0 : ℚ) < Nat.pow 2 (-j).toNat := by exact_mod_cast Nat.pow_pos (by norm_num)
  have hk : (0 : ℚ) < Nat.pow 10 (-k).toNat := by exact_mod_cast Nat.pow_pos (by norm_num)
  rw [Nat.cast_ofNat] at htwo hten
  refine ⟨_, mul_pos hj hk, fun a => ?_, fun n => ?_⟩
  · rw [htwo]
    push_cast
    field_simp
  · rw [hten]
    push_cast
    field_simp

/-! ### Multiples -/

section Multiples

variable {format : Format} {x : Magnitude}

theorem two_zpow_eq_quarters (e : ℤ) : (2 : ℚ) ^ e = 4 * 2 ^ (e - 2) := by
  rw [show e = 2 + (e - 2) by omega, two_zpow_add]
  norm_num

/-- The numbers that a magnitude covers, in units of a quarter of its last place. -/
theorem Format.covers_of_quarters {q : ℚ}
    (hlow : (4 * x.significand - 4 * format.reach x) * 2 ^ (x.exponent - 2) ≤ q)
    (hhigh : q ≤ (4 * x.significand + 2) * 2 ^ (x.exponent - 2))
    (hodd : x.significand % 2 = 1 →
      (4 * x.significand - 4 * format.reach x) * 2 ^ (x.exponent - 2) < q ∧
        q < (4 * x.significand + 2) * 2 ^ (x.exponent - 2)) : format.Covers x q := by
  have hpos := two_zpow_pos x.exponent
  have hquarter := two_zpow_eq_quarters x.exponent
  constructor
  · rw [le_div_iff₀ hpos, hquarter]
    linarith
  · rw [div_le_iff₀ hpos, hquarter]
    linarith
  · intro h
    obtain ⟨hlow, hhigh⟩ := hodd h
    rw [lt_div_iff₀ hpos, div_lt_iff₀ hpos, hquarter]
    constructor <;> linarith

theorem reach_eq (format : Format) (hpos : 0 < x.significand) :
    ((4 * x.significand - if isLowestOfBinade format x then 1 else 2 : ℕ) : ℚ) =
      4 * x.significand - 4 * format.reach x := by
  unfold Format.reach
  split <;> push_cast [Nat.cast_sub (show 1 ≤ 4 * x.significand by omega),
    Nat.cast_sub (show 2 ≤ 4 * x.significand by omega)] <;> norm_num

/-- A multiple is found only if the magnitude covers it. Here `scale` and `step` are the powers of
two and of ten in one unit. -/
theorem covers_of_inside {k : ℤ} {unit : ℚ} {scale step n : ℕ} (hpos : 0 < x.significand)
    (hunit : 0 < unit)
    (hscale : ∀ a : ℕ, ((a * scale : ℕ) : ℚ) = a * 2 ^ (x.exponent - 2) * unit)
    (hstep : ∀ n : ℕ, ((n * step : ℕ) : ℚ) = n * 10 ^ k * unit)
    (h : (if x.significand % 2 = 0 then
        (4 * x.significand - if isLowestOfBinade format x then 1 else 2) * scale ≤ n * step &&
          n * step ≤ (4 * x.significand + 2) * scale
      else
        (4 * x.significand - if isLowestOfBinade format x then 1 else 2) * scale < n * step &&
          n * step < (4 * x.significand + 2) * scale) = true) :
    format.Covers x (n * 10 ^ k) := by
  split at h
  · simp only [Bool.and_eq_true, decide_eq_true_eq] at h
    obtain ⟨hlow, hhigh⟩ := h
    rw [← Nat.cast_le (α := ℚ), hscale, hstep, mul_le_mul_iff_left₀ hunit] at hlow hhigh
    rw [reach_eq format hpos] at hlow
    exact Format.covers_of_quarters hlow (by exact_mod_cast hhigh) (by omega)
  · simp only [Bool.and_eq_true, decide_eq_true_eq] at h
    obtain ⟨hlow, hhigh⟩ := h
    rw [← Nat.cast_lt (α := ℚ), hscale, hstep, mul_lt_mul_iff_left₀ hunit] at hlow hhigh
    rw [reach_eq format hpos] at hlow
    have hhigh' : (n * 10 ^ k : ℚ) < (4 * x.significand + 2) * 2 ^ (x.exponent - 2) := by
      exact_mod_cast hhigh
    exact Format.covers_of_quarters hlow.le hhigh'.le fun _ => ⟨hlow, hhigh'⟩

theorem covers_of_multiple? {k : ℤ} {n : ℕ} (hpos : 0 < x.significand)
    (h : multiple? format x k = some n) : format.Covers x (n * 10 ^ k) := by
  obtain ⟨unit, hunit, hscale, hstep⟩ := exists_unit (x.exponent - 2) k
  unfold multiple? at h
  simp only at h
  split at h
  · rename_i hfirst hsecond
    split at h <;> cases h
    · exact covers_of_inside hpos hunit hscale hstep hfirst
    · exact covers_of_inside hpos hunit hscale hstep hsecond
  · rename_i hfirst _
    cases h
    exact covers_of_inside hpos hunit hscale hstep hfirst
  · rename_i _ hsecond
    cases h
    exact covers_of_inside hpos hunit hscale hstep hsecond
  · cases h

theorem scale_eq_step {k : ℤ} {unit : ℚ} {scale step n : ℕ}
    (hscale : ∀ a : ℕ, ((a * scale : ℕ) : ℚ) = a * 2 ^ (x.exponent - 2) * unit)
    (hstep : ∀ n : ℕ, ((n * step : ℕ) : ℚ) = n * 10 ^ k * unit)
    (hvalue : x.value = n * 10 ^ k) : 4 * x.significand * scale = n * step := by
  rw [← Nat.cast_inj (R := ℚ), hscale, hstep, ← hvalue, Magnitude.value,
    two_zpow_eq_quarters x.exponent]
  push_cast
  ring

/-- On a grid that has the magnitude itself there is a multiple. -/
theorem multiple?_of_value {k : ℤ} {n : ℕ} (hpos : 0 < x.significand)
    (hvalue : x.value = n * 10 ^ k) : multiple? format x k = some n := by
  obtain ⟨unit, hunit, hscale, hstep⟩ := exists_unit (x.exponent - 2) k
  unfold multiple?
  simp only
  have hscale_pos : 0 < Nat.pow 2 (x.exponent - 2).toNat * Nat.pow 10 (-k).toNat :=
    Nat.mul_pos (Nat.pow_pos (by norm_num)) (Nat.pow_pos (by norm_num))
  have hstep_pos : 0 < Nat.pow 10 k.toNat * Nat.pow 2 (-(x.exponent - 2)).toNat :=
    Nat.mul_pos (Nat.pow_pos (by norm_num)) (Nat.pow_pos (by norm_num))
  generalize Nat.pow 2 (x.exponent - 2).toNat * Nat.pow 10 (-k).toNat = scale at *
  generalize Nat.pow 10 k.toNat * Nat.pow 2 (-(x.exponent - 2)).toNat = step at *
  have hexact := scale_eq_step hscale hstep hvalue
  have hbelow : (4 * x.significand - if isLowestOfBinade format x then 1 else 2) * scale <
      n * step := by
    rw [← hexact]
    refine Nat.mul_lt_mul_of_pos_right ?_ hscale_pos
    split <;> omega
  have habove : n * step < (4 * x.significand + 2) * scale := by
    rw [← hexact]
    exact Nat.mul_lt_mul_of_pos_right (by omega) hscale_pos
  have hdiv : 4 * x.significand * scale / step = n := by
    rw [hexact, Nat.mul_div_cancel n hstep_pos]
  have hmod : 4 * x.significand * scale % step = 0 := by
    rw [hexact, Nat.mul_mod_left]
  rw [hdiv, hmod]
  simp only [hbelow, habove, hbelow.le, habove.le, hstep_pos, Nat.mul_zero, decide_true,
    Bool.and_self, ite_self, if_true]
  split <;> simp_all

/-- A magnitude is a multiple of each power of ten whose exponent is not greater than its own. -/
theorem exists_value_eq {k : ℤ} (hneg : k ≤ 0) (hle : k ≤ x.exponent) :
    ∃ n : ℕ, x.value = n * 10 ^ k := by
  obtain ⟨shift, hshift⟩ := Int.eq_ofNat_of_zero_le (Int.sub_nonneg_of_le hle)
  obtain ⟨fives, hfives⟩ := Int.eq_ofNat_of_zero_le (Int.neg_nonneg_of_nonpos hneg)
  refine ⟨x.significand * 2 ^ shift * 5 ^ fives, ?_⟩
  have hten : (10 : ℚ) ^ k = 2 ^ k * 5 ^ k := by
    rw [← mul_zpow]
    norm_num
  have hfive : (5 : ℚ) ^ fives * 5 ^ k = 1 := by
    rw [← zpow_natCast, ← hfives, ← zpow_add₀ (by norm_num)]
    simp
  have htwo : (2 : ℚ) ^ x.exponent = 2 ^ shift * 2 ^ k := by
    rw [← zpow_natCast, ← hshift, ← two_zpow_add]
    simp
  rw [Magnitude.value, hten, htwo]
  push_cast
  linear_combination (-(x.significand : ℚ) * 2 ^ shift * 2 ^ k) * hfive

theorem decimalFrom_spec {least k : ℤ} {bound n : ℕ} (hfound : multiple? format x least = some n)
    (hle : least ≤ k) (hlt : k < least + bound) :
    ∃ m j, decimalFrom format x k bound = ⟨m, j⟩ ∧ multiple? format x j = some m := by
  induction bound generalizing k with
  | zero => omega
  | succ bound ih =>
    unfold decimalFrom
    cases hk : multiple? format x k with
    | some m => exact ⟨m, k, rfl, hk⟩
    | none =>
      have hne : least ≠ k := by
        rintro rfl
        simp [hk] at hfound
      exact ih (by omega) (by omega)

/-- The shortest decimal of a magnitude is one that the magnitude covers. -/
theorem shortest_covers (hleast : format.least ≤ 0) (hx : format.Holds x)
    (hpos : 0 < x.significand) : format.Covers x (shortest format x).value := by
  obtain ⟨exact, hvalue⟩ := exists_value_eq hleast hx.least
  have hfound : multiple? format x format.least = some exact := multiple?_of_value hpos hvalue
  rw [shortest, if_neg hpos.ne']
  simp only
  generalize (Nat.toDigits 10 (x.significand * Nat.pow 2 x.exponent.toNat /
    Nat.pow 2 (-x.exponent).toNat)).length = above
  have hbound : (above : ℤ) < format.least + (above + format.least.natAbs + 1 : ℕ) := by omega
  obtain ⟨n, k, heq, hn⟩ := decimalFrom_spec hfound (by omega) hbound
  rw [heq]
  exact covers_of_multiple? hpos hn

end Multiples

/-! ### Decimals of 64 bits -/

theorem two_zpow_le_ten_zpow {k : ℤ} (hk : 0 ≤ k) : (2 : ℚ) ^ (3 * k) ≤ 10 ^ k := by
  rw [zpow_mul]
  exact zpow_le_zpow_left₀ hk (by norm_num) (by norm_num)

theorem ten_zpow_le_two_zpow {k : ℤ} (hk : k ≤ 0) : (10 : ℚ) ^ k ≤ 2 ^ (3 * k) := by
  have h := inv_anti₀ (two_zpow_pos _) (two_zpow_le_ten_zpow (Int.neg_nonneg_of_nonpos hk))
  rwa [← zpow_neg, ← zpow_neg, neg_neg, mul_neg, neg_neg] at h

theorem ten_zpow_pos (k : ℤ) : (0 : ℚ) < 10 ^ k := zpow_pos (by norm_num) k

/-- A decimal lies between the powers of ten that its size gives. -/
theorem Decimal.value_bounds (d : Decimal) (hpos : d.digits ≠ 0) :
    (10 : ℚ) ^ ((Nat.toDigits 10 d.digits).length + d.exponent - 1) ≤ d.value ∧
      d.value < 10 ^ ((Nat.toDigits 10 d.digits).length + d.exponent) := by
  obtain ⟨count, hcount⟩ : ∃ count, (Nat.toDigits 10 d.digits).length = count + 1 :=
    Nat.exists_eq_succ_of_ne_zero Nat.length_toDigits_pos.ne'
  have hlt : d.digits < 10 ^ (count + 1) :=
    (Nat.length_toDigits_le_iff (by norm_num) (by omega)).1 hcount.le
  have hle : 10 ^ count ≤ d.digits := by
    cases count with
    | zero => exact Nat.pos_of_ne_zero hpos
    | succ count =>
      by_contra hlt
      have := (Nat.length_toDigits_le_iff (by norm_num) (by omega)).2 (Nat.lt_of_not_le hlt)
      omega
  have hten (j : ℕ) : (10 : ℚ) ^ (j + d.exponent) = 10 ^ j * 10 ^ d.exponent := by
    rw [zpow_add₀ (by norm_num), zpow_natCast]
  have hexponent := ten_zpow_pos d.exponent
  have hlt' : (d.digits : ℚ) < 10 ^ (count + 1) := by exact_mod_cast hlt
  have hle' : (10 : ℚ) ^ count ≤ d.digits := by exact_mod_cast hle
  rw [hcount, show ((count + 1 : ℕ) : ℤ) + d.exponent - 1 = count + d.exponent by push_cast; ring,
    hten, hten, Decimal.value]
  exact ⟨mul_le_mul_of_nonneg_right hle' hexponent.le, mul_lt_mul_of_pos_right hlt' hexponent⟩

namespace Double

variable {x : Magnitude}

theorem two_zpow_le_of_covers {q : ℚ} (hx : Format.double.Holds x) (hpos : 0 < x.significand)
    (hq : Format.double.Covers x q) : (2 : ℚ) ^ (-1075 : ℤ) ≤ q := by
  have hlow := hq.low
  have hreach := Format.double.reach_le x
  have hone : (1 : ℚ) ≤ x.significand := by exact_mod_cast hpos
  rw [le_div_iff₀ (two_zpow_pos _)] at hlow
  calc (2 : ℚ) ^ (-1075 : ℤ) ≤ 2 ^ (-1 + x.exponent) := two_zpow_le.2 (by
        have := hx.least
        simp only [Format.double] at this
        omega)
    _ = 1 / 2 * 2 ^ x.exponent := by
        rw [two_zpow_add]
        norm_num
    _ ≤ (x.significand - Format.double.reach x) * 2 ^ x.exponent :=
        mul_le_mul_of_nonneg_right (by linarith) (two_zpow_pos _).le
    _ ≤ q := hlow

theorem lt_two_zpow_of_covers {q : ℚ} (hx : Format.double.Holds x)
    (hq : Format.double.Covers x q) : q < (2 : ℚ) ^ (1024 : ℤ) :=
  (hq.lt_two_zpow hx).trans_le (two_zpow_le.2 (by
    have := hx.greatest
    simp only [Format.double] at this ⊢
    omega))

/-- Decimals that a magnitude covers are neither too great nor too small. -/
theorem size_within_range {d : Decimal} (hx : Format.double.Holds x) (hpos : 0 < x.significand)
    (hq : Format.double.Covers x d.value) (hdigits : d.digits ≠ 0) :
    -range ≤ (Nat.toDigits 10 d.digits).length + d.exponent ∧
      (Nat.toDigits 10 d.digits).length + d.exponent ≤ range := by
  have hlow := two_zpow_le_of_covers hx hpos hq
  have hhigh := lt_two_zpow_of_covers hx hq
  obtain ⟨hleast, hgreatest⟩ := d.value_bounds hdigits
  rw [range]
  constructor <;> by_contra hlt
  · have hpow := hlow.trans_lt (hgreatest.trans_le (ten_zpow_le_two_zpow (by omega)))
    have := two_zpow_lt.1 hpow
    omega
  · have hpow := ((two_zpow_le_ten_zpow (by omega)).trans hleast).trans_lt hhigh
    have := two_zpow_lt.1 hpow
    omega

/-- A decimal is read as the magnitude that covers it. -/
theorem ofDecimal_eq (negative : Bool) {d : Decimal} (hx : Format.double.Holds x)
    (hpos : 0 < x.significand) (hq : Format.double.Covers x d.value) :
    ofDecimal negative d = finite negative x := by
  have hdigits : d.digits ≠ 0 := by
    intro hzero
    have := (two_zpow_pos (-1075)).trans_le (two_zpow_le_of_covers hx hpos hq)
    simp [Decimal.value, hzero] at this
  obtain ⟨hlow, hhigh⟩ := size_within_range hx hpos hq hdigits
  have hquotient := mul_zpow_eq_div 10 (by norm_num) d.digits d.exponent
  rw [Nat.cast_ofNat] at hquotient
  rw [Decimal.value, hquotient] at hq
  have hround : Format.double.round (d.digits * Nat.pow 10 d.exponent.toNat)
      (Nat.pow 10 (-d.exponent).toNat) = some x :=
    Format.round_eq (by decide)
      (Nat.mul_pos (Nat.pos_of_ne_zero hdigits) (Nat.pow_pos (by norm_num)))
      (Nat.pow_pos (by norm_num)) hx hq
  simp only [ofDecimal, hdigits, not_lt.2 hlow, not_lt.2 hhigh, or_self, if_false, hround]
  rfl

end Double

end Preferences.Number
