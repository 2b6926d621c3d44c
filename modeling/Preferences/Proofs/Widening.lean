import Preferences.Proofs.Decimals

/-! Numbers of 32 bits as numbers of 64 bits. All bits of a number are in the wider one, so that
narrowing gives them back. -/

namespace Preferences.Number

/-- A magnitude that is far enough above the least one of a format is also one of the format. -/
theorem Format.exists_holds (format : Format) {s : Magnitude} (hpos : 0 < s.significand)
    (hlt : s.significand < 2 ^ format.bits) (hleast : format.least + format.bits ≤ s.exponent)
    (hgreatest : s.exponent ≤ format.greatest) :
    ∃ x, format.Holds x ∧ 0 < x.significand ∧ x.value = s.value := by
  have hlog : s.significand.log2 < format.bits := (Nat.log2_lt hpos.ne').2 hlt
  obtain ⟨shift, hshift⟩ : ∃ shift, format.bits = s.significand.log2 + 1 + shift :=
    Nat.exists_eq_add_of_le hlog
  have hscale : 0 < 2 ^ shift := Nat.pow_pos (by norm_num)
  refine ⟨⟨s.significand * 2 ^ shift, s.exponent - shift⟩, ⟨?_, ?_, ?_, .inl ?_⟩, ?_, ?_⟩
  · rw [hshift, Nat.pow_add]
    exact Nat.mul_lt_mul_of_pos_right Nat.lt_log2_self hscale
  · show format.least ≤ s.exponent - shift
    omega
  · show s.exponent - shift ≤ format.greatest
    omega
  · rw [show format.bits - 1 = s.significand.log2 + shift by omega, Nat.pow_add]
    exact Nat.mul_le_mul_right _ (Nat.log2_self_le hpos.ne')
  · exact Nat.mul_pos hpos hscale
  · have hone : (2 : ℚ) ^ shift * 2 ^ (-(shift : ℤ)) = 1 := by
      rw [← zpow_natCast, ← two_zpow_add]
      simp
    rw [Magnitude.value, Magnitude.value, sub_eq_add_neg, two_zpow_add]
    push_cast
    linear_combination (s.significand * (2 : ℚ) ^ s.exponent) * hone

namespace Binary32

/-! ### Bits -/

theorem magnitude_lt (x : Binary32) : x.magnitude < 2 ^ 31 := Nat.mod_lt _ (by norm_num)

theorem ofMagnitude_self (x : Binary32) : ofMagnitude x.isNegative x.magnitude = x := by
  have hlt : x.bits.toNat < 2 ^ 32 := x.bits.toNat_lt
  have hpow : Nat.pow 2 31 = 2147483648 := rfl
  have hbits : x.magnitude + (if x.isNegative then Nat.pow 2 31 else 0) = x.bits.toNat := by
    simp only [magnitude, isNegative, hpow, decide_eq_true_eq]
    split <;> omega
  rw [ofMagnitude, hbits, UInt32.ofNat_toNat]

theorem eq_of_magnitude {x y : Binary32} (hmagnitude : x.magnitude = y.magnitude)
    (hsign : x.isNegative = y.isNegative) : x = y := by
  rw [← x.ofMagnitude_self, ← y.ofMagnitude_self, hmagnitude, hsign]

theorem isNaN_ofMagnitude_plainNaN (negative : Bool) :
    (ofMagnitude negative plainNaN).isNaN = true := by
  cases negative <;> decide

/-! ### Finite numbers -/

/-- The magnitude that exponent and fraction of a finite number spell. -/
def spelled (x : Binary32) : Magnitude :=
  if x.magnitude / Nat.pow 2 23 = 0 then ⟨x.magnitude % Nat.pow 2 23, Format.single.least⟩
  else ⟨x.magnitude % Nat.pow 2 23 + Nat.pow 2 23,
    Format.single.least + (x.magnitude / Nat.pow 2 23 : ℕ) - 1⟩

variable {x : Binary32}

theorem fraction_range : Nat.pow 2 23 = 8388608 := rfl

theorem infinity_eq : infinity = 255 * 8388608 := rfl

theorem spelled_holds (hfinite : x.magnitude < infinity) : Format.single.Holds x.spelled := by
  rw [infinity_eq] at hfinite
  unfold spelled
  rw [fraction_range]
  split
  · refine ⟨?_, ?_, ?_, .inr rfl⟩ <;> simp only [Format.single] <;> omega
  · refine ⟨?_, ?_, ?_, .inl (Nat.le_add_left _ _)⟩ <;> simp only [Format.single] <;> omega

theorem ofRounded_spelled (x : Binary32) :
    ofRounded x.isNegative (some x.spelled) = x := by
  have hmagnitude : x.spelled.significand +
      (x.spelled.exponent - Format.single.least).toNat * Nat.pow 2 23 = x.magnitude := by
    unfold spelled
    rw [fraction_range]
    generalize Format.single.least = least
    split <;> simp only <;> omega
  show ofMagnitude x.isNegative (x.spelled.significand +
    (x.spelled.exponent - Format.single.least).toNat * Nat.pow 2 23) = x
  rw [hmagnitude, ofMagnitude_self]

theorem spelled_pos (hpos : 0 < x.magnitude) : 0 < x.spelled.significand := by
  unfold spelled
  rw [fraction_range]
  split <;> simp only <;> omega

/-! ### Wider numbers -/

theorem widen_nan (hnan : x.isNaN = true) : Double.ofBinary32 x = .nan x.isNegative := by
  have hlt := x.magnitude_lt
  rw [isNaN, infinity_eq, decide_eq_true_eq] at hnan
  have hfield : x.magnitude / Nat.pow 2 23 = 255 := by
    rw [fraction_range]
    omega
  have hfraction : x.magnitude % Nat.pow 2 23 ≠ 0 := by
    rw [fraction_range]
    omega
  simp only [Double.ofBinary32, hfield, hfraction, if_true, if_false]

theorem widen_infinite (hinfinite : x.magnitude = infinity) :
    Double.ofBinary32 x = .infinite x.isNegative := by
  have hfield : x.magnitude / Nat.pow 2 23 = 255 := by
    rw [hinfinite]
    rfl
  have hfraction : x.magnitude % Nat.pow 2 23 = 0 := by
    rw [hinfinite]
    rfl
  simp only [Double.ofBinary32, hfield, hfraction, if_true]

theorem widen_finite (hfinite : x.magnitude < infinity) :
    Double.ofBinary32 x =
      .ofRounded x.isNegative (Format.double.roundMagnitude x.spelled) := by
  rw [infinity_eq] at hfinite
  have hfield : x.magnitude / Nat.pow 2 23 ≠ 255 := by
    rw [fraction_range]
    omega
  simp only [Double.ofBinary32, hfield, if_false]
  rfl

/-- A number other than zero is widened to one of the same value, and that is narrowed to it. -/
theorem widen_pos (hpos : 0 < x.magnitude) (hfinite : x.magnitude < infinity) :
    ∃ y, Format.double.Holds y ∧ 0 < y.significand ∧
      Double.ofBinary32 x = .finite x.isNegative y ∧ ofDouble (.finite x.isNegative y) = x := by
  have hsingle := spelled_holds hfinite
  have hspelled := spelled_pos hpos
  have hshort : x.spelled.significand < 2 ^ Format.double.bits :=
    hsingle.lt.trans (by decide)
  have hleast := hsingle.least
  have hgreatest := hsingle.greatest
  obtain ⟨y, hdouble, hypos, hvalue⟩ := Format.double.exists_holds hspelled hshort
    (by simp only [Format.single, Format.double] at *; omega)
    (by simp only [Format.single, Format.double] at *; omega)
  refine ⟨y, hdouble, hypos, ?_, ?_⟩
  · rw [widen_finite hfinite,
      Format.roundMagnitude_eq (by decide) hdouble hspelled hvalue.symm]
    rfl
  · rw [ofDouble, Format.roundMagnitude_eq (by decide) hsingle hypos hvalue]
    exact ofRounded_spelled x

theorem widen_zero (hzero : x.magnitude = 0) :
    ∃ e, Double.ofBinary32 x = .finite x.isNegative ⟨0, e⟩ := by
  have hfinite : x.magnitude < infinity := by
    rw [hzero]
    decide
  have hspelled : x.spelled = ⟨0, Format.single.least⟩ := by
    rw [spelled, hzero]
    rfl
  rw [widen_finite hfinite, hspelled, Format.roundMagnitude_zero _ _ (by decide)]
  exact ⟨_, rfl⟩

theorem ofDouble_zero (hzero : x.magnitude = 0) :
    ofDouble (.finite x.isNegative ⟨0, Format.double.least⟩) = x := by
  have hround : Format.single.roundMagnitude ⟨0, Format.double.least⟩ =
      some ⟨0, Format.single.least⟩ := by
    rw [Format.roundMagnitude_zero _ _ (by decide)]
    rfl
  rw [ofDouble, hround]
  show ofMagnitude x.isNegative 0 = x
  rw [← hzero, ofMagnitude_self]

end Binary32

end Preferences.Number
