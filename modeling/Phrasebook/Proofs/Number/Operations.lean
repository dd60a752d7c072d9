import Phrasebook.Proofs.Number.Rounding

namespace Phrasebook.Double

variable {a b : Int}

theorem units_ofInt (i : Int) : (ofInt i).units = (roundInt i).natAbs * unit := by
  have h := congrArg Int.natAbs (toUnits_ofInt i)
  rw [Int.natAbs_mul, Int.natAbs_natCast] at h
  rw [← h]
  unfold toUnits
  split <;> simp

theorem negative_ofInt (i : Int) : (ofInt i).negative = decide (i < 0) := by
  change decide (i * unit < 0) = decide (i < 0)
  rw [decide_eq_decide]
  exact mul_unit_lt_zero_iff i

theorem toInt?_ofInt (i : Int) : (ofInt i).toInt? = some (roundInt i) := by
  unfold toInt?
  rw [units_ofInt, negative_ofInt, Nat.mul_mod_left, if_pos rfl, Nat.mul_div_cancel _ unit_pos,
    natAbs_roundInt]
  unfold roundInt
  simp only [decide_eq_true_eq]

/-- Zero is the integer zero, whatever its sign. -/
theorem toInt?_zero (negative : Bool) : (⟨negative, 0⟩ : Double).toInt? = some 0 := by
  unfold toInt?
  simp

/-- Magnitudes of 64-bit operands are far from the end of the format, and so are their results. -/
theorem inRange_ofInt (h : a.natAbs ≤ 2 ^ 126) : (ofInt a).inRange := by
  have hround : (roundInt a).natAbs * unit ≤ 2 ^ 126 * unit :=
    Nat.mul_le_mul_right _ (natAbs_roundInt_le h)
  have hlimit : 2 ^ 126 * unit < limit := by decide +kernel
  unfold inRange
  rw [units_ofInt, decide_eq_true_eq]
  exact Nat.lt_of_le_of_lt hround hlimit

theorem add_ofInt (a b : Int) : (ofInt a).add (ofInt b) = ofInt (roundInt a + roundInt b) := by
  unfold add
  rw [toUnits_ofInt, toUnits_ofInt, ← Int.add_mul]
  rfl

theorem sub_ofInt (a b : Int) : (ofInt a).sub (ofInt b) = ofInt (roundInt a - roundInt b) := by
  unfold sub
  rw [toUnits_ofInt, toUnits_ofInt, ← Int.sub_mul]
  rfl

theorem neg_ofInt (h : a ≠ 0) : (ofInt a).neg = ofInt (-a) := by
  have hunits : (ofInt (-a)).units = (ofInt a).units := by
    rw [units_ofInt, units_ofInt, roundInt_neg, Int.natAbs_neg]
  have hnegative : (ofInt (-a)).negative = !(ofInt a).negative := by
    rw [negative_ofInt, negative_ofInt, ← decide_not, decide_eq_decide]
    omega
  unfold neg
  rw [← hunits, ← hnegative]

theorem mul_ofInt (ha : a ≠ 0) (hb : b ≠ 0) :
    (ofInt a).mul (ofInt b) = ofInt (roundInt a * roundInt b) := by
  have hunits : nearest ((ofInt a).units * (ofInt b).units) unit =
      (ofInt (roundInt a * roundInt b)).units := by
    calc nearest ((ofInt a).units * (ofInt b).units) unit
        = nearest ((roundInt a * roundInt b).natAbs * unit * unit) (1 * unit) := by
          rw [units_ofInt, units_ofInt, Int.natAbs_mul, Nat.one_mul, Nat.mul_mul_mul_comm,
            ← Nat.mul_assoc]
      _ = nearest ((roundInt a * roundInt b).natAbs * unit) 1 := nearest_scale _ _ unit_pos
      _ = nearest (roundInt a * roundInt b).natAbs 1 * unit := by
          rw [unit_eq, nearest_mul_two_pow]
      _ = (ofInt (roundInt a * roundInt b)).units := by rw [units_ofInt, natAbs_roundInt]
  have hnegative : ((ofInt a).negative != (ofInt b).negative) =
      (ofInt (roundInt a * roundInt b)).negative := by
    rw [negative_ofInt, negative_ofInt, negative_ofInt, Bool.eq_iff_iff]
    simp only [bne_iff_ne, ne_eq, decide_eq_decide, decide_eq_true_eq, mul_neg_iff,
      roundInt_lt_zero_iff, zero_lt_roundInt_iff]
    omega
  unfold mul
  rw [hunits, hnegative]

/-- A division by -1 leaves a zero, which has the sign of the dividend. -/
theorem rem_ofInt_neg_one (a : Int) : (ofInt a).rem (ofInt (-1)) = ⟨decide (a < 0), 0⟩ := by
  have hround : roundInt (-1) = -1 := roundInt_of_natAbs_le (by decide)
  have hunits : (ofInt (-1)).units = unit := by
    rw [units_ofInt, hround, Int.natAbs_neg, Int.natAbs_one, Nat.one_mul]
  unfold rem
  rw [negative_ofInt, units_ofInt a, hunits, Nat.mul_mod_left]

/-- Two operands of at most 63 bits whose sum has more are large after rounding too. -/
theorem natAbs_roundInt_add (ha : a.natAbs ≤ 2 ^ 63) (hb : b.natAbs ≤ 2 ^ 63)
    (h : 2 ^ 63 ≤ (a + b).natAbs) :
    2 ^ 53 ≤ (roundInt a + roundInt b).natAbs ∧ (roundInt a + roundInt b).natAbs ≤ 2 ^ 126 := by
  have hra := natAbs_roundInt_le ha
  have hrb := natAbs_roundInt_le hb
  have hna := roundInt_lt_zero_iff (a := a)
  have hnb := roundInt_lt_zero_iff (a := b)
  have hpa := zero_lt_roundInt_iff (a := a)
  have hpb := zero_lt_roundInt_iff (a := b)
  have hhalf : 2 ^ 62 ≤ a.natAbs ∨ 2 ^ 62 ≤ b.natAbs := by omega
  rcases hhalf with ha' | hb'
  · have hlarge := le_natAbs_roundInt ha'
    omega
  · have hlarge := le_natAbs_roundInt hb'
    omega

/-- Rounding keeps the leading bits of two factors, and these give the size of the product. -/
theorem natAbs_roundInt_mul (ha : a.natAbs ≤ 2 ^ 63) (hb : b.natAbs ≤ 2 ^ 63)
    (h : 2 ^ 63 ≤ (a * b).natAbs) :
    2 ^ 53 ≤ (roundInt a * roundInt b).natAbs ∧ (roundInt a * roundInt b).natAbs ≤ 2 ^ 126 := by
  rw [Int.natAbs_mul] at h
  rw [Int.natAbs_mul]
  have ha0 : a.natAbs ≠ 0 := by
    intro hzero
    rw [hzero] at h
    omega
  have hb0 : b.natAbs ≠ 0 := by
    intro hzero
    rw [hzero] at h
    omega
  have hbits : 63 ≤ a.natAbs.log2 + b.natAbs.log2 + 1 := by
    have hlt : 2 ^ 63 < 2 ^ (a.natAbs.log2 + 1 + (b.natAbs.log2 + 1)) := by
      rw [Nat.pow_add]
      exact Nat.lt_of_le_of_lt h (Nat.mul_lt_mul'' Nat.lt_log2_self Nat.lt_log2_self)
    have hexponent := (Nat.pow_lt_pow_iff_right (by decide)).1 hlt
    omega
  constructor
  · calc 2 ^ 53 ≤ 2 ^ (a.natAbs.log2 + b.natAbs.log2) :=
          Nat.pow_le_pow_right (by decide) (by omega)
      _ = 2 ^ a.natAbs.log2 * 2 ^ b.natAbs.log2 := Nat.pow_add _ _ _
      _ ≤ (roundInt a).natAbs * (roundInt b).natAbs :=
          Nat.mul_le_mul (le_natAbs_roundInt (Nat.log2_self_le ha0))
            (le_natAbs_roundInt (Nat.log2_self_le hb0))
  · calc (roundInt a).natAbs * (roundInt b).natAbs ≤ 2 ^ 63 * 2 ^ 63 :=
          Nat.mul_le_mul (natAbs_roundInt_le ha) (natAbs_roundInt_le hb)
      _ = 2 ^ 126 := by decide

end Phrasebook.Double
