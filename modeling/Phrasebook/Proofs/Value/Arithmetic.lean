import Phrasebook.Expression.Operators
import Phrasebook.Proofs.Number.Operations

namespace Phrasebook

namespace Value

open Double (ofInt roundInt)

/-- A float of the format that no one takes for an integer. -/
def StaysFloat (v : Value) : Prop :=
  ∃ x : Double, v = .number (.float x) ∧ x.inRange ∧ integral? x = none

theorem staysFloat_ofInt {i : Int} (h : 2 ^ 53 ≤ i.natAbs) (hrange : i.natAbs ≤ 2 ^ 126) :
    (ofDouble (ofInt i)).StaysFloat := by
  have hlimit : integralLimit < 2 ^ 53 := by decide
  have hlarge := Double.le_natAbs_roundInt h
  have hintegral : integral? (ofInt i) = none := by
    unfold integral?
    rw [Double.toInt?_ofInt]
    dsimp only
    rw [if_neg (by omega)]
  have hinRange := Double.inRange_ofInt hrange
  refine ⟨ofInt i, ?_, hinRange, hintegral⟩
  unfold ofDouble
  rw [hintegral]
  dsimp only
  rw [if_pos hinRange]

theorem ofDouble_zero (negative : Bool) : ofDouble ⟨negative, 0⟩ = .int 0 := by
  have hintegral : integral? ⟨negative, 0⟩ = some 0 := by
    unfold integral?
    rw [Double.toInt?_zero]
    exact if_pos (by decide)
  unfold ofDouble
  rw [hintegral]

end Value

namespace Number

variable {i : Int}

theorem fitsWord_iff : fitsWord i = true ↔ -2 ^ 63 ≤ i ∧ i < 2 ^ 63 := by
  have hbound : (wordBound : Int) = 2 ^ 63 := rfl
  unfold fitsWord
  rw [hbound, Bool.and_eq_true, decide_eq_true_eq, decide_eq_true_eq]

theorem toWord?_int (h : fitsWord i) : (int i).toWord? = some i := if_pos h

theorem natAbs_of_fitsWord (h : fitsWord i) : i.natAbs ≤ 2 ^ 63 := by
  rw [fitsWord_iff] at h
  omega

theorem natAbs_of_not_fitsWord (h : fitsWord i = false) : 2 ^ 63 ≤ i.natAbs := by
  have hi : ¬(-2 ^ 63 ≤ i ∧ i < 2 ^ 63) := by
    rw [← fitsWord_iff, h]
    decide
  omega

/-- Only a division by -1 leads out of the integers of 64 bits. -/
theorem fitsWord_tdiv {j : Int} (h : fitsWord i) (hj : j ≠ -1) : fitsWord (i.tdiv j) := by
  have hbound := natAbs_of_fitsWord h
  have habs : (i.tdiv j).natAbs = i.natAbs / j.natAbs := Int.natAbs_tdiv i j
  by_cases hone : j = 1
  · rwa [hone, Int.tdiv_one]
  · have hhalf : (i.tdiv j).natAbs ≤ i.natAbs / 2 := by
      rw [habs]
      by_cases hzero : j = 0
      · simp [hzero]
      · exact Nat.div_le_div_left (by omega) (by decide)
    rw [fitsWord_iff]
    omega

end Number

open Number (fitsWord)

namespace BinaryOp

/-- An operator that has an exact result gives it where it fits, and else falls back to floats. -/
theorem arithmetic_int {op : BinaryOp} {x y i : Int} (hx : fitsWord x) (hy : fitsWord y)
    (hzero : op = mod → y ≠ 0) (hexact : op.onIntegers? x y = some i) :
    op.arithmetic (.int x) (.int y) =
      if fitsWord i then .ok (.int i) else op.approximate (.ofInt x) (.ofInt y) := by
  unfold arithmetic
  rw [Number.toWord?_int hx, Number.toWord?_int hy]
  dsimp only
  rw [if_neg (by rintro ⟨hop, h⟩; exact hzero hop h), hexact]
  by_cases hi : fitsWord i
  · rw [Option.filter_some, if_pos hi, if_pos hi]
  · rw [Option.filter_some, if_neg hi, if_neg hi]
    rfl

theorem arithmetic_int_of_none {op : BinaryOp} {x y : Int} (hx : fitsWord x) (hy : fitsWord y)
    (hzero : op = mod → y ≠ 0) (hexact : op.onIntegers? x y = none) :
    op.arithmetic (.int x) (.int y) = op.approximate (.ofInt x) (.ofInt y) := by
  unfold arithmetic
  rw [Number.toWord?_int hx, Number.toWord?_int hy]
  dsimp only
  rw [if_neg (by rintro ⟨hop, h⟩; exact hzero hop h), hexact]
  rfl

/-- In floats the remainder of a division by -1 is a zero, negative below zero. As an integer it is
zero all the same. -/
theorem approximate_mod_neg_one (x : Int) :
    mod.approximate (.ofInt x) (.ofInt (-1)) = .ok (.int 0) := by
  have hdivisor : (Double.ofInt (-1)).isZero = false := by
    rw [Double.isZero_ofInt]
    decide
  unfold approximate
  dsimp only
  rw [hdivisor, Double.rem_ofInt_neg_one, Value.ofDouble_zero]
  exact if_neg Bool.false_ne_true

end BinaryOp

namespace Value

open Double (ofInt roundInt)

/-- The outcome is the integer, or, where that does not fit, a float that no one takes for one. -/
structure Computes (outcome : Except ExpressionError Value) (i : Int) : Prop where
  fits : fitsWord i → outcome = .ok (.int i)
  beyond : fitsWord i = false → ∃ v : Value, outcome = .ok v ∧ v.StaysFloat

/-- What is left of `x` when multiples of `y` are taken away toward zero. -/
structure IsRemainder (x y r : Int) : Prop where
  multiple : ∃ q, x = y * q + r
  smaller : r.natAbs < y.natAbs
  sign : (0 ≤ x → 0 ≤ r) ∧ (x ≤ 0 → r ≤ 0)

/-- All arithmetic of the two integers is exact as far as integers go, and fails only where a
remainder is that of a division by zero. -/
structure ExactArithmetic (x y : Int) : Prop where
  add : Computes (BinaryOp.add.apply (.int x) (.int y)) (x + y)
  sub : Computes (BinaryOp.sub.apply (.int x) (.int y)) (x - y)
  mul : Computes (BinaryOp.mul.apply (.int x) (.int y)) (x * y)
  negate : Computes (UnaryOp.negate.apply (.int x)) (-x)
  mod : y ≠ 0 →
    ∃ r, IsRemainder x y r ∧ fitsWord r ∧ BinaryOp.mod.apply (.int x) (.int y) = .ok (.int r)
  mod_zero : y = 0 → BinaryOp.mod.apply (.int x) (.int y) = .error .divisionByZero

section

variable {x y i : Int}

theorem isRemainder_tmod (hy : y ≠ 0) : IsRemainder x y (x.tmod y) where
  multiple := ⟨x.tdiv y, (Int.mul_tdiv_add_tmod x y).symm⟩
  smaller := by
    rw [Int.natAbs_tmod]
    exact Nat.mod_lt _ (Int.natAbs_pos.2 hy)
  sign := by
    refine ⟨fun hx => Int.tmod_nonneg y hx, fun hx => ?_⟩
    have hneg := Int.tmod_nonneg y (Int.neg_nonneg_of_nonpos hx)
    rw [Int.neg_tmod] at hneg
    omega

theorem computes_ite {fallback : Except ExpressionError Value}
    (h : fitsWord i = false → ∃ v : Value, fallback = .ok v ∧ v.StaysFloat) :
    Computes (if fitsWord i then .ok (.int i) else fallback) i where
  fits hi := if_pos hi
  beyond hi := by
    rw [if_neg (by simp [hi])]
    exact h hi

/-- It is enough that what an operator falls back to is a large integer in floats. -/
theorem computes_arithmetic {op : BinaryOp} (hx : fitsWord x) (hy : fitsWord y) (hop : op ≠ .mod)
    (hexact : op.onIntegers? x y = some i)
    (h : 2 ^ 63 ≤ i.natAbs → ∃ j : Int,
      op.approximate (ofInt x) (ofInt y) = .ok (ofDouble (ofInt j)) ∧
      2 ^ 53 ≤ j.natAbs ∧ j.natAbs ≤ 2 ^ 126) :
    Computes (op.arithmetic (.int x) (.int y)) i := by
  rw [BinaryOp.arithmetic_int hx hy (fun hmod => absurd hmod hop) hexact]
  refine computes_ite fun hi => ?_
  obtain ⟨j, happroximate, hlarge, hrange⟩ := h (Number.natAbs_of_not_fitsWord hi)
  exact ⟨ofDouble (ofInt j), happroximate, staysFloat_ofInt hlarge hrange⟩

theorem computes_add (hx : fitsWord x) (hy : fitsWord y) :
    Computes (BinaryOp.add.apply (.int x) (.int y)) (x + y) := by
  refine computes_arithmetic hx hy nofun rfl fun hlarge => ⟨roundInt x + roundInt y, ?_, ?_⟩
  · rw [← Double.add_ofInt]
    rfl
  · exact Double.natAbs_roundInt_add (Number.natAbs_of_fitsWord hx) (Number.natAbs_of_fitsWord hy)
      hlarge

theorem computes_sub (hx : fitsWord x) (hy : fitsWord y) :
    Computes (BinaryOp.sub.apply (.int x) (.int y)) (x - y) := by
  refine computes_arithmetic hx hy nofun rfl fun hlarge => ⟨roundInt x - roundInt y, ?_, ?_⟩
  · rw [← Double.sub_ofInt]
    rfl
  · have hnegated : (-y).natAbs ≤ 2 ^ 63 := by
      rw [Int.natAbs_neg]
      exact Number.natAbs_of_fitsWord hy
    rw [Int.sub_eq_add_neg, ← Double.roundInt_neg]
    exact Double.natAbs_roundInt_add (Number.natAbs_of_fitsWord hx) hnegated hlarge

theorem computes_mul (hx : fitsWord x) (hy : fitsWord y) :
    Computes (BinaryOp.mul.apply (.int x) (.int y)) (x * y) := by
  refine computes_arithmetic hx hy nofun rfl fun hlarge => ⟨roundInt x * roundInt y, ?_, ?_⟩
  · have hproduct : x * y ≠ 0 := by
      intro hzero
      rw [hzero] at hlarge
      exact absurd hlarge (by decide)
    rw [← Double.mul_ofInt (left_ne_zero_of_mul hproduct) (right_ne_zero_of_mul hproduct)]
    rfl
  · exact Double.natAbs_roundInt_mul (Number.natAbs_of_fitsWord hx) (Number.natAbs_of_fitsWord hy)
      hlarge

theorem computes_negate (hx : fitsWord x) : Computes (UnaryOp.negate.apply (.int x)) (-x) := by
  have happly : UnaryOp.negate.apply (.int x) =
      if fitsWord (-x) then .ok (.int (-x)) else .ok (.ofDouble (Double.ofInt x).neg) := by
    unfold Value.int UnaryOp.apply
    dsimp only
    rw [Number.toWord?_int hx]
    rfl
  rw [happly]
  refine computes_ite fun hi => ⟨_, rfl, ?_⟩
  have hlarge := Number.natAbs_of_not_fitsWord hi
  have hbound := Number.natAbs_of_fitsWord hx
  rw [Double.neg_ofInt (by omega)]
  exact staysFloat_ofInt (by omega) (by omega)

theorem fitsWord_of_isRemainder {r : Int} (hy : fitsWord y) (h : IsRemainder x y r) :
    fitsWord r := by
  have hsmaller := h.smaller
  have hbound := Number.natAbs_of_fitsWord hy
  rw [Number.fitsWord_iff]
  omega

/-- The remainder of two integers is computed in integers where the quotient fits in 64 bits. For
the least integer and -1 it does not, and the remainder comes from floats. -/
theorem mod_int (hx : fitsWord x) (hy : fitsWord y) (h : y ≠ 0) :
    BinaryOp.mod.apply (.int x) (.int y) = .ok (.int (x.tmod y)) := by
  have hfits := fitsWord_of_isRemainder hy (isRemainder_tmod (x := x) h)
  change BinaryOp.mod.arithmetic (.int x) (.int y) = _
  by_cases hquotient : fitsWord (x.tdiv y)
  · have hexact : BinaryOp.mod.onIntegers? x y = some (x.tmod y) :=
      if_pos ⟨h, hquotient⟩
    rw [BinaryOp.arithmetic_int hx hy (fun _ => h) hexact, if_pos hfits]
  · have hminus : y = -1 := by
      by_contra hne
      exact hquotient (Number.fitsWord_tdiv hx hne)
    have hexact : BinaryOp.mod.onIntegers? x y = none := if_neg fun hboth => hquotient hboth.2
    rw [BinaryOp.arithmetic_int_of_none hx hy (fun _ => h) hexact, hminus,
      BinaryOp.approximate_mod_neg_one, Int.tmod_neg, Int.tmod_one]

/-- Integers of 64 bits never wrap: sum, difference, product, negative and remainder are the exact
integers wherever these have 64 bits, which a remainder always has; another result is a float, and
the one failure is the remainder of a division by zero. -/
theorem integers_never_wrap (hx : fitsWord x) (hy : fitsWord y) : ExactArithmetic x y where
  add := computes_add hx hy
  sub := computes_sub hx hy
  mul := computes_mul hx hy
  negate := computes_negate hx
  mod h := by
    have hremainder := isRemainder_tmod (x := x) h
    exact ⟨x.tmod y, hremainder, fitsWord_of_isRemainder hy hremainder, mod_int hx hy h⟩
  mod_zero h := by
    change BinaryOp.mod.arithmetic (.int x) (.int y) = _
    unfold BinaryOp.arithmetic
    rw [Number.toWord?_int hx, Number.toWord?_int hy]
    exact if_pos ⟨rfl, h⟩

/-- The least integer and -1: neither their product nor the negative of the first fits. Nor does
their quotient, so that their remainder is one of floats. -/
theorem least_integer_never_wraps :
    fitsWord (-9223372036854775808) ∧ fitsWord (-1) ∧
    ExactArithmetic (-9223372036854775808) (-1) ∧
    BinaryOp.mod.onIntegers? (-9223372036854775808) (-1) = none ∧
    BinaryOp.mod.apply (.int (-9223372036854775808)) (.int (-1)) = .ok (.int 0) := by
  have hleast : fitsWord (-9223372036854775808) := by decide
  have hone : fitsWord (-1) := by decide
  have hnone : BinaryOp.mod.onIntegers? (-9223372036854775808) (-1) = none := by decide
  exact ⟨hleast, hone, integers_never_wrap hleast hone, hnone, mod_int hleast hone (by decide)⟩

end

end Value

end Phrasebook
