import Phrasebook.Expression.Operators
import Phrasebook.Proofs.Number.Rounding

namespace Phrasebook

namespace Double

variable {a b : Int}

/-- Rounding keeps the order of two integers that it does not make equal. -/
theorem compare_roundInt (h : roundInt a = roundInt b → a = b) :
    Ord.compare (roundInt a) (roundInt b) = Ord.compare a b := by
  rcases lt_trichotomy a b with hlt | rfl | hgt
  · have hround : roundInt a < roundInt b :=
      lt_of_le_of_ne (roundInt_mono hlt.le) fun heq => hlt.ne (h heq)
    rw [compare_lt_iff_lt.2 hlt, compare_lt_iff_lt.2 hround]
  · rw [compare_eq_iff_eq.2 rfl, compare_eq_iff_eq.2 rfl]
  · have hround : roundInt b < roundInt a :=
      lt_of_le_of_ne (roundInt_mono hgt.le) fun heq => hgt.ne' (h heq.symm)
    rw [compare_gt_iff_gt.2 hgt, compare_gt_iff_gt.2 hround]

end Double

namespace BinaryOp

/-- A comparison of values that have an order asks for that order only. -/
theorem applyComparison_of_compare? (op : BinaryOp) {v w : Value} {o : Ordering}
    (h : v.compare? w = some o) : op.applyComparison v w = .ok (.bool (op.holdsFor o)) := by
  unfold applyComparison
  rw [h]

end BinaryOp

namespace Value

open Double (roundInt)

/-- Equality, order and all six operators see the two integers as they are. -/
structure ComparesExactly (a b : Int) : Prop where
  equals : (int a).equals (int b) = decide (a = b)
  compare? : (int a).compare? (int b) = some (Ord.compare a b)
  eq : BinaryOp.eq.apply (int a) (int b) = .ok (.bool (a = b))
  ne : BinaryOp.ne.apply (int a) (int b) = .ok (.bool (a ≠ b))
  lt : BinaryOp.lt.apply (int a) (int b) = .ok (.bool (a < b))
  le : BinaryOp.le.apply (int a) (int b) = .ok (.bool (a ≤ b))
  gt : BinaryOp.gt.apply (int a) (int b) = .ok (.bool (a > b))
  ge : BinaryOp.ge.apply (int a) (int b) = .ok (.bool (a ≥ b))

variable {a b : Int}

theorem equals_int (a b : Int) :
    (int a).equals (int b) = decide (roundInt a = roundInt b) := by
  unfold int equals
  exact Double.eqv_ofInt a b

theorem compare?_int (a b : Int) :
    (int a).compare? (int b) = some (Ord.compare (roundInt a) (roundInt b)) :=
  congrArg some (Double.compare_ofInt a b)

theorem comparesExactly_of_roundInt (h : roundInt a = roundInt b → a = b) :
    ComparesExactly a b := by
  have hequals : (int a).equals (int b) = decide (a = b) := by
    rw [equals_int, decide_eq_decide]
    exact ⟨h, congrArg roundInt⟩
  have hcompare : (int a).compare? (int b) = some (Ord.compare a b) := by
    rw [compare?_int, Double.compare_roundInt h]
  have hop (op : BinaryOp) := op.applyComparison_of_compare? hcompare
  exact
    { equals := hequals
      compare? := hcompare
      eq := by rw [BinaryOp.apply, hequals]
      ne := by rw [BinaryOp.apply, hequals, decide_not]
      lt := by simp only [BinaryOp.apply, hop, BinaryOp.holdsFor, compare_lt_iff_lt]
      le := by simp only [BinaryOp.apply, hop, BinaryOp.holdsFor, compare_le_iff_le]
      gt := by simp only [BinaryOp.apply, hop, BinaryOp.holdsFor, compare_gt_iff_gt]
      ge := by simp only [BinaryOp.apply, hop, BinaryOp.holdsFor, compare_ge_iff_ge] }

/-- Integers are compared as the numbers with 53 bits that they are rounded to. All comparisons of
two integers are exact unless these are different and rounded to one number; so they are as soon as
one of the two is below 2^53 in magnitude. Where they are not exact the order is that of equal
numbers, never the reverse one. -/
theorem integers_compare_as_rounded (a b : Int) :
    (ComparesExactly a b ↔ (roundInt a = roundInt b → a = b)) ∧
    (a.natAbs < 2 ^ 53 ∨ b.natAbs < 2 ^ 53 → ComparesExactly a b) ∧
    ∃ o, (int a).compare? (int b) = some o ∧ (o = .eq ∨ o = Ord.compare a b) := by
  refine ⟨⟨fun h heq => ?_, comparesExactly_of_roundInt⟩, fun h => ?_,
    Ord.compare (roundInt a) (roundInt b), compare?_int a b, ?_⟩
  · have hequals := h.equals
    rwa [equals_int, decide_eq_decide, iff_true_left heq] at hequals
  · apply comparesExactly_of_roundInt
    intro heq
    rcases h with ha | hb
    · exact Double.eq_of_roundInt_eq ha heq
    · exact (Double.eq_of_roundInt_eq hb heq.symm).symm
  · by_cases heq : roundInt a = roundInt b
    · exact .inl (compare_eq_iff_eq.2 heq)
    · exact .inr (Double.compare_roundInt fun h => absurd h heq)

/-- The greatest integer below 2^53 against the greatest one of a scope, and two integers beyond it
between which there are numbers. -/
theorem large_integers_compare_exactly :
    (9007199254740991 : Int).natAbs < 2 ^ 53 ∧
    ComparesExactly 9007199254740991 18446744073709551615 ∧
    roundInt (-9223372036854775808) ≠ roundInt (-9223372036854774785) ∧
    ComparesExactly (-9223372036854775808) (-9223372036854774785) := by
  have hround : roundInt (-9223372036854775808) ≠ roundInt (-9223372036854774785) := by
    decide +kernel
  have hbits : (9007199254740991 : Int).natAbs < 2 ^ 53 := by decide
  exact ⟨hbits, (integers_compare_as_rounded _ _).2.1 (.inl hbits), hround,
    (integers_compare_as_rounded _ _).1.2 fun h => absurd h hround⟩

/-- The integer after 2^53 is rounded to 2^53, and counts as equal to it. -/
theorem neighbours_count_as_equal :
    (int 9007199254740992).equals (int 9007199254740993) = true ∧
    (int 9007199254740992).compare? (int 9007199254740993) = some .eq ∧
    BinaryOp.lt.apply (int 9007199254740992) (int 9007199254740993) = .ok (.bool false) ∧
    ¬ ComparesExactly 9007199254740992 9007199254740993 := by
  have hequals : (int 9007199254740992).equals (int 9007199254740993) = true := by decide +kernel
  have hcompare : (int 9007199254740992).compare? (int 9007199254740993) = some .eq := by
    decide +kernel
  refine ⟨hequals, hcompare, BinaryOp.lt.applyComparison_of_compare? hcompare, fun h => ?_⟩
  have hsame := h.equals
  rw [hequals] at hsame
  exact absurd hsame (by decide)

end Value

end Phrasebook
