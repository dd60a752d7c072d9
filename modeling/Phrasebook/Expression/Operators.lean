import Phrasebook.EvaluationError
import Phrasebook.Expression.Basic
import Phrasebook.Value.Order
import Phrasebook.Value.Text

namespace Phrasebook

namespace UnaryOp

def apply : UnaryOp → Value → Except ExpressionError Value
  | not, v => .ok (.bool !v.isTruthy)
  | negate, .number n =>
    match n.toWord? with
    | some i => if Number.fitsWord (-i) then .ok (.int (-i)) else .ok (.ofDouble n.toDouble.neg)
    | none => .ok (.ofDouble n.toDouble.neg)
  | negate, v => .error (.mismatch "-" "number" v)

theorem isPlain_of_apply {op : UnaryOp} {v : Value} {e : ExpressionError}
    (h : op.apply v = .error e) : e.IsPlain := by
  unfold apply at h
  split at h
  · contradiction
  · split at h
    · split at h <;> contradiction
    · contradiction
  · cases h
    simp

end UnaryOp

namespace BinaryOp

/-- The exact integer result, for the operators that have one. The remainder has the sign of the
dividend; there is none without a quotient that fits in 64 bits. -/
def onIntegers? (op : BinaryOp) (x y : Int) : Option Int :=
  match op with
  | add => some (x + y)
  | sub => some (x - y)
  | mul => some (x * y)
  | mod => if y ≠ 0 ∧ Number.fitsWord (x.tdiv y) then some (x.tmod y) else none
  | _ => none

def approximate (op : BinaryOp) (x y : Double) : Except ExpressionError Value :=
  match op with
  | add => .ok (.ofDouble (x.add y))
  | sub => .ok (.ofDouble (x.sub y))
  | mul => .ok (.ofDouble (x.mul y))
  | div => if y.isZero then .error .divisionByZero else .ok (.ofDouble (x.div y))
  | _ => if y.isZero then .error .divisionByZero else .ok (.ofDouble (x.rem y))

/-- Integers stay integers while the exact result fits in 64 bits, and go over to floats when it
does not. A quotient is always one of floats. -/
def arithmetic (op : BinaryOp) (a b : Number) : Except ExpressionError Value :=
  match a.toWord?, b.toWord? with
  | some x, some y =>
    if op = mod ∧ y = 0 then .error .divisionByZero
    else match (op.onIntegers? x y).filter Number.fitsWord with
      | some i => .ok (.int i)
      | none => op.approximate a.toDouble b.toDouble
  | _, _ => op.approximate a.toDouble b.toDouble

/-- Arithmetic on two values; of two that are no numbers the first is reported. -/
def applyArithmetic (op : BinaryOp) : Value → Value → Except ExpressionError Value
  | .number a, .number b => op.arithmetic a b
  | .number _, other => .error (.mismatch op.symbol "number" other)
  | other, _ => .error (.mismatch op.symbol "number" other)

/-- Whether the order of the operands is one that a comparison asks for. -/
def holdsFor (op : BinaryOp) (o : Ordering) : Bool :=
  match op with
  | lt => o = .lt
  | le => o ≠ .gt
  | gt => o = .gt
  | _ => o ≠ .lt

/-- Comparison of two numbers or two strings; the first value that has no order is reported. -/
def applyComparison (op : BinaryOp) (l r : Value) : Except ExpressionError Value :=
  match l.compare? r with
  | some o => .ok (.bool (op.holdsFor o))
  | none =>
    .error (.mismatch op.symbol "comparable values" (if (l.compare? l).isNone then l else r))

def isText : Value → Bool
  | .text _ => true
  | _ => false

/-- The result of an operator on two values. Addition with a string joins texts. -/
def apply (op : BinaryOp) (l r : Value) : Except ExpressionError Value :=
  match op with
  | add =>
    if isText l || isText r then .ok (.text (l.toText ++ r.toText)) else add.applyArithmetic l r
  | sub | mul | div | mod => op.applyArithmetic l r
  | eq => .ok (.bool (l.equals r))
  | ne => .ok (.bool !(l.equals r))
  | lt | le | gt | ge => op.applyComparison l r
  | and => .ok (.bool (l.isTruthy && r.isTruthy))
  | or => .ok (.bool (l.isTruthy || r.isTruthy))

theorem isPlain_of_approximate {op : BinaryOp} {x y : Double} {e : ExpressionError}
    (h : op.approximate x y = .error e) : e.IsPlain := by
  cases op <;> simp only [approximate, reduceCtorEq] at h
  all_goals
    split at h
    · cases h
      simp
    · contradiction

theorem isPlain_of_arithmetic {op : BinaryOp} {a b : Number} {e : ExpressionError}
    (h : op.arithmetic a b = .error e) : e.IsPlain := by
  unfold arithmetic at h
  split at h
  · split at h
    · cases h
      simp
    · split at h
      · contradiction
      · exact isPlain_of_approximate h
  · exact isPlain_of_approximate h

theorem isPlain_of_applyArithmetic {op : BinaryOp} {l r : Value} {e : ExpressionError}
    (h : op.applyArithmetic l r = .error e) : e.IsPlain := by
  unfold applyArithmetic at h
  split at h
  · exact isPlain_of_arithmetic h
  · cases h
    simp
  · cases h
    simp

theorem isPlain_of_applyComparison {op : BinaryOp} {l r : Value} {e : ExpressionError}
    (h : op.applyComparison l r = .error e) : e.IsPlain := by
  unfold applyComparison at h
  split at h
  · contradiction
  · cases h
    simp

theorem isPlain_of_apply {op : BinaryOp} {l r : Value} {e : ExpressionError}
    (h : op.apply l r = .error e) : e.IsPlain := by
  unfold apply at h
  split at h
  · split at h
    · contradiction
    · exact isPlain_of_applyArithmetic h
  all_goals first
    | contradiction
    | exact isPlain_of_applyArithmetic h
    | exact isPlain_of_applyComparison h

end BinaryOp

end Phrasebook
