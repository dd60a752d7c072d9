import Phrasebook.Expression.Operators
import Phrasebook.Text.Case

namespace Phrasebook

/-- Functions by name; `none` for a name that is not known. -/
abbrev Functions := String → Option (List Value → Except ExpressionError Value)

namespace Functions

def none : Functions := fun _ => Option.none

def arity (name expected : String) (found : Nat) : ExpressionError :=
  .function name ("expects " ++ expected ++ " argument(s), got " ++ toString found)

def unary (name : String) (f : Value → Except ExpressionError Value) (arguments : List Value) :
    Except ExpressionError Value :=
  match arguments with
  | [v] => f v
  | _ => .error (arity name "1" arguments.length)

def binary (name : String) (f : Value → Value → Except ExpressionError Value)
    (arguments : List Value) : Except ExpressionError Value :=
  match arguments with
  | [v, w] => f v w
  | _ => .error (arity name "2" arguments.length)

/-- An operator between all arguments, from left to right. -/
def fold (name : String) (op : BinaryOp) (arguments : List Value) : Except ExpressionError Value :=
  match arguments with
  | first :: second :: rest => (second :: rest).foldlM op.apply first
  | _ => .error (arity name "at least 2" arguments.length)

/-- The number of characters or of items. -/
def length (name : String) : Value → Except ExpressionError Value
  | .text s => .ok (.int s.length)
  | .list items => .ok (.int items.length)
  | v => .error (.mismatch name "string or list" v)

/-- The second argument if the first holds, and else the third. -/
def conditional (name : String) (arguments : List Value) : Except ExpressionError Value :=
  match arguments with
  | [condition, yes, no] => .ok (if condition.isTruthy then yes else no)
  | _ => .error (arity name "3" arguments.length)

/-- The item that wins against all others, the earliest of equals: an item takes the lead when its
order to the leader is `keep`. -/
def best (name : String) (keep : Ordering) (leader : Value) :
    List Value → Except ExpressionError Value
  | [] => .ok leader
  | v :: vs =>
    match v.compare? leader with
    | some o => if o = keep then best name keep v vs else best name keep leader vs
    | .none => .error (.mismatch name "comparable values" v)

/-- The items that are compared: those of a list that is the only argument, or the arguments. -/
def contenders : List Value → List Value
  | [.list items] => items
  | arguments => arguments

def extremum (name : String) (keep : Ordering) (arguments : List Value) :
    Except ExpressionError Value :=
  match contenders arguments with
  | [] => .error (arity name "at least 1" 0)
  | v :: vs => best name keep v vs

/-- The first item or character; null when there is none. -/
def first (name : String) : Value → Except ExpressionError Value
  | .list items => .ok (items.head?.getD .null)
  | .text s => .ok ((s.toList.head?.map fun c => .text (String.singleton c)).getD .null)
  | v => .error (.mismatch name "string or list" v)

/-- The last item or character; null when there is none. -/
def last (name : String) : Value → Except ExpressionError Value
  | .list items => .ok (items.getLast?.getD .null)
  | .text s => .ok ((s.toList.getLast?.map fun c => .text (String.singleton c)).getD .null)
  | v => .error (.mismatch name "string or list" v)

def isNull : Value → Bool
  | .null => true
  | _ => false

def standard : Functions
  | "add" => some (fold "add" .add)
  | "sub" => some (binary "sub" BinaryOp.sub.apply)
  | "mul" => some (fold "mul" .mul)
  | "div" => some (binary "div" BinaryOp.div.apply)
  | "mod" => some (binary "mod" BinaryOp.mod.apply)
  | "equals" => some (binary "equals" fun v w => .ok (.bool (v.equals w)))
  | "not" => some (unary "not" fun v => .ok (.bool !v.isTruthy))
  | "and" => some fun arguments => .ok (.bool (arguments.all Value.isTruthy))
  | "or" => some fun arguments => .ok (.bool (arguments.any Value.isTruthy))
  | "concat" => some fun arguments => .ok (.text (String.join (arguments.map Value.toText)))
  | "length" => some (unary "length" (length "length"))
  | "toUpper" => some (unary "toUpper" fun v => .ok (.text (Text.upper v.toText)))
  | "toLower" => some (unary "toLower" fun v => .ok (.text (Text.lower v.toText)))
  | "exists" => some (unary "exists" fun v => .ok (.bool !isNull v))
  | "if" => some (conditional "if")
  | "min" => some (extremum "min" .lt)
  | "max" => some (extremum "max" .gt)
  | "first" => some (unary "first" (first "first"))
  | "last" => some (unary "last" (last "last"))
  | _ => Option.none

section

variable {name : String} {arguments : List Value} {e : ExpressionError}

theorem isPlain_of_unary {f : Value → Except ExpressionError Value}
    (hf : ∀ v e, f v = .error e → e.IsPlain) (h : unary name f arguments = .error e) :
    e.IsPlain := by
  unfold unary at h
  split at h
  · exact hf _ _ h
  · cases h
    exact ExpressionError.isPlain_function _ _

theorem isPlain_of_binary {f : Value → Value → Except ExpressionError Value}
    (hf : ∀ v w e, f v w = .error e → e.IsPlain) (h : binary name f arguments = .error e) :
    e.IsPlain := by
  unfold binary at h
  split at h
  · exact hf _ _ _ h
  · cases h
    exact ExpressionError.isPlain_function _ _

theorem isPlain_of_foldlM {op : BinaryOp} {first : Value} {rest : List Value}
    (h : rest.foldlM op.apply first = .error e) : e.IsPlain := by
  induction rest generalizing first with
  | nil => cases h
  | cons v rest ih =>
    rw [List.foldlM_cons] at h
    cases happly : op.apply first v with
    | error cause =>
      rw [happly] at h
      cases h
      exact BinaryOp.isPlain_of_apply happly
    | ok next =>
      rw [happly] at h
      exact ih h

theorem isPlain_of_fold {op : BinaryOp} (h : fold name op arguments = .error e) : e.IsPlain := by
  unfold fold at h
  split at h
  · exact isPlain_of_foldlM h
  · cases h
    exact ExpressionError.isPlain_function _ _

theorem isPlain_of_best {keep : Ordering} {leader : Value} {vs : List Value}
    (h : best name keep leader vs = .error e) : e.IsPlain := by
  induction vs generalizing leader with
  | nil => cases h
  | cons v vs ih =>
    unfold best at h
    split at h
    · split at h
      · exact ih h
      · exact ih h
    · cases h
      exact ExpressionError.isPlain_mismatch _ _ _

theorem isPlain_of_extremum {keep : Ordering} (h : extremum name keep arguments = .error e) :
    e.IsPlain := by
  unfold extremum at h
  split at h
  · cases h
    exact ExpressionError.isPlain_function _ _
  · exact isPlain_of_best h

theorem isPlain_of_length {v : Value} (h : length name v = .error e) : e.IsPlain := by
  cases v <;> simp only [length, reduceCtorEq, Except.error.injEq] at h <;> simp [← h]

theorem isPlain_of_first {v : Value} (h : first name v = .error e) : e.IsPlain := by
  cases v <;> simp only [first, reduceCtorEq, Except.error.injEq] at h <;> simp [← h]

theorem isPlain_of_last {v : Value} (h : last name v = .error e) : e.IsPlain := by
  cases v <;> simp only [last, reduceCtorEq, Except.error.injEq] at h <;> simp [← h]

theorem isPlain_of_conditional (h : conditional name arguments = .error e) : e.IsPlain := by
  unfold conditional at h
  split at h
  · contradiction
  · cases h
    exact ExpressionError.isPlain_function _ _

/-- A standard function fails with an error of its own. -/
theorem isPlain_of_standard {f : List Value → Except ExpressionError Value}
    (hf : standard name = some f) (h : f arguments = .error e) : e.IsPlain := by
  unfold standard at hf
  split at hf <;> cases hf
  case h_1 | h_3 => exact isPlain_of_fold h
  case h_2 | h_4 | h_5 => exact isPlain_of_binary (fun _ _ _ => BinaryOp.isPlain_of_apply) h
  case h_6 => exact isPlain_of_binary (fun _ _ _ he => by cases he) h
  case h_7 | h_12 | h_13 | h_14 => exact isPlain_of_unary (fun _ _ he => by cases he) h
  case h_8 | h_9 | h_10 => exact nomatch h
  case h_11 => exact isPlain_of_unary (fun _ _ => isPlain_of_length) h
  case h_15 => exact isPlain_of_conditional h
  case h_16 | h_17 => exact isPlain_of_extremum h
  case h_18 => exact isPlain_of_unary (fun _ _ => isPlain_of_first) h
  case h_19 => exact isPlain_of_unary (fun _ _ => isPlain_of_last) h

end

end Functions

end Phrasebook
