import Phrasebook.Value.Basic

namespace Phrasebook

/-- Operators in front of their operand. -/
inductive UnaryOp where
  | not
  | negate
  deriving DecidableEq, Repr

def UnaryOp.symbol : UnaryOp → String
  | not => "!"
  | negate => "-"

/-- Operators between two operands. -/
inductive BinaryOp where
  | mul
  | div
  | mod
  | add
  | sub
  | lt
  | le
  | gt
  | ge
  | eq
  | ne
  | and
  | or
  deriving DecidableEq, Repr

namespace BinaryOp

def symbol : BinaryOp → String
  | mul => "*"
  | div => "/"
  | mod => "%"
  | add => "+"
  | sub => "-"
  | lt => "<"
  | le => "<="
  | gt => ">"
  | ge => ">="
  | eq => "=="
  | ne => "!="
  | and => "&&"
  | or => "||"

/-- How loosely an operator binds, from one for the tightest to `BinaryOp.levels`. -/
def level : BinaryOp → Nat
  | mul | div | mod => 1
  | add | sub => 2
  | lt | le | gt | ge => 3
  | eq | ne => 4
  | and => 5
  | or => 6

def levels : Nat := 6

theorem level_le (op : BinaryOp) : op.level ≤ levels := by cases op <;> decide

end BinaryOp

inductive Expr where
  | literal (v : Value)
  | list (items : List Expr)
  | identifier (name : String)
  | member (target : Expr) (name : String)
  | index (target : Expr) (key : Expr)
  | call (function : String) (arguments : List Expr)
  | unary (op : UnaryOp) (operand : Expr)
  | binary (op : BinaryOp) (left right : Expr)
  deriving Repr, Inhabited

namespace Expr

mutual

/-- An expression and all expressions inside it. -/
def parts : Expr → List Expr
  | .literal v => [.literal v]
  | .list items => .list items :: partsAll items
  | .identifier name => [.identifier name]
  | .member target name => .member target name :: parts target
  | .index target key => .index target key :: (parts target ++ parts key)
  | .call function arguments => .call function arguments :: partsAll arguments
  | .unary op operand => .unary op operand :: parts operand
  | .binary op left right => .binary op left right :: (parts left ++ parts right)

def partsAll : List Expr → List Expr
  | [] => []
  | e :: es => parts e ++ partsAll es

end

theorem mem_partsAll {part : Expr} {es : List Expr} :
    part ∈ partsAll es ↔ ∃ e ∈ es, part ∈ e.parts := by
  induction es with
  | nil => simp [partsAll]
  | cons e es ih => simp [partsAll, ih]

/-- The scope names that the expression looks up. -/
def Mentions (e : Expr) (name : String) : Prop := .identifier name ∈ e.parts

/-- The functions that the expression calls. -/
def Invokes (e : Expr) (function : String) : Prop := ∃ arguments, .call function arguments ∈ e.parts

def function? : Expr → Option String
  | .call function _ => some function
  | _ => none

theorem invokes_iff {e : Expr} {function : String} :
    e.Invokes function ↔ function ∈ e.parts.filterMap function? := by
  rw [List.mem_filterMap]
  constructor
  · rintro ⟨arguments, hcall⟩
    exact ⟨_, hcall, rfl⟩
  · rintro ⟨part, hpart, hfunction⟩
    cases part <;> cases hfunction
    exact ⟨_, hpart⟩

instance (e : Expr) (function : String) : Decidable (e.Invokes function) :=
  decidable_of_iff _ invokes_iff.symm

end Expr

end Phrasebook
