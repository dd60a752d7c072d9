import Phrasebook.Computation
import Phrasebook.Expression.Functions
import Phrasebook.Expression.Reader

namespace Phrasebook.Expr

/-- Functions whose calls are computations in `m`; `none` for a name that is not known. -/
abbrev Calls (m : Type → Type) := String → Option (List Value → ExceptT ExpressionError m Value)

variable {m : Type → Type} [Monad m]

/-- Functions that compute nothing but their result. -/
def Calls.ofFunctions (functions : Functions) : Calls m := fun name =>
  (functions name).map fun f arguments => ofResult (f arguments)

/-- The element that an index or a key selects; null when there is none. -/
def select : Value → Value → Value
  | .list items, .number n =>
    match n.toIndex? with
    | some i => items[i]?.getD .null
    | none => .null
  | .mapping fields, .text key => (Fields.get? fields key).getD .null
  | _, _ => .null

mutual

/-- The value of an expression. The second operand of `&&` and `||` is left alone when the first
decides, and a function is looked up only after the arguments of its call have their values. -/
def eval (scope : Value) (calls : Calls m) : Expr → ExceptT ExpressionError m Value
  | .literal v => pure v
  | .list items => do
    let values ← evalAll scope calls items
    return .list values
  | .identifier name => pure ((scope.property? name).getD .null)
  | .member target name => do
    let v ← eval scope calls target
    return (v.property? name).getD .null
  | .index target key => do
    let v ← eval scope calls target
    let k ← eval scope calls key
    return select v k
  | .call function arguments => do
    let values ← evalAll scope calls arguments
    match calls function with
    | some f => f values
    | none => throw (.unknownFunction function)
  | .unary op operand => do
    let v ← eval scope calls operand
    ofResult (op.apply v)
  | .binary .and left right => do
    let l ← eval scope calls left
    if l.isTruthy then
      let r ← eval scope calls right
      return .bool r.isTruthy
    else return .bool false
  | .binary .or left right => do
    let l ← eval scope calls left
    if l.isTruthy then return .bool true
    else
      let r ← eval scope calls right
      return .bool r.isTruthy
  | .binary op left right => do
    let l ← eval scope calls left
    let r ← eval scope calls right
    ofResult (op.apply l r)

def evalAll (scope : Value) (calls : Calls m) :
    List Expr → ExceptT ExpressionError m (List Value)
  | [] => pure []
  | e :: es => do
    let v ← eval scope calls e
    let vs ← evalAll scope calls es
    return v :: vs

end

def evalText (scope : Value) (calls : Calls m) (text : String) :
    ExceptT ExpressionError m Value :=
  match read text.toList with
  | .ok e => eval scope calls e
  | .error trace => throw (.malformed text trace)

end Phrasebook.Expr
