import Phrasebook.Builtin
import Phrasebook.CallStack
import Phrasebook.Island

namespace Phrasebook

/-- A place where a template is rendered: the templates and functions in reach, the choice between
lines, the template at hand with its scope, and the way into other templates. -/
structure Frame (m : Type → Type) where
  registry : Registry
  fallback : Functions
  pick : Nat → m Nat
  current : m Target
  enter : Enter m

namespace Frame

variable {m : Type → Type} [Monad m]

/-- The functions that expressions of the template have. -/
def calls (f : Frame m) : Expr.Calls m := Builtin.calls f.registry f.fallback f.enter

/-- What an expression of the template comes to, be it a failure. -/
def outcome (f : Frame m) (text : String) : m (Except ExpressionError Value) := do
  let target ← f.current
  (Expr.evalText target.scope f.calls text).run

/-- The failure of an expression as a failure of the template `name`. A failure that comes from a
template inside the expression stays what it is. -/
def locate (name text : String) : ExpressionError → EvaluationError
  | .template error => error
  | source => .expression name text source

def evalExpression (f : Frame m) (text : String) : ExceptT EvaluationError m Value :=
  ExceptT.mk do
    let outcome ← f.outcome text
    let target ← f.current
    return outcome.mapError (locate target.name text)

def evalArguments (f : Frame m) : List String → ExceptT EvaluationError m (List Value)
  | [] => pure []
  | text :: texts => do
    let v ← f.evalExpression text
    let vs ← f.evalArguments texts
    return v :: vs

/-- Renders the template that a reference names: in the scope at hand, or with arguments. -/
def renderReference (f : Frame m) (text : String) : ExceptT EvaluationError m String :=
  match Reference.parse text with
  | .error e => throw (.invalidReference e)
  | .ok ⟨name, none⟩ => do
    let target ← ExceptT.lift f.current
    f.enter name target.scope
  | .ok ⟨name, some arguments⟩ => do
    let values ← f.evalArguments arguments
    let scope ← ofResult (f.registry.bindArguments name values)
    f.enter name scope

def renderExpression (f : Frame m) (text : String) : ExceptT EvaluationError m String := do
  let v ← f.evalExpression text
  return v.toText

def renderIsland (f : Frame m) : Island → ExceptT EvaluationError m String
  | .expression text => f.renderExpression text
  | .reference text => f.renderReference text

def renderParts (f : Frame m) : List BlockPart → ExceptT EvaluationError m String
  | [] => pure ""
  | .char c :: parts => do
    let rest ← f.renderParts parts
    return String.singleton c ++ rest
  | .island body :: parts => do
    let text ← f.renderIsland (Island.ofBody body)
    let rest ← f.renderParts parts
    return text ++ rest

def renderSegment (f : Frame m) (s : Segment) : ExceptT EvaluationError m String :=
  match s with
  | .text raw => pure raw
  | .expression _ => f.renderExpression s.inner
  | .reference _ => f.renderReference s.inner
  | .block _ => f.renderParts (BlockPart.ofBlock s.inner.toList)

/-- Renders the segments of a line one after the other. -/
def renderSegments (f : Frame m) : List Segment → ExceptT EvaluationError m String
  | [] => pure ""
  | s :: ss => do
    let text ← f.renderSegment s
    let rest ← f.renderSegments ss
    return text ++ rest

def choose (f : Frame m) (n : Nat) : ExceptT EvaluationError m Nat := ExceptT.lift (f.pick n)

/-- Renders one of the lines. Without lines there is nothing to choose and nothing to render; a
choice too large stands for the last line. -/
def renderChoice (f : Frame m) (lines : List Line) : ExceptT EvaluationError m String :=
  match lines with
  | [] => pure ""
  | first :: more => do
    let index ← f.choose (more.length + 1)
    f.renderSegments ((first :: more)[min index more.length]?.getD first).segments

/-- Whether a condition holds. A condition that fails does not hold. -/
def holds (f : Frame m) (condition : String) : ExceptT EvaluationError m Bool :=
  ExceptT.lift do
    match ← f.outcome condition with
    | .ok v => return v.isTruthy
    | .error _ => return false

/-- Renders one of the lines of the first case whose condition holds, or of the default. -/
def renderCases (f : Frame m) (otherwise : Clause) :
    List Clause → ExceptT EvaluationError m String
  | [] => f.renderChoice otherwise.lines
  | clause :: clauses => do
    if ← f.holds clause.test then f.renderChoice clause.lines else f.renderCases otherwise clauses

def renderBody (f : Frame m) : Body → ExceptT EvaluationError m String
  | .choice lines => f.renderChoice lines
  | .conditional cases otherwise => f.renderCases otherwise cases

end Frame

end Phrasebook
