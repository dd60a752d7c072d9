import Phrasebook.Expression.Trace
import Phrasebook.Reference
import Phrasebook.Value.Basic

namespace Phrasebook

mutual

/-- What can go wrong in an expression. Expressions fail inside templates, and templates that an
expression renders fail inside expressions, so the two kinds of error contain each other. -/
inductive ExpressionError where
  | malformed (text : String) (trace : Trace)
  | unknownFunction (name : String)
  | typeMismatch (operation expected found : String)
  | divisionByZero
  /-- A function refuses its arguments. -/
  | function (name message : String)
  /-- A template that the expression renders fails. -/
  | template (error : EvaluationError)

inductive EvaluationError where
  | unknownTemplate (name : String)
  /-- A template is rendered inside itself: the names from its first entry to the one refused. -/
  | cycle (path : List String)
  | argumentCountMismatch (template : String) (expected found : Nat)
  | invalidReference (error : ReferenceError)
  | expression (template text : String) (source : ExpressionError)
  | typeMismatch (function expected found : String)
  | argumentShape (function message : String)

end

instance : Inhabited ExpressionError := ⟨.divisionByZero⟩

instance : Inhabited EvaluationError := ⟨.cycle []⟩

/-- A mismatch that shows the type of the value found. -/
def ExpressionError.mismatch (operation expected : String) (found : Value) : ExpressionError :=
  .typeMismatch operation expected found.typeName

/-- The failure is the expression's own and none of a template inside it. -/
def ExpressionError.IsPlain (e : ExpressionError) : Prop := ∀ error, e ≠ .template error

@[simp] theorem ExpressionError.isPlain_mismatch (operation expected : String) (found : Value) :
    (mismatch operation expected found).IsPlain := fun _ => nofun

@[simp] theorem ExpressionError.isPlain_divisionByZero : divisionByZero.IsPlain := fun _ => nofun

@[simp] theorem ExpressionError.isPlain_function (name message : String) :
    (function name message).IsPlain := fun _ => nofun

@[simp] theorem ExpressionError.isPlain_malformed (text : String) (trace : Trace) :
    (malformed text trace).IsPlain := fun _ => nofun

@[simp] theorem ExpressionError.isPlain_unknownFunction (name : String) :
    (unknownFunction name).IsPlain := fun _ => nofun

/-- A template is rendered inside itself. -/
def EvaluationError.IsCycle : EvaluationError → Prop
  | .cycle _ => True
  | _ => False

/-- A template function refuses its arguments. -/
def EvaluationError.IsRefusal : EvaluationError → Prop
  | .typeMismatch _ _ _ | .argumentShape _ _ => True
  | _ => False

theorem EvaluationError.IsRefusal.not_isCycle {e : EvaluationError} (h : e.IsRefusal) :
    ¬ e.IsCycle := by
  cases e <;> simp_all [IsRefusal, IsCycle]

mutual

def ExpressionError.message : ExpressionError → String
  | .malformed text trace =>
    let head := "Syntax error in expression '" ++ text ++ "'"
    if trace = [] then head else head ++ ": " ++ trace.describe text.toList
  | .unknownFunction name => "Unknown function: " ++ name
  | .typeMismatch operation expected found =>
    "Type mismatch in " ++ operation ++ ": expected " ++ expected ++ ", found " ++ found
  | .divisionByZero => "Division by zero"
  | .function name message => name ++ ": " ++ message
  | .template error => error.message

def EvaluationError.message : EvaluationError → String
  | .unknownTemplate name => "Unknown template: '" ++ name ++ "'"
  | .cycle path => "Loop detected: " ++ " => ".intercalate path
  | .argumentCountMismatch template expected found =>
    "Template '" ++ template ++ "' expects " ++ toString expected ++ " argument(s), but " ++
      toString found ++ " were supplied"
  | .invalidReference error => error.message
  | .expression template text source =>
    "Error evaluating '" ++ text ++ "' in template '" ++ template ++ "': " ++ source.message
  | .typeMismatch function expected found =>
    "Type error in " ++ function ++ ": expected " ++ expected ++ ", found " ++ found
  | .argumentShape function message => "Bad arguments to " ++ function ++ ": " ++ message

end

mutual

/-- The same failure with the accounts of malformed expressions left out. -/
def ExpressionError.brief : ExpressionError → ExpressionError
  | .malformed text _ => .malformed text []
  | .template error => .template error.brief
  | other => other

def EvaluationError.brief : EvaluationError → EvaluationError
  | .expression template text source => .expression template text source.brief
  | other => other

end

/-- The message of the failure, and those of the failures that caused it. -/
def EvaluationError.chain (e : EvaluationError) : List String :=
  match e with
  | .expression _ _ source => [e.message, source.message]
  | _ => [e.message]

/-- Computations over a state of type `σ` that may fail; a failure keeps the state reached. -/
abbrev Run (ε σ : Type) := ExceptT ε (StateM σ)

end Phrasebook
