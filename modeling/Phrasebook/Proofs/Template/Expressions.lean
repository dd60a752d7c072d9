import Phrasebook.Render.Correspondence
import Phrasebook.Result

namespace Phrasebook

/-- A reference holds the expressions of its arguments. -/
def Island.expressions : Island → List String
  | .expression text => [text]
  | .reference text =>
    match Reference.parse text with
    | .ok r => r.arguments.getD []
    | .error _ => []

/-- The conditions of the cases, and after them the expressions in the lines. -/
def Template.expressions (t : Template) : List String :=
  t.body.tests ++ t.body.allLines.flatMap fun line => line.islands.flatMap Island.expressions

theorem Template.mem_expressions_of_island {t : Template} {line : Line} {i : Island}
    {text : String} (hline : line ∈ t.body.allLines) (hi : i ∈ line.islands)
    (htext : text ∈ i.expressions) : text ∈ t.expressions :=
  List.mem_append_right _
    (List.mem_flatMap.2 ⟨line, hline, List.mem_flatMap.2 ⟨i, hi, htext⟩⟩)

namespace Builtin

def rendering : List String := ["foreach", "foreachThenJoin", "humanize", "newParameter"]

/-- The template functions that render nothing. -/
def onLists? (name : String) : Option (List Value → Except EvaluationError Value) :=
  match name with
  | "count" => some (count name)
  | "join" => some (join name)
  | _ => none

section

variable {function : String} {arguments : List Value} {e : EvaluationError}

theorem isRefusal_of_onLists {f : List Value → Except EvaluationError Value}
    (hf : onLists? function = some f) (h : f arguments = .error e) : e.IsRefusal := by
  unfold onLists? at hf
  split at hf
  · cases hf
    exact isRefusal_of_count h
  · cases hf
    exact isRefusal_of_join h
  · contradiction

end

theorem named?_of_not_rendering {m : Type → Type} [Monad m] {r : Registry} {enter : Enter m}
    {name : String} (h : name ∉ rendering) :
    named? r enter name = (onLists? name).map fun f arguments => ofResult (f arguments) := by
  unfold named? onLists?
  split
  · rfl
  · rfl
  iterate 4 exact absurd (by simp [rendering]) h
  · simp only [Option.map_none]

section

variable {m n : Type → Type} [Monad m] [Monad n] [LawfulMonad m] [LawfulMonad n]

theorem inExpression_ofResult (x : Except EvaluationError Value) :
    inExpression (m := m) (ofResult x) = ofResult (x.mapError .template) := by
  cases x with
  | ok v => exact map_pure _ _
  | error e => exact map_pure _ _

/-- A function that renders no template does the same wherever it is called. -/
theorem calls_corresponds_of_not_rendering
    (R : Correspondence (ExceptT ExpressionError m) (ExceptT ExpressionError n))
    (hrefusal : ∀ e : EvaluationError, e.IsRefusal → R.Throws (.template e))
    (r r' : Registry) (fallback : Functions) (enter : Enter m) (enter' : Enter n)
    {function : String} (h : function ∉ rendering)
    (hfallback : ∀ f arguments e, fallback function = some f → f arguments = .error e →
      R.Throws e) :
    (calls r fallback enter).Corresponds R (calls r' fallback enter') function := by
  unfold Expr.Calls.Corresponds calls
  rw [named?_of_not_rendering h, named?_of_not_rendering h]
  cases hf : onLists? function with
  | none => exact Expr.Calls.corresponds_ofFunctions R fallback function hfallback
  | some f =>
    refine .inr ⟨_, _, rfl, rfl, fun arguments => ?_⟩
    rw [inExpression_ofResult, inExpression_ofResult]
    refine R.rel_ofResult _ fun e he => ?_
    cases hresult : f arguments with
    | ok v =>
      rw [hresult] at he
      contradiction
    | error cause =>
      rw [hresult] at he
      cases he
      exact hrefusal cause (isRefusal_of_onLists hf hresult)

end

end Builtin

namespace Expr

/-- No expression with this text calls a function that renders templates. -/
def RendersNothing (text : String) : Prop :=
  ∀ e, read text.toList = .ok e → ∀ function ∈ Builtin.rendering, ¬ e.Invokes function

instance (text : String) : Decidable (RendersNothing text) :=
  match h : read text.toList with
  | .ok e => decidable_of_iff (∀ function ∈ Builtin.rendering, ¬ e.Invokes function)
      (by simp [RendersNothing, h])
  | .error _ => isTrue (by simp [RendersNothing, h])

/-- An expression that renders nothing comes to the same wherever it stands. -/
theorem RendersNothing.rel_evalText {m n : Type → Type} [Monad m] [Monad n] [LawfulMonad m]
    [LawfulMonad n] {R : Correspondence (ExceptT ExpressionError m) (ExceptT ExpressionError n)}
    {text : String} (h : RendersNothing text) (scope : Value)
    (hthrow : ∀ e : ExpressionError, e.IsPlain → R.Throws e)
    (hrefusal : ∀ e : EvaluationError, e.IsRefusal → R.Throws (.template e))
    (r r' : Registry) (fallback : Functions) (enter : Enter m) (enter' : Enter n)
    (hfallback : ∀ name f arguments e, fallback name = some f → f arguments = .error e →
      R.Throws e) :
    R.Rel (evalText scope (Builtin.calls r fallback enter) text)
      (evalText scope (Builtin.calls r' fallback enter') text) := by
  refine Expr.rel_evalText hthrow text fun e he part hpart => ?_
  cases part with
  | identifier name => exact rfl
  | call function arguments =>
    have hfunction : function ∉ Builtin.rendering :=
      fun hmem => h e he function hmem ⟨arguments, hpart⟩
    exact Builtin.calls_corresponds_of_not_rendering R hrefusal r r' fallback enter enter'
      hfunction (hfallback function)
  | _ => exact trivial

end Expr

end Phrasebook
