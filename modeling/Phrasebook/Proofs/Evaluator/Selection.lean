import Phrasebook.Proofs.Evaluator.Outcomes
import Phrasebook.Proofs.Number.Rounding
import Phrasebook.Proofs.Registry.Loading
import Phrasebook.Proofs.Template.Expressions

namespace Phrasebook

variable {σ : Type}

/-- The values that do not hold: `false`, and zero as a number of either kind, with either sign. -/
inductive Value.IsFalse : Value → Prop where
  | bool : IsFalse (.bool false)
  | int : IsFalse (.int 0)
  | float (negative : Bool) : IsFalse (.number (.float ⟨negative, 0⟩))

theorem Value.isTruthy_eq_false_iff (v : Value) : v.isTruthy = false ↔ v.IsFalse := by
  constructor
  · intro h
    match v with
    | .bool false => exact .bool
    | .number (.int i) =>
      have hzero : (Double.ofInt i).isZero = true := by simpa [isTruthy, Number.toDouble] using h
      rw [Double.isZero_ofInt, decide_eq_true_iff] at hzero
      rw [hzero]
      exact .int
    | .number (.float ⟨negative, units⟩) =>
      have hzero : Double.isZero ⟨negative, units⟩ = true := by
        simpa [isTruthy, Number.toDouble] using h
      obtain rfl : units = 0 := of_decide_eq_true hzero
      exact .float negative
    | .bool true | .null | .text _ | .list _ | .mapping _ => cases h
  · rintro (_ | _ | negative)
    · rfl
    · change (!(Double.ofInt 0).isZero) = false
      rw [Double.isZero_ofInt]
      rfl
    · rfl

/-- What an expression comes to apart from any evaluator, where there is no template to render. -/
def Expr.outcomeApart (fallback : Functions) (scope : Value) (text : String) :
    Except ExpressionError Value :=
  (evalText (m := Id) scope
    (Builtin.calls .empty fallback fun name _ => throw (.unknownTemplate name)) text).run

namespace Clause

/-- The condition has a value, and this is not one of those that do not hold. -/
def Holds (fallback : Functions) (scope : Value) (c : Clause) : Prop :=
  ∃ v, Expr.outcomeApart fallback scope c.test = .ok v ∧ ¬ v.IsFalse

section

variable {fallback : Functions} {scope : Value} {c : Clause}

theorem holds_iff_of_ok {v : Value} (h : Expr.outcomeApart fallback scope c.test = .ok v) :
    c.Holds fallback scope ↔ v.isTruthy = true := by
  simp [Holds, h, ← Value.isTruthy_eq_false_iff]

theorem not_holds_of_error {e : ExpressionError}
    (h : Expr.outcomeApart fallback scope c.test = .error e) : ¬ c.Holds fallback scope := by
  simp [Holds, h]

instance : Decidable (c.Holds fallback scope) :=
  match h : Expr.outcomeApart fallback scope c.test with
  | .ok _ => decidable_of_iff _ (holds_iff_of_ok h).symm
  | .error _ => isFalse (not_holds_of_error h)

end

/-- The first of the cases that holds in the scope, or the default if none does. -/
def selected (fallback : Functions) (scope : Value) (cases : List Clause) (otherwise : Clause) :
    Clause :=
  (cases.find? fun c => c.Holds fallback scope).getD otherwise

end Clause

/-- Computations that give a result and leave the evaluator as it is. -/
def purity (σ : Type) : Correspondence Id (Process σ) where
  Rel x y := ∀ e, y.run e = some (x.run, e)
  pure _ := fun _ => rfl
  bind := by
    intro α β x y f g hx hf e
    rw [StateT.run_bind, hx e]
    exact hf x.run e

/-- The first case whose condition holds is rendered, if conditions leave the evaluator as it is. -/
theorem Frame.run_renderCases {f : Frame (Process σ)} {holds : Clause → Bool} {cases : List Clause}
    (otherwise : Clause) {e : Evaluation σ}
    (h : ∀ c ∈ cases, Yields (f.holds c.test) e (holds c) e) :
    (f.renderCases otherwise cases).run e =
      (f.renderChoice ((cases.find? holds).getD otherwise).lines).run e := by
  induction cases with
  | nil => rfl
  | cons c cases ih =>
    rw [List.forall_mem_cons] at h
    rw [renderCases, run_bind_of_yields h.1]
    cases hc : holds c with
    | true => rw [List.find?_cons_of_pos hc, Option.getD_some, if_pos rfl]
    | false => rw [List.find?_cons_of_neg (by simp [hc]), if_neg Bool.false_ne_true, ih h.2]

namespace Library

variable (l : Library σ) (enter : Enter (Process σ))

/-- With lines to choose from the picker is asked once, for one of them, and that line is rendered
then. An index too large stands for the last line. -/
theorem run_renderChoice {lines : List Line} (h : lines ≠ []) (e : Evaluation σ) :
    let choice := l.picker.pick lines.length e.picker
    ∃ line, lines[min choice.1 (lines.length - 1)]? = some line ∧
      ((l.frame enter).renderChoice lines).run e =
        ((l.frame enter).renderSegments line.segments).run { e with picker := choice.2 } := by
  intro choice
  cases lines with
  | nil => contradiction
  | cons first more =>
    have hbound : min choice.1 more.length < (first :: more).length := by
      rw [List.length_cons]
      omega
    refine ⟨(first :: more)[min choice.1 more.length], List.getElem?_eq_getElem hbound, ?_⟩
    have hchoose : Yields ((l.frame enter).choose (more.length + 1)) e choice.1
        { e with picker := choice.2 } := rfl
    rw [Frame.renderChoice, run_bind_of_yields hchoose, List.getElem?_eq_getElem hbound,
      Option.getD_some]

/-- An expression that renders nothing comes to the same in every evaluator, and leaves it as it
is. -/
theorem run_evalText {text : String} (h : Expr.RendersNothing text) (scope : Value)
    (e : Evaluation σ) :
    (Expr.evalText scope (l.frame enter).calls text).run.run e =
      some (Expr.outcomeApart l.fallback scope text, e) := by
  have hrel := h.rel_evalText (R := (purity σ).except _) scope
    (fun e _ => (purity σ).except_throws e) (fun e _ => (purity σ).except_throws _)
    .empty l.registry l.fallback (fun name _ => throw (.unknownTemplate name)) enter
    fun _ _ _ e _ _ => (purity σ).except_throws e
  exact hrel e

/-- A condition that renders nothing holds by its value in the scope at hand. It does not fail, and
it leaves the evaluator as it is. -/
theorem yields_holds {c : Clause} (h : Expr.RendersNothing c.test) (e : Evaluation σ) :
    Yields ((l.frame enter).holds c.test) e
      (decide (c.Holds l.fallback e.calls.current.scope)) e := by
  have hrun := l.run_evalText enter h e.calls.current.scope e
  unfold Yields Frame.holds
  change Option.bind (Option.bind
    ((Expr.evalText e.calls.current.scope (l.frame enter).calls c.test).run.run e) _) _ = _
  rw [hrun]
  cases ho : Expr.outcomeApart l.fallback e.calls.current.scope c.test with
  | ok v =>
    have htruth : decide (c.Holds l.fallback e.calls.current.scope) = v.isTruthy := by
      rw [Bool.eq_iff_iff, decide_eq_true_iff, Clause.holds_iff_of_ok ho]
    rw [htruth]
    rfl
  | error error =>
    rw [decide_eq_false (Clause.not_holds_of_error ho)]
    rfl

/-- A conditional template whose conditions render nothing always renders the same clause in a
scope: the first case that holds, or the default. This depends on the functions at hand only, not
on the templates around it, on what is being rendered or on the picker. Conditions do not fail the
rendering and do not touch the evaluator, so the picker is first asked for a line of that clause. -/
theorem conditional_renders_selected_clause {t : Template} {cases : List Clause}
    {otherwise : Clause} (hbody : t.body = .conditional cases otherwise)
    (hconditions : ∀ test ∈ t.body.tests, Expr.RendersNothing test) (scope : Value)
    (l : Library σ) (ht : l.registry.get? t.name = some t) (e : Evaluation σ)
    (hname : t.name ∉ e.calls.inFlight) :
    let clause := Clause.selected l.fallback scope cases otherwise
    let f := l.frame l.evaluate
    let inside := e.enter ⟨t.name, scope⟩
    let choice := l.picker.pick clause.lines.length e.picker
    (l.evaluate t.name scope).run e =
      ((f.renderChoice clause.lines).run inside).map
        (fun (outcome, e') => (outcome, e'.leave t.name)) ∧
    (∀ c ∈ cases, Yields (f.holds c.test) inside (decide (c.Holds l.fallback scope)) inside) ∧
    (clause.lines ≠ [] → ∃ line,
      clause.lines[min choice.1 (clause.lines.length - 1)]? = some line ∧
      (f.renderChoice clause.lines).run inside =
        (f.renderSegments line.segments).run { inside with picker := choice.2 }) := by
  intro clause f inside choice
  have hholds : ∀ c ∈ cases,
      Yields (f.holds c.test) inside (decide (c.Holds l.fallback scope)) inside := by
    intro c hc
    have htest : c.test ∈ t.body.tests := by
      rw [hbody]
      exact List.mem_map_of_mem hc
    have hyields := l.yields_holds l.evaluate (hconditions c.test htest) inside
    have hcurrent : inside.calls.current = ⟨t.name, scope⟩ := CallStack.current_push _ _
    rwa [hcurrent] at hyields
  refine ⟨?_, hholds, fun hlines => l.run_renderChoice l.evaluate hlines inside⟩
  rw [evaluate, l.enterOnce_known l.evaluate scope e ht hname, hbody]
  exact congrArg (Option.map _) (Frame.run_renderCases otherwise hholds)

/-- Conditions that divide by zero, call an unknown function and come to zero, and one that holds. -/
def doorCases : List Clause :=
  [⟨some "10 / (level - 3) > 1", [⟨[.text "far"], ⟨3, 1, 40, 1, none⟩⟩], ⟨2, 1, 9, 1, none⟩⟩,
    ⟨some "locked(keys)", [⟨[.text "locked"], ⟨5, 1, 66, 1, none⟩⟩], ⟨4, 1, 47, 1, none⟩⟩,
    ⟨some "level - 3.0", [⟨[.text "below"], ⟨7, 1, 93, 1, none⟩⟩], ⟨6, 1, 75, 1, none⟩⟩,
    ⟨some "count(keys)", [⟨[.text "open"], ⟨9, 1, 119, 1, none⟩⟩,
      ⟨[.text "ajar"], ⟨10, 1, 126, 1, none⟩⟩], ⟨8, 1, 101, 1, none⟩⟩]

def doorDefault : Clause :=
  ⟨none, [⟨[.text "closed"], ⟨12, 1, 143, 1, none⟩⟩], ⟨11, 1, 133, 1, none⟩⟩

def door : Template := ⟨"Door", [], .conditional doorCases doorDefault, ⟨1, 1, 0, 1, none⟩⟩

/-- A picker out of range takes the last line of the fourth case, and is asked once for it. -/
theorem door_is_ajar :
    let l : Library Nat :=
      ⟨.ofDistinct [door] (by decide), .standard, ⟨fun n made => (n + made, made + 1)⟩⟩
    let scope : Value := .mapping [("keys", .list [.text "a", .text "b"]), ("level", .int 3)]
    (∀ test ∈ door.body.tests, Expr.RendersNothing test) ∧ l.registry.get? "Door" = some door ∧
    "Door" ∉ (Evaluation.start 7).calls.inFlight ∧
    doorCases[3]? = some (Clause.selected l.fallback scope doorCases doorDefault) ∧
    ∃ e', (l.evaluate "Door" scope).run (.start 7) = some (.ok "ajar", e') ∧ e'.picker = 8 := by
  intro l scope
  have hconditions : ∀ test ∈ door.body.tests, Expr.RendersNothing test := by decide +kernel
  have hget : l.registry.get? "Door" = some door := rfl
  have hname : "Door" ∉ (Evaluation.start 7).calls.inFlight := List.not_mem_nil
  have hselected : doorCases[3]? = some (Clause.selected l.fallback scope doorCases doorDefault) := by
    decide +kernel
  refine ⟨hconditions, hget, hname, hselected, ?_⟩
  obtain ⟨hrun, -, -⟩ := conditional_renders_selected_clause (t := door) rfl hconditions scope l hget
    (.start 7) hname
  rw [← Option.some.inj hselected] at hrun
  exact ⟨_, hrun, rfl⟩

end Library

end Phrasebook
