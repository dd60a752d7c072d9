import Phrasebook.Proofs.Evaluator.Callers
import Phrasebook.Proofs.Evaluator.Failures
import Phrasebook.Proofs.Registry.Loading
import Phrasebook.Proofs.Template.Expressions

namespace Phrasebook

variable {σ ε α β : Type}

/-- From every state both do the same, unless the first one fails with an error of which `P`
holds. -/
def AgreesUnless (P : ε → Prop) (x y : Run ε σ α) : Prop :=
  ∀ s, (∃ e, (x.run.run s).1 = .error e ∧ P e) ∨ x.run.run s = y.run.run s

section

variable {P : ε → Prop} {x y : Run ε σ α}

theorem AgreesUnless.refl (x : Run ε σ α) : AgreesUnless P x x := fun _ => .inr rfl

theorem AgreesUnless.of_throw {e : ε} (h : P e) : AgreesUnless P (throw e) y :=
  fun _ => .inl ⟨e, rfl, h⟩

theorem AgreesUnless.bind {f g : α → Run ε σ β} (hxy : AgreesUnless P x y)
    (hfg : ∀ a, AgreesUnless P (f a) (g a)) : AgreesUnless P (x >>= f) (y >>= g) := by
  intro s
  have hs := hxy s
  simp only [ExceptT.run_bind, StateT.run_bind]
  generalize x.run.run s = result at hs
  generalize y.run.run s = result' at hs
  obtain ⟨outcome, s'⟩ := result
  obtain ⟨e, he, hP⟩ | rfl := hs
  · obtain rfl : outcome = .error e := he
    exact .inl ⟨e, rfl, hP⟩
  · cases outcome with
    | ok a => exact hfg a s'
    | error e => exact .inr rfl

end

/-- Sequencing respects the agreement up to an exception. -/
def tolerance (P : ε → Prop) : Correspondence (Run ε σ) (Run ε σ) where
  Rel := AgreesUnless P
  pure a := .refl (pure a)
  bind := .bind

theorem tolerance_throws (P : ε → Prop) (e : ε) : (tolerance (σ := σ) P).Throws e :=
  fun α => .refl (throw e : Run ε σ α)

/-- The error comes from a template inside the expression, and `P` holds of it there. -/
def ExpressionError.Carries (P : EvaluationError → Prop) (e : ExpressionError) : Prop :=
  ∃ error, e = .template error ∧ P error

theorem AgreesUnless.inExpression {P : EvaluationError → Prop} {x y : Run EvaluationError σ Value}
    (h : AgreesUnless P x y) :
    AgreesUnless (ExpressionError.Carries P) (Builtin.inExpression x) (Builtin.inExpression y) := by
  intro s
  have hs := h s
  change (∃ e, (((Except.mapError ExpressionError.template <$> x.run).run s).1 = .error e) ∧ _) ∨
    (Except.mapError ExpressionError.template <$> x.run).run s =
      (Except.mapError ExpressionError.template <$> y.run).run s
  rw [StateT.run_map, StateT.run_map]
  generalize x.run.run s = result at hs
  generalize y.run.run s = result' at hs
  obtain ⟨e, he, hP⟩ | rfl := hs
  · refine .inl ⟨.template e, ?_, e, rfl, hP⟩
    change Except.mapError ExpressionError.template result.1 = _
    rw [he]
    rfl
  · exact .inr rfl

namespace Library

/-- Libraries with the same functions and the same picker, whose registries do the same unless the
first one has to refuse with an error of which `P` holds. -/
structure Matches (P : EvaluationError → Prop) (l l' : Library σ) : Prop where
  registry : Registry.Matches (tolerance (σ := σ) P) l.registry l'.registry
  fallback : l.fallback = l'.fallback
  picker : l.picker = l'.picker

theorem Matches.refl (P : EvaluationError → Prop) (l : Library σ) : Matches P l l where
  registry := .refl (fun e _ => tolerance_throws P e) l.registry
  fallback := rfl
  picker := rfl

section

variable {P : EvaluationError → Prop} {l l' : Library σ} (hl : Matches P l l') {name : String}
  {scope : Value} {enter enter' : Enter (StateM σ)}

include hl

/-- A condition that renders nothing depends neither on the templates nor on how they are entered. -/
theorem holds_eq {text : String} (h : Expr.RendersNothing text) :
    (l.callersFrame name scope enter).holds text =
      (l'.callersFrame name scope enter').holds text := by
  have heval : Expr.evalText scope (l.callersFrame name scope enter).calls text =
      Expr.evalText scope (l'.callersFrame name scope enter').calls text := by
    have hcalls : (l'.callersFrame name scope enter').calls =
        Builtin.calls l'.registry l.fallback enter' := by
      rw [hl.fallback]
      rfl
    rw [hcalls]
    apply h.rel_evalText (R := Correspondence.equality _) scope
    · intro e _
      exact Correspondence.equality_throws e
    · intro e _
      exact Correspondence.equality_throws _
    · intro function f arguments e _ _
      exact Correspondence.equality_throws e
  have houtcome : (l.callersFrame name scope enter).outcome text =
      (l'.callersFrame name scope enter').outcome text := by
    unfold Frame.outcome
    rw [callersFrame_current, callersFrame_current, pure_bind, pure_bind, heval]
  unfold Frame.holds
  rw [houtcome]

variable (henter : ∀ inner innerScope,
  AgreesUnless P (enter inner innerScope) (enter' inner innerScope))

include henter

theorem agreesUnless_evalText (name : String) (scope : Value) (text : String) :
    AgreesUnless (ExpressionError.Carries P)
      (Expr.evalText scope (l.callersFrame name scope enter).calls text)
      (Expr.evalText scope (l'.callersFrame name scope enter').calls text) := by
  have hcalls : (l'.callersFrame name scope enter').calls =
      Builtin.calls l'.registry l.fallback enter' := by
    rw [hl.fallback]
    rfl
  rw [hcalls]
  apply Expr.rel_evalText (R := tolerance (ExpressionError.Carries P))
  · intro e _
    exact tolerance_throws _ e
  · intro e _ part _
    cases part with
    | identifier x => exact rfl
    | call function arguments =>
      apply Builtin.calls_corresponds_of_matches (R := tolerance P)
      · intro e _
        exact tolerance_throws P e
      · intro x y hxy
        exact hxy.inExpression
      · exact henter
      · intro f arguments e _ _
        exact tolerance_throws _ e
      · exact hl.registry
    | _ => exact trivial

theorem agreesUnless_evalExpression (text : String) :
    AgreesUnless P ((l.callersFrame name scope enter).evalExpression text)
      ((l'.callersFrame name scope enter').evalExpression text) := by
  intro s
  have hs := agreesUnless_evalText hl henter name scope text s
  have hleft := Frame.run_evalExpression (l.callersFrame_current name scope enter) text
  have hright := Frame.run_evalExpression (l'.callersFrame_current name scope enter') text
  rw [hleft, hright, StateT.run_map, StateT.run_map]
  generalize (Expr.evalText scope (l.callersFrame name scope enter).calls text).run.run s = result
    at hs
  generalize (Expr.evalText scope (l'.callersFrame name scope enter').calls text).run.run s = result'
    at hs
  obtain ⟨e, he, error, rfl, hP⟩ | rfl := hs
  · refine .inl ⟨error, ?_, hP⟩
    change Except.mapError (Frame.locate name text) result.1 = _
    rw [he]
    rfl
  · exact .inr rfl

theorem agreesUnless_renderReference (text : String) :
    AgreesUnless P ((l.callersFrame name scope enter).renderReference text)
      ((l'.callersFrame name scope enter').renderReference text) := by
  unfold Frame.renderReference
  split
  · exact .refl _
  · apply AgreesUnless.bind (.refl _)
    intro target
    exact henter _ _
  · apply AgreesUnless.bind
    · apply Frame.rel_evalArguments (R := tolerance P)
      intro argument _
      exact agreesUnless_evalExpression hl henter argument
    · intro values
      apply AgreesUnless.bind (hl.registry.bind _ _)
      intro innerScope
      exact henter _ _

/-- Bodies agree if the templates inside them do. A condition swallows failures, so it must not
depend on those templates at all. -/
theorem agreesUnless_renderBody {b : Body} (htests : ∀ test ∈ b.tests, Expr.RendersNothing test) :
    AgreesUnless P ((l.callersFrame name scope enter).renderBody b)
      ((l'.callersFrame name scope enter').renderBody b) := by
  apply Frame.rel_renderBody (R := tolerance P)
  · intro k
    have hchoose : (l.callersFrame name scope enter).choose k =
        (l'.callersFrame name scope enter').choose k := by
      unfold Frame.choose callersFrame
      rw [hl.picker]
    change AgreesUnless P _ ((l'.callersFrame name scope enter').choose k)
    rw [hchoose]
    exact .refl _
  · intro test htest
    have heq : (l.callersFrame name scope enter).holds test =
        (l'.callersFrame name scope enter').holds test := holds_eq hl (htests test htest)
    change AgreesUnless P ((l.callersFrame name scope enter).holds test)
      ((l'.callersFrame name scope enter').holds test)
    rw [heq]
    exact .refl _
  · intro line _ i _
    cases i with
    | expression text =>
      apply AgreesUnless.bind (agreesUnless_evalExpression hl henter text)
      intro v
      exact .refl _
    | reference text => exact agreesUnless_renderReference hl henter text

end

end Library

/-- A template is refused because one with a name among these is being rendered. -/
def EvaluationError.ClosesOn (names : List String) : EvaluationError → Prop
  | .cycle path => ∃ name ∈ names, path.getLast? = some name
  | _ => False

theorem EvaluationError.closesOn_cycle {names : List String} {name : String} (h : name ∈ names)
    (path : List String) : (cycle (path ++ [name])).ClosesOn names :=
  ⟨name, h, List.getLast?_concat⟩

namespace Library

section

variable (l : Library σ)
  (hconditions : ∀ t ∈ l.registry.templates, ∀ test ∈ t.body.tests, Expr.RendersNothing test)

include hconditions

/-- The callers of a run of templates may have been called themselves. The induction is along the
rendering of the templates inside; a template among the outer callers is refused, and one among the
inner callers is refused with the same path. -/
theorem render_agreesUnless (outer callers : List String) (name : String) (scope : Value) :
    AgreesUnless (EvaluationError.ClosesOn outer) (l.render (outer ++ callers) name scope)
      (l.render callers name scope) := by
  induction callers, name, scope using Library.render.induct l with
  | case1 callers name scope hnone =>
    rw [l.render_unknown scope hnone, l.render_unknown scope hnone]
    exact .refl _
  | case2 callers name scope t ht hcycle =>
    have hmem : name ∈ outer ++ callers := List.mem_append_right _ hcycle
    rw [l.render_inFlight scope ht hmem, l.render_inFlight scope ht hcycle]
    by_cases houter : name ∈ outer
    · exact .of_throw (EvaluationError.closesOn_cycle houter _)
    · have hskip : ∀ n ∈ outer, (n != name) = true := by
        intro n hn
        simp only [bne_iff_ne, ne_eq]
        rintro rfl
        exact houter hn
      rw [List.dropWhile_append_of_pos hskip]
      exact .refl _
  | case3 callers name scope t ht hnew ih =>
    by_cases houter : name ∈ outer
    · have hmem : name ∈ outer ++ callers := List.mem_append_left _ houter
      rw [l.render_inFlight scope ht hmem]
      exact .of_throw (EvaluationError.closesOn_cycle houter _)
    · have hnew' : name ∉ outer ++ callers := by
        rw [List.mem_append, not_or]
        exact ⟨houter, hnew⟩
      rw [l.render_known scope ht hnew', l.render_known scope ht hnew]
      apply agreesUnless_renderBody (.refl _ l)
      · intro inner innerScope
        have hinner := ih inner innerScope
        rwa [← List.append_assoc] at hinner
      · exact hconditions t (Registry.mem_of_get? ht)

/-- Rendered on top of a disciplined call stack, a template gives the text or the failure that it
gives on an empty one, and leaves the picker in the same state; or it fails because a template of
that call stack would have been rendered again. Conditions must not render templates, for they would
take such a failure for an answer. -/
theorem evaluate_same_on_any_stack (name : String) (scope : Value) (e : Evaluation σ)
    (he : e.calls.Disciplined l.registry) :
    ∃ outcome e', (l.evaluate name scope).run e = some (outcome, e') ∧ e'.calls = e.calls ∧
      ((∃ f, (l.evaluate name scope).run (.start e.picker) = some (outcome, f) ∧
          f.picker = e'.picker) ∨
        ∃ path, outcome = .error (.cycle path) ∧
          ∃ inFlight ∈ e.calls.names, path.getLast? = some inFlight) := by
  obtain ⟨log, -, hrun⟩ := l.evaluate_agrees he name scope e rfl
  obtain ⟨log', -, hempty⟩ := l.evaluate_agrees (CallStack.disciplined_empty l.registry) name scope
    (.start e.picker) rfl
  have hagree := l.render_agreesUnless hconditions e.calls.names [] name scope e.picker
  rw [List.append_nil] at hagree
  obtain ⟨error, herror, hcloses⟩ | hsame := hagree
  · refine ⟨_, _, hrun, rfl, .inr ?_⟩
    cases error with
    | cycle path => exact ⟨path, herror, hcloses⟩
    | _ => exact hcloses.elim
  · rw [hsame] at hrun
    exact ⟨_, _, hrun, rfl, .inl ⟨_, hempty, rfl⟩⟩

end

/-- A menu renders its dishes with a layout, under a condition that only counts them. -/
def menu : Registry :=
  .ofDistinct
    [⟨"Menu", [], .conditional
        [⟨some "count(dishes) > 0",
          [⟨[.expression "{join(foreach(dishes, layout), comma)}"], ⟨3, 1, 35, 1, none⟩⟩],
          ⟨2, 1, 7, 1, none⟩⟩]
        ⟨none, [⟨[.text "closed"], ⟨5, 1, 87, 1, none⟩⟩], ⟨4, 1, 76, 1, none⟩⟩,
        ⟨1, 1, 0, 1, none⟩⟩,
      ⟨"Dish", ["dish"], .choice [⟨[.expression "{dish}", .reference "[Chef]"], ⟨7, 1, 109, 1, none⟩⟩],
        ⟨6, 1, 96, 1, none⟩⟩,
      ⟨"Chef", [], .choice [⟨[.text "by Ann"], ⟨9, 1, 131, 1, none⟩⟩], ⟨8, 1, 124, 1, none⟩⟩]
    (by decide)

/-- While a dish is being rendered, a menu with the layout of a dish would render one again. -/
theorem menu_same_around_dish :
    let l : Library Unit := ⟨menu, .standard, .fixed 0⟩
    let scope : Value := .mapping
      [("comma", .text ","), ("dishes", .list [.text "soup", .text "pie"]), ("layout", .text "Dish")]
    let e : Evaluation Unit := ⟨⟨[⟨"Dish", .text "pie"⟩], ["Dish"]⟩, (), []⟩
    (∀ t ∈ l.registry.templates, ∀ test ∈ t.body.tests, Expr.RendersNothing test) ∧
    e.calls.Disciplined l.registry ∧
    ∃ outcome e', (l.evaluate "Menu" scope).run e = some (outcome, e') ∧ e'.calls = e.calls ∧
      ((∃ f, (l.evaluate "Menu" scope).run (.start e.picker) = some (outcome, f) ∧
          f.picker = e'.picker) ∨
        ∃ path, outcome = .error (.cycle path) ∧
          ∃ inFlight ∈ e.calls.names, path.getLast? = some inFlight) := by
  intro l scope e
  have hconditions : ∀ t ∈ l.registry.templates, ∀ test ∈ t.body.tests,
      Expr.RendersNothing test := by decide +kernel
  have hdisciplined : e.calls.Disciplined l.registry := by
    constructor
    · decide
    · decide
    · intro name
      exact Iff.rfl
  exact ⟨hconditions, hdisciplined,
    l.evaluate_same_on_any_stack hconditions "Menu" scope e hdisciplined⟩

end Library

end Phrasebook
