import Mathlib.Logic.Relation
import Phrasebook.Proofs.Evaluator.Demands
import Phrasebook.Proofs.Evaluator.Discipline
import Phrasebook.Proofs.Registry.Loading
import Phrasebook.Proofs.Template.Expressions

namespace Phrasebook

variable {σ : Type}

/-- A piece of work that can fail. -/
inductive Task where
  | template (name : String) (scope : Value)
  | island (i : Island)
  | expression (text : String)
  /-- A part of an expression, in the scope of its template. -/
  | part (scope : Value) (tree : Expr)
  /-- A call of a template function. -/
  | call (function : String) (arguments : List Value)

namespace Library

section

variable (l : Library σ)

/-- The place where the evaluator renders the template on top of its stack. -/
def site : Frame (Process σ) := l.frame l.evaluate

/-- The task fails with the error when it is started in this state. -/
def Fails : Task × Evaluation σ → EvaluationError → Prop
  | (.template name scope, e), error => FailsWith (l.evaluate name scope) e error
  | (.island i, e), error => FailsWith (l.site.renderIsland i) e error
  | (.expression text, e), error => FailsWith (l.site.evalExpression text) e error
  | (.part scope tree, e), error =>
    FailsWith (Expr.eval scope l.site.calls tree) e (.template error)
  | (.call function arguments, e), error =>
    ∃ f, Builtin.named? l.registry l.evaluate function = some f ∧ FailsWith (f arguments) e error

/-- The first task, started in its state, comes to start the second one in the other state. The
conditions of a template are no tasks of it. -/
inductive Starts : Task × Evaluation σ → Task × Evaluation σ → Prop where
  | line {name : String} {scope : Value} {t : Template} {line : Line} {i : Island}
      {e e₁ e₂ : Evaluation σ} (ht : l.registry.get? name = some t)
      (hnew : name ∉ e.calls.inFlight)
      (hline : Yields (l.site.chosenLine t.body) (e.enter ⟨name, scope⟩) (some line) e₁)
      (hturn : Turn l.site.renderIsland line.islands e₁ i e₂) :
      Starts (.template name scope, e) (.island i, e₂)
  | expression {text : String} {e : Evaluation σ} :
      Starts (.island (.expression text), e) (.expression text, e)
  | reference {text name : String} {e : Evaluation σ}
      (hparse : Reference.parse text = .ok ⟨name, none⟩) :
      Starts (.island (.reference text), e) (.template name e.calls.current.scope, e)
  | argument {text name argument : String} {arguments : List String} {e e' : Evaluation σ}
      (hparse : Reference.parse text = .ok ⟨name, some arguments⟩)
      (hturn : Turn l.site.evalExpression arguments e argument e') :
      Starts (.island (.reference text), e) (.expression argument, e')
  | referenceWith {text name : String} {arguments : List String} {values : List Value}
      {scope : Value} {e e' : Evaluation σ}
      (hparse : Reference.parse text = .ok ⟨name, some arguments⟩)
      (hvalues : Yields (l.site.evalArguments arguments) e values e')
      (hbind : l.registry.bindArguments name values = .ok scope) :
      Starts (.island (.reference text), e) (.template name scope, e')
  | tree {text : String} {tree : Expr} {e : Evaluation σ}
      (hread : Expr.read text.toList = .ok tree) :
      Starts (.expression text, e) (.part e.calls.current.scope tree, e)
  | part {scope : Value} {tree part : Expr} {e e' : Evaluation σ}
      (h : Expr.Demands scope l.site.calls tree e part e') :
      Starts (.part scope tree, e) (.part scope part, e')
  | call {scope : Value} {function : String} {arguments : List Expr} {values : List Value}
      {e e' : Evaluation σ}
      (hvalues : Yields (Expr.evalAll scope l.site.calls arguments) e values e') :
      Starts (.part scope (.call function arguments), e) (.call function values, e')
  | item {function name : String} {arguments items : List Value} {item scope : Value}
      {e e' : Evaluation σ} (heach : Builtin.RendersEach function arguments items name)
      (hknown : l.registry.contains name)
      (hturn : Turn (Builtin.renderItem l.registry l.evaluate name) items e item e')
      (hbind : l.registry.bindArguments name [item] = .ok scope) :
      Starts (.call function arguments, e) (.template name scope, e')

/-- The second task is part of the work for the first one. -/
def Within : Task × Evaluation σ → Task × Evaluation σ → Prop := Relation.ReflTransGen l.Starts

end

variable {l : Library σ} {e e' : Evaluation σ} {error : EvaluationError}

section

variable {name : String} {scope : Value}

theorem failsWith_evaluate {t : Template} (ht : l.registry.get? name = some t)
    (hnew : name ∉ e.calls.inFlight) : FailsWith (l.evaluate name scope) e error ↔
      FailsWith (l.site.renderBody t.body) (e.enter ⟨name, scope⟩) error := by
  unfold FailsWith
  rw [evaluate, l.enterOnce_known l.evaluate scope e ht hnew]
  change (∃ e', ((l.site.renderBody t.body).run (e.enter ⟨name, scope⟩)).map _ = _) ↔ _
  cases (l.site.renderBody t.body).run (e.enter ⟨name, scope⟩) with
  | none => simp
  | some result => simp [Prod.ext_iff]

theorem failsWith_inExpression {x : ExceptT EvaluationError (Process σ) Value} :
    FailsWith (Builtin.inExpression x) e (.template error) ↔ FailsWith x e error :=
  failsWith_adapt fun _ _ h => ExpressionError.template.inj h

end

theorem calls_of_yields {ε α : Type} {x : ExceptT ε (Process σ) α} {a : α}
    (hrestores : Restores e.calls x.run) (h : Yields x e a e') : e'.calls = e.calls := by
  obtain ⟨outcome, e'', hrun, hcalls⟩ := hrestores e rfl
  have hend : (outcome, e'') = (.ok a, e') := Option.some_inj.1 (hrun.symm.trans h)
  rw [← (Prod.mk.inj hend).2, hcalls]

theorem Turn.calls {ε α β : Type} {f : β → ExceptT ε (Process σ) α} {bs : List β} {b : β}
    (h : Turn f bs e b e') (hrestores : ∀ c, ∀ b, Restores c (f b).run) : e'.calls = e.calls := by
  induction h with
  | here => rfl
  | later h hmore ih => rw [ih, calls_of_yields (hrestores _ _) h]

theorem restores_sequence {ε α β : Type} {c : CallStack} {x : ExceptT ε (Process σ) α}
    {f : α → ExceptT ε (Process σ) β} (hx : Restores c x.run) (hf : ∀ a, Restores c (f a).run) :
    Restores c (x >>= f).run :=
  ((restoration c).except ε).bind (y := x) (g := f) hx hf

section

variable (l : Library σ) (c : CallStack)

theorem site_restores : l.site.Corresponds (restoration c) l.site :=
  l.frame_restores (l.evaluate_restores c)

/-- Evaluating an expression leaves the stack as it was. -/
theorem eval_restores (scope : Value) (tree : Expr) :
    Restores c (Expr.eval scope l.site.calls tree).run := by
  apply Expr.rel_eval (R := (restoration c).except ExpressionError)
  · intro e _
    exact (restoration c).except_throws e
  · intro part _
    cases part with
    | identifier name => exact rfl
    | call function arguments => exact (l.site_restores c).calls function
    | _ => exact trivial

theorem evalAll_restores (scope : Value) (trees : List Expr) :
    Restores c (Expr.evalAll scope l.site.calls trees).run := by
  induction trees with
  | nil => exact restores_pure c (Except.ok [])
  | cons tree trees ih =>
    rw [Expr.evalAll]
    apply restores_sequence (l.eval_restores c scope tree)
    intro v
    apply restores_sequence ih
    intro vs
    exact restores_pure c (Except.ok (v :: vs))

theorem evalText_restores (scope : Value) (text : String) :
    Restores c (Expr.evalText scope l.site.calls text).run := by
  unfold Expr.evalText
  split
  · exact l.eval_restores c scope _
  · exact (restoration c).except_throws (ε := ExpressionError) _ _

theorem chooseLine_restores (lines : List Line) : Restores c (l.site.chooseLine lines).run := by
  cases lines with
  | nil => exact restores_pure c (Except.ok none)
  | cons first more =>
    apply restores_sequence
    · exact (restoration c).except_lift (ε := EvaluationError) ((l.site_restores c).pick _)
    · intro index
      exact restores_pure c (Except.ok _)

theorem linesOfCases_restores (otherwise : Clause) (cases : List Clause) :
    Restores c (l.site.linesOfCases otherwise cases).run := by
  induction cases with
  | nil => exact restores_pure c (Except.ok _)
  | cons clause clauses ih =>
    apply restores_sequence ((l.site_restores c).holds clause.test)
    intro holds
    cases holds with
    | true => exact restores_pure c (Except.ok _)
    | false => exact ih

theorem chosenLine_restores (b : Body) : Restores c (l.site.chosenLine b).run := by
  cases b with
  | choice lines => exact l.chooseLine_restores c lines
  | conditional cases otherwise =>
    apply restores_sequence (l.linesOfCases_restores c otherwise cases)
    intro lines
    exact l.chooseLine_restores c lines

theorem renderItem_restores (name : String) (item : Value) :
    Restores c (Builtin.renderItem l.registry l.evaluate name item).run := by
  apply restores_sequence
  · apply ((restoration c).except EvaluationError).rel_ofResult
    intro e _
    exact (restoration c).except_throws e
  · intro scope
    exact l.evaluate_restores c name scope

end

/-- Only a template puts itself on the stack. -/
theorem Starts.calls {p q : Task × Evaluation σ} (h : l.Starts p q) :
    match p.1 with
    | .template name scope => q.2.calls = p.2.calls.push ⟨name, scope⟩
    | _ => q.2.calls = p.2.calls := by
  cases h with
  | line ht hnew hline hturn =>
    have hturn' := Turn.calls hturn fun c i => (l.site_restores c).renderIsland i
    exact hturn'.trans (calls_of_yields (l.chosenLine_restores _ _) hline)
  | expression => exact rfl
  | reference hparse => exact rfl
  | argument hparse hturn =>
    exact Turn.calls hturn fun c text => (l.site_restores c).evalExpression text
  | referenceWith hparse hvalues hbind =>
    exact calls_of_yields (l.evalArguments_restores _ _) hvalues
  | tree hread => exact rfl
  | part h =>
    cases h with
    | item h => exact Turn.calls h fun c tree => l.eval_restores c _ tree
    | argument h => exact Turn.calls h fun c tree => l.eval_restores c _ tree
    | key h => exact calls_of_yields (l.eval_restores _ _ _) h
    | right h hneeds => exact calls_of_yields (l.eval_restores _ _ _) h
    | _ => exact rfl
  | call hvalues => exact calls_of_yields (l.evalAll_restores _ _ _) hvalues
  | item heach hknown hturn hbind =>
    exact Turn.calls hturn fun c item => l.renderItem_restores c _ item

/-- An expression fails as its evaluation does, with the template on top of the stack as its place
unless the failure comes from a template inside. -/
theorem failsWith_evalExpression {text : String} :
    FailsWith (l.site.evalExpression text) e error ↔
      ∃ source, FailsWith (Expr.evalText e.calls.current.scope l.site.calls text) e source ∧
        Frame.locate e.calls.current.name text source = error := by
  obtain ⟨outcome, e', hrun, hcalls⟩ :=
    l.evalText_restores e.calls e.calls.current.scope text e rfl
  have hexpression : (l.site.evalExpression text).run e =
      some (outcome.mapError (Frame.locate e'.calls.current.name text), e') := by
    change Option.bind ((Expr.evalText e.calls.current.scope l.site.calls text).run e) _ = _
    rw [hrun]
    rfl
  unfold FailsWith
  rw [hexpression, hcalls, show (Expr.evalText e.calls.current.scope l.site.calls text).run e = _
    from hrun]
  simp [mapError_eq_error]

/-- What a started task fails with, the task fails with. -/
theorem Starts.fails {p q : Task × Evaluation σ} (h : l.Starts p q) (hq : l.Fails q error) :
    l.Fails p error := by
  cases h with
  | line ht hnew hline hturn =>
    exact (failsWith_evaluate ht hnew).2
      (Frame.failsWith_renderBody.2 ⟨_, _, _, _, hline, hturn, hq⟩)
  | expression => exact failsWith_bind.2 (.inl hq)
  | reference hparse =>
    change FailsWith (l.site.renderReference _) _ _
    unfold Frame.renderReference
    rw [hparse]
    exact failsWith_bind.2 (.inr ⟨_, _, rfl, hq⟩)
  | argument hparse hturn =>
    change FailsWith (l.site.renderReference _) _ _
    unfold Frame.renderReference
    rw [hparse]
    refine failsWith_bind.2 (.inl ?_)
    rw [Frame.evalArguments_eq_mapM]
    exact failsWith_mapM.2 ⟨_, _, hturn, hq⟩
  | referenceWith hparse hvalues hbind =>
    change FailsWith (l.site.renderReference _) _ _
    unfold Frame.renderReference
    rw [hparse]
    refine failsWith_bind.2 (.inr ⟨_, _, hvalues, ?_⟩)
    exact failsWith_bind.2 (.inr ⟨_, _, yields_ofResult.2 ⟨hbind, rfl⟩, hq⟩)
  | tree hread =>
    refine failsWith_evalExpression.2 ⟨.template error, ?_, rfl⟩
    unfold Expr.evalText
    rw [hread]
    exact hq
  | part h => exact h.failsWith hq
  | @call scope function arguments values e e' hvalues =>
    obtain ⟨f, hf, hq⟩ := hq
    have hcalls : l.site.calls function = _ := Builtin.calls_of_named l.fallback hf
    change FailsWith (Expr.eval scope l.site.calls (.call function arguments)) e _
    rw [Expr.eval, failsWith_bind, hcalls]
    exact .inr ⟨values, e', hvalues, failsWith_inExpression.2 hq⟩
  | item heach hknown hturn hbind =>
    refine Builtin.failsWith_of_rendersEach heach hknown (failsWith_mapM.2 ⟨_, _, hturn, ?_⟩)
    exact failsWith_bind.2 (.inr ⟨_, _, yields_ofResult.2 ⟨hbind, rfl⟩, hq⟩)

/-- The task is an expression that fails by itself, under the name of the template on top. -/
def Blames (l : Library σ) (p : Task × Evaluation σ) (error : EvaluationError) : Prop :=
  ∃ text source, p.1 = .expression text ∧ source.IsPlain ∧
    FailsWith (Expr.evalText p.2.calls.current.scope l.site.calls text) p.2 source ∧
    error = .expression p.2.calls.current.name text source

section

variable (hlocated : error.IsLocated)

include hlocated

theorem exists_starts_of_template {name : String} {scope : Value}
    (h : FailsWith (l.evaluate name scope) e error) :
    ∃ q, l.Starts (.template name scope, e) q ∧ l.Fails q error := by
  cases ht : l.registry.get? name with
  | none =>
    obtain ⟨e', h⟩ := h
    rw [evaluate, l.enterOnce_unknown l.evaluate scope e ht] at h
    cases h
    exact hlocated.elim
  | some t =>
    by_cases hnew : name ∈ e.calls.inFlight
    · obtain ⟨e', h⟩ := h
      rw [evaluate, l.enterOnce_inFlight l.evaluate scope e ht hnew] at h
      cases h
      exact hlocated.elim
    · obtain ⟨line, e₁, i, e₂, hline, hturn, h⟩ :=
        Frame.failsWith_renderBody.1 ((failsWith_evaluate ht hnew).1 h)
      exact ⟨_, .line ht hnew hline hturn, h⟩

theorem exists_starts_of_reference {text : String}
    (h : FailsWith (l.site.renderReference text) e error) :
    ∃ q, l.Starts (.island (.reference text), e) q ∧ l.Fails q error := by
  unfold Frame.renderReference at h
  split at h
  · rw [← failsWith_throw.1 h] at hlocated
    exact hlocated.elim
  · rename_i name hparse
    rcases failsWith_bind.1 h with h | ⟨target, e₁, htarget, h⟩
    · exact absurd h (failsWith_lift _)
    · cases htarget
      exact ⟨_, .reference hparse, h⟩
  · rename_i name arguments hparse
    rcases failsWith_bind.1 h with h | ⟨values, e₁, hvalues, h⟩
    · rw [Frame.evalArguments_eq_mapM] at h
      obtain ⟨argument, e', hturn, h⟩ := failsWith_mapM.1 h
      exact ⟨_, .argument hparse hturn, h⟩
    rcases failsWith_bind.1 h with h | ⟨scope, e₂, hscope, h⟩
    · exact absurd hlocated (Registry.not_isLocated_of_bindArguments (failsWith_ofResult.1 h))
    · obtain ⟨hbind, rfl⟩ := yields_ofResult.1 hscope
      exact ⟨_, .referenceWith hparse hvalues hbind, h⟩

theorem exists_starts_of_call {function : String} {arguments : List Value}
    {f : List Value → ExceptT EvaluationError (Process σ) Value}
    (hf : Builtin.named? l.registry l.evaluate function = some f)
    (h : FailsWith (f arguments) e error) :
    ∃ q, l.Starts (.call function arguments, e) q ∧ l.Fails q error := by
  obtain ⟨items, name, heach, hknown, h⟩ := Builtin.exists_rendersEach hf hlocated h
  obtain ⟨item, e', hturn, h⟩ := failsWith_mapM.1 h
  rcases failsWith_bind.1 h with h | ⟨scope, e₁, hscope, h⟩
  · exact absurd hlocated (Registry.not_isLocated_of_bindArguments (failsWith_ofResult.1 h))
  · obtain ⟨hbind, rfl⟩ := yields_ofResult.1 hscope
    exact ⟨_, .item heach hknown hturn hbind, h⟩

end

/-- An expression fails by itself, or its tree does for a template inside it. -/
theorem exists_starts_of_expression {text : String}
    (h : FailsWith (l.site.evalExpression text) e error) :
    (∃ q, l.Starts (.expression text, e) q ∧ l.Fails q error) ∨
      l.Blames (.expression text, e) error := by
  obtain ⟨source, hsource, hlocate⟩ := failsWith_evalExpression.1 h
  by_cases hinside : ∃ cause, source = .template cause
  · left
    obtain ⟨cause, rfl⟩ := hinside
    obtain rfl : cause = error := hlocate
    unfold Expr.evalText at hsource
    split at hsource
    · rename_i tree hread
      exact ⟨_, .tree hread, hsource⟩
    · cases failsWith_throw.1 hsource
  · right
    have hplain : source.IsPlain := fun cause hcause => hinside ⟨cause, hcause⟩
    refine ⟨text, source, rfl, hplain, hsource, ?_⟩
    rw [← hlocate]
    cases source with
    | template cause => exact absurd rfl (hplain cause)
    | _ => rfl

section

variable (hfallback : ∀ function f arguments e, l.fallback function = some f →
  f arguments = .error e → ExpressionError.IsPlain e)

include hfallback

theorem exists_starts_of_part {scope : Value} {tree : Expr}
    (h : FailsWith (Expr.eval scope l.site.calls tree) e (.template error)) :
    ∃ q, l.Starts (.part scope tree, e) q ∧ l.Fails q error := by
  have hown : ¬ (ExpressionError.template error).IsPlain := fun hplain => hplain error rfl
  rcases Expr.exists_of_failsWith_eval hown h with ⟨part, e', hpart, h⟩ |
    ⟨function, arguments, values, e', f, rfl, hvalues, hf, h⟩
  · exact ⟨_, .part hpart, h⟩
  · refine ⟨_, .call hvalues, ?_⟩
    cases hnamed : Builtin.named? l.registry l.evaluate function with
    | some g =>
      have hcalls : l.site.calls function = _ := Builtin.calls_of_named l.fallback hnamed
      rw [hcalls] at hf
      cases hf
      exact ⟨g, hnamed, failsWith_inExpression.1 h⟩
    | none =>
      have hcalls : l.site.calls function = _ := Builtin.calls_of_not_named l.fallback hnamed
      rw [hcalls] at hf
      obtain ⟨g, hg, rfl⟩ := Option.map_eq_some_iff.1 hf
      exact absurd (hfallback function g values _ hg (failsWith_ofResult.1 h)) hown

/-- The failure of an expression comes from a started task, unless the task is that expression. -/
theorem exists_starts_of_fails {p : Task × Evaluation σ} (hlocated : error.IsLocated)
    (h : l.Fails p error) : (∃ q, l.Starts p q ∧ l.Fails q error) ∨ l.Blames p error := by
  obtain ⟨task, e⟩ := p
  cases task with
  | template name scope => exact .inl (exists_starts_of_template hlocated h)
  | island i =>
    cases i with
    | expression text =>
      rcases failsWith_bind.1 h with h | ⟨v, e', -, h⟩
      · exact .inl ⟨_, .expression, h⟩
      · exact absurd h (failsWith_pure _)
    | reference text => exact .inl (exists_starts_of_reference hlocated h)
  | expression text => exact exists_starts_of_expression h
  | part scope tree => exact .inl (exists_starts_of_part hfallback h)
  | call function arguments =>
    obtain ⟨f, hf, h⟩ := h
    exact .inl (exists_starts_of_call hlocated hf h)

end

end Library

/-- Work of a later kind is only started inside another template. -/
def Task.rank : Task → Nat
  | .template _ _ => 0
  | .call _ _ => 1
  | .part _ _ => 2
  | .expression _ => 3
  | .island _ => 4

def Task.size : Task → Nat
  | .part _ tree => tree.parts.length
  | _ => 0

namespace Library

variable {l : Library σ} {error : EvaluationError}

/-- How much work a task can start: less with fewer templates left to enter, then less with a lower
rank, then less with a smaller expression. -/
def workload (l : Library σ) (p : Task × Evaluation σ) : Nat × Nat × Nat :=
  (l.registry.remaining p.2.calls.inFlight, p.1.rank, p.1.size)

/-- Work that is started is less than the work that starts it, so it comes to an end. -/
theorem Starts.workload_lt {p q : Task × Evaluation σ} (h : l.Starts p q) :
    Prod.Lex (· < ·) (Prod.Lex (· < ·) (· < ·)) (l.workload q) (l.workload p) := by
  have hcalls := h.calls
  have hlower (hcalls : q.2.calls = p.2.calls) (hrank : q.1.rank < p.1.rank) :
      Prod.Lex (· < ·) (Prod.Lex (· < ·) (· < ·)) (l.workload q) (l.workload p) := by
    unfold workload
    rw [hcalls]
    exact .right _ (.left _ _ hrank)
  cases h with
  | @line name scope t _ _ e _ _ ht hnew hline hturn =>
    apply Prod.Lex.left
    have hcalls : _ = e.calls.push ⟨name, scope⟩ := hcalls
    change l.registry.remaining (_ : CallStack).inFlight < _
    rw [hcalls]
    exact Registry.remaining_lt ht hnew (by simp [CallStack.mem_inFlight_push])
      fun n hn => by simp [CallStack.mem_inFlight_push, hn]
  | part hpart =>
    unfold workload
    rw [show _ = _ from hcalls]
    exact .right _ (.right _ hpart.length_parts_lt)
  | _ => exact hlower hcalls (by simp [Task.rank])

/-- The failure of an expression comes from within, from an expression that fails by itself. -/
theorem exists_blames_of_fails
    (hfallback : ∀ function f arguments e, l.fallback function = some f →
      f arguments = .error e → ExpressionError.IsPlain e)
    (hlocated : error.IsLocated) {p : Task × Evaluation σ} (h : l.Fails p error) :
    ∃ q, l.Within p q ∧ l.Blames q error := by
  rcases exists_starts_of_fails hfallback hlocated h with ⟨q, hstarts, hq⟩ | hblames
  · obtain ⟨r, hr, hblames⟩ := exists_blames_of_fails hfallback hlocated hq
    exact ⟨r, .head hstarts hr, hblames⟩
  · exact ⟨p, .refl, hblames⟩
termination_by l.workload p
decreasing_by exact hstarts.workload_lt

theorem Within.fails {p q : Task × Evaluation σ} (h : l.Within p q) (hq : l.Fails q error) :
    l.Fails p error := by
  induction h using Relation.ReflTransGen.head_induction_on with
  | refl => exact hq
  | head hstarts _ ih => exact hstarts.fails ih

/-- An island stands in a line of the template on top of the stack, and an expression in an island
of such a line. -/
def Placed (l : Library σ) : Task × Evaluation σ → Prop
  | (.island i, e) => ∃ t, l.registry.get? e.calls.current.name = some t ∧
      ∃ line ∈ t.body.allLines, i ∈ line.islands
  | (.expression text, e) => ∃ t, l.registry.get? e.calls.current.name = some t ∧
      ∃ line ∈ t.body.allLines, ∃ i ∈ line.islands, text ∈ i.expressions
  | _ => True

theorem Starts.placed {p q : Task × Evaluation σ} (h : l.Starts p q) (hp : l.Placed p) :
    l.Placed q := by
  have hcalls := h.calls
  cases h with
  | @line name scope t line i e e₁ e₂ ht hnew hline hturn =>
    have hcalls : e₂.calls = e.calls.push ⟨name, scope⟩ := hcalls
    refine ⟨t, ?_, line, Frame.mem_of_chosenLine hline, hturn.mem⟩
    rw [hcalls, CallStack.current_push]
    exact ht
  | expression =>
    obtain ⟨t, ht, line, hline, hi⟩ := hp
    exact ⟨t, ht, line, hline, _, hi, List.mem_singleton_self _⟩
  | @argument text name argument arguments e e' hparse hturn =>
    obtain ⟨t, ht, line, hline, hi⟩ := hp
    have hcalls : e'.calls = e.calls := hcalls
    refine ⟨t, ?_, line, hline, _, hi, ?_⟩
    · rw [hcalls]
      exact ht
    · simp only [Island.expressions, hparse]
      exact hturn.mem
  | _ => exact trivial

theorem Within.placed {p q : Task × Evaluation σ} (h : l.Within p q) (hp : l.Placed p) :
    l.Placed q := by
  induction h with
  | refl => exact hp
  | tail _ hstarts ih => exact hstarts.placed ih

/-- Whatever a template or a template function fails with that a rendering comes to start, through
references, islands and calls nested in any way, the rendering fails with. And where a rendering
fails with an expression, that expression failed by itself while the body of the template it names
was being rendered, and it stands in a line of that template: as an expression or as an argument of
a reference. -/
theorem evaluate_surfaces_failures (l : Library σ)
    (hfallback : ∀ function f arguments e, l.fallback function = some f →
      f arguments = .error e → ExpressionError.IsPlain e)
    (name : String) (scope : Value) (e : Evaluation σ) :
    (∀ inner error, l.Within (.template name scope, e) inner → l.Fails inner error →
      ∃ e', (l.evaluate name scope).run e = some (.error error, e')) ∧
    ∀ template text source e',
      (l.evaluate name scope).run e = some (.error (.expression template text source), e') →
      source.IsPlain ∧ ∃ inner t, l.Within (.template name scope, e) (.expression text, inner) ∧
        inner.calls.current.name = template ∧ l.registry.get? template = some t ∧
        (∃ line ∈ t.body.allLines, ∃ i ∈ line.islands, text ∈ i.expressions) ∧
        FailsWith (Expr.evalText inner.calls.current.scope l.site.calls text) inner source := by
  constructor
  · intro inner error hwithin hfails
    exact hwithin.fails hfails
  · intro template text source e' hrun
    have hfails : l.Fails (.template name scope, e) (.expression template text source) :=
      ⟨e', hrun⟩
    have hlocated : (EvaluationError.expression template text source).IsLocated := trivial
    obtain ⟨⟨task, inner⟩, hwithin, text', source', htask, hplain, hsource, herror⟩ :=
      exists_blames_of_fails hfallback hlocated hfails
    obtain rfl : task = .expression text' := htask
    cases herror
    obtain ⟨t, ht, hline⟩ : l.Placed (.expression text, inner) := hwithin.placed trivial
    exact ⟨hplain, inner, t, hwithin, rfl, ht, hline, hsource⟩

/-- A bill lists shares, and each of them refers to an amount in a block. -/
def bill : Registry :=
  .ofDistinct
    [⟨"Bill", [], .choice [⟨[.expression "\x7bforeach(sums, form)\x7d"], ⟨2, 1, 7, 1, none⟩⟩],
        ⟨1, 1, 0, 1, none⟩⟩,
      ⟨"Share", ["sum"], .choice [⟨[.block "```Pay @\x7b[Amount( sum / 0 )]\x7d```"],
          ⟨4, 1, 48, 1, none⟩⟩], ⟨3, 1, 34, 1, none⟩⟩,
      ⟨"Amount", ["sum"], .choice [⟨[.expression "\x7bsum\x7d"], ⟨6, 1, 99, 1, none⟩⟩],
        ⟨5, 1, 84, 1, none⟩⟩]
    (by decide)

/-- The template and the text of a division by zero. -/
def divisionByZero? : Except EvaluationError String → Option (String × String)
  | .error (.expression template text .divisionByZero) => some (template, text)
  | _ => none

theorem eq_of_divisionByZero? {outcome : Except EvaluationError String} {template text : String}
    (h : divisionByZero? outcome = some (template, text)) :
    outcome = .error (.expression template text .divisionByZero) := by
  unfold divisionByZero? at h
  split at h <;> cases h
  rfl

/-- The argument of a reference in a block fails inside a call, and is found in its template. -/
theorem bill_surfaces_division :
    let l : Library Unit := ⟨bill, .standard, .fixed 0⟩
    let scope : Value := .mapping [("form", .text "Share"), ("sums", .list [.int 3])]
    let start := (Task.template "Bill" scope, Evaluation.start ())
    (∀ function f arguments e, l.fallback function = some f →
      f arguments = .error e → ExpressionError.IsPlain e) ∧
    (∀ inner error, l.Within start inner → l.Fails inner error →
      ∃ e', (l.evaluate "Bill" scope).run (.start ()) = some (.error error, e')) ∧
    (∃ e', (l.evaluate "Bill" scope).run (.start ()) =
      some (.error (.expression "Share" "sum / 0" .divisionByZero), e')) ∧
    ∃ inner t, l.Within start (.expression "sum / 0", inner) ∧
      inner.calls.current.name = "Share" ∧ l.registry.get? "Share" = some t ∧
      (∃ line ∈ t.body.allLines, ∃ i ∈ line.islands, "sum / 0" ∈ i.expressions) ∧
      FailsWith (Expr.evalText inner.calls.current.scope l.site.calls "sum / 0") inner
        .divisionByZero := by
  intro l scope start
  have hfallback : ∀ function f arguments e, l.fallback function = some f →
      f arguments = .error e → ExpressionError.IsPlain e := by
    intro function f arguments e hf he
    exact Functions.isPlain_of_standard hf he
  have hreport : ((l.evaluateWithin 4 "Bill" scope).run (.start ())).map
      (fun r => divisionByZero? r.1) = some (some ("Share", "sum / 0")) := by decide +kernel
  obtain ⟨⟨outcome, e'⟩, hrun, hdivision⟩ := Option.map_eq_some_iff.1 hreport
  obtain rfl := eq_of_divisionByZero? hdivision
  have hevaluate := l.evaluate_of_evaluateWithin hrun
  obtain ⟨hsurfaces, hlocated⟩ :=
    evaluate_surfaces_failures l hfallback "Bill" scope (.start ())
  exact ⟨hfallback, hsurfaces, ⟨e', hevaluate⟩, (hlocated _ _ _ e' hevaluate).2⟩

end Library

end Phrasebook
