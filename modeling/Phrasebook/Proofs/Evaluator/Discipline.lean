import Phrasebook.Proofs.Evaluator.Callers

namespace Phrasebook

variable {σ : Type}

namespace Session

/-- The session after renderings, of which each has a template and a scope. -/
def after (s : Session σ) (requests : List (String × Value)) : Session σ :=
  requests.foldl (fun s request => (s.render request.1 request.2).2) s

@[simp] theorem after_nil (s : Session σ) : s.after [] = s := rfl

@[simp] theorem after_cons (s : Session σ) (request : String × Value)
    (requests : List (String × Value)) :
    s.after (request :: requests) = (s.render request.1 request.2).2.after requests := rfl

/-- Nothing is being rendered, and all bodies were entered with disciplined stacks. -/
structure Idle (s : Session σ) : Prop where
  calls : s.evaluation.calls = .empty
  entered : ∀ c ∈ s.evaluation.entered, c.Disciplined s.library.registry

theorem idle_start (l : Library σ) (picker : σ) : (start l picker).Idle where
  calls := rfl
  entered := by simp [start, Evaluation.start]

/-- An idle session renders as a function of the template, the scope and the picker does, and adds
disciplined stacks to its log. -/
theorem Idle.render_eq {s : Session σ} (h : s.Idle) (name : String) (scope : Value) :
    ∃ log, (∀ c ∈ log, c.Disciplined s.library.registry) ∧
      s.render name scope =
        (((s.library.render [] name scope).run.run s.evaluation.picker).1,
          ⟨s.library, .empty, ((s.library.render [] name scope).run.run s.evaluation.picker).2,
            s.evaluation.entered ++ log⟩) := by
  obtain ⟨log, hlog, hrun⟩ := s.library.evaluate_agrees
    (CallStack.disciplined_empty s.library.registry) name scope s.evaluation h.calls
  refine ⟨log, hlog, ?_⟩
  unfold Session.render
  simp only [show (s.library.evaluate name scope).run s.evaluation = _ from hrun, Option.get_some]
  rfl

theorem Idle.render {s : Session σ} (h : s.Idle) (name : String) (scope : Value) :
    (s.render name scope).2.Idle := by
  obtain ⟨log, hlog, heq⟩ := h.render_eq name scope
  rw [heq]
  refine ⟨rfl, fun c hc => ?_⟩
  obtain hc | hc := List.mem_append.1 hc
  · exact h.entered c hc
  · exact hlog c hc

theorem Idle.after {s : Session σ} (h : s.Idle) (requests : List (String × Value)) :
    (s.after requests).Idle := by
  induction requests generalizing s with
  | nil => exact h
  | cons request requests ih => exact ih (h.render request.1 request.2)

@[simp] theorem library_render (s : Session σ) (name : String) (scope : Value) :
    (s.render name scope).2.library = s.library := rfl

@[simp] theorem library_after (s : Session σ) (requests : List (String × Value)) :
    (s.after requests).library = s.library := by
  induction requests generalizing s with
  | nil => rfl
  | cons request requests ih => rw [after_cons, ih, library_render]

/-- Whatever a session has rendered, and however that ended, it is left with an empty call stack, it
has entered bodies with disciplined stacks only, and it goes on as a new session does from the state
of its picker. No rendering, at whatever depth, changes the stack and the names in flight. -/
theorem renderings_keep_discipline (l : Library σ) (picker : σ)
    (requests : List (String × Value)) :
    let s := (start l picker).after requests
    s.evaluation.calls = .empty ∧
    (∀ c ∈ s.evaluation.entered, c.Disciplined l.registry) ∧
    (∀ (e : Evaluation σ) (name : String) (scope : Value), ∃ outcome e',
      (l.evaluate name scope).run e = some (outcome, e') ∧ e'.calls = e.calls) ∧
    ∀ (name : String) (scope : Value),
      let fresh := start l s.evaluation.picker
      (s.render name scope).1 = (fresh.render name scope).1 ∧
      (s.render name scope).2.evaluation.picker = (fresh.render name scope).2.evaluation.picker := by
  intro s
  have hlibrary : s.library = l := library_after _ requests
  have hidle : s.Idle := (idle_start l picker).after requests
  refine ⟨hidle.calls, ?_, ?_, ?_⟩
  · rw [← hlibrary]
    exact hidle.entered
  · intro e name scope
    exact l.evaluate_restores e.calls name scope e rfl
  · intro name scope fresh
    obtain ⟨log, -, hs⟩ := hidle.render_eq name scope
    obtain ⟨log', -, hfresh⟩ := (idle_start l s.evaluation.picker).render_eq name scope
    rw [hs, hfresh, hlibrary]
    exact ⟨rfl, rfl⟩

end Session

namespace Library

/-- The evaluator does what its bounded version does, if that ends. -/
theorem evaluateWithin_refines (l : Library σ) (depth : Nat) (name : String) (scope : Value) :
    (refinement.except _).Rel (l.evaluateWithin depth name scope) (l.evaluate name scope) := by
  induction depth generalizing name scope with
  | zero => exact fun _ => .inl rfl
  | succ depth ih =>
    rw [evaluate]
    exact l.enterOnce_refines ih name scope

/-- What the bounded version ends with can be computed. -/
theorem evaluate_of_evaluateWithin (l : Library σ) {depth : Nat} {name : String} {scope : Value}
    {e : Evaluation σ} {result : Except EvaluationError String × Evaluation σ}
    (h : (l.evaluateWithin depth name scope).run e = some result) :
    (l.evaluate name scope).run e = some result := by
  obtain hnone | hsame := l.evaluateWithin_refines depth name scope e
  · exact absurd (h.symm.trans hnone) (Option.some_ne_none result)
  · exact hsame.symm.trans h

/-- A text that the bounded version renders is what the evaluator renders. -/
theorem exists_evaluate_ok (l : Library σ) {depth : Nat} {name : String} {scope : Value}
    {e : Evaluation σ} {text : String}
    (h : ((l.evaluateWithin depth name scope).run e).map (fun r => r.1.toOption) =
      some (some text)) :
    ∃ e', (l.evaluate name scope).run e = some (.ok text, e') := by
  obtain ⟨⟨outcome, e'⟩, hrun, houtcome⟩ := Option.map_eq_some_iff.1 h
  cases outcome with
  | error cause => cases houtcome
  | ok text =>
    cases houtcome
    exact ⟨e', l.evaluate_of_evaluateWithin hrun⟩

/-- A rendering ends with a text or a failure, and templates are rendered inside each other no deeper
than there are templates: the evaluator that would go on for ever beyond that depth ends with the
same result. -/
theorem evaluate_ends_within_size (l : Library σ) (picker : σ) (name : String) (scope : Value) :
    ∃ outcome e', (l.evaluate name scope).run (.start picker) = some (outcome, e') ∧
      (l.evaluateWithin (l.registry.size + 1) name scope).run (.start picker) =
        some (outcome, e') ∧
      ∀ c ∈ e'.entered, c.depth ≤ l.registry.size := by
  have hdepth : l.registry.remaining CallStack.empty.inFlight < l.registry.size + 1 :=
    Nat.lt_succ_of_le (l.registry.remaining_le_size _)
  obtain ⟨log, hlog, hrun⟩ := l.evaluateWithin_agrees (l.registry.size + 1)
    (CallStack.disciplined_empty l.registry) hdepth name scope (.start picker) rfl
  refine ⟨_, _, ?_, hrun, ?_⟩
  · obtain hnone | hsame := l.evaluateWithin_refines (l.registry.size + 1) name scope (.start picker)
    · exact absurd (hrun.symm.trans hnone) (Option.some_ne_none _)
    · exact hsame.symm.trans hrun
  · intro c hc
    exact (hlog c (by simpa [Evaluation.start] using hc)).depth_le

end Library

end Phrasebook
