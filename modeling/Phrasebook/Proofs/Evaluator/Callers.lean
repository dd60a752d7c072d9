import Mathlib.Data.List.Perm.Subperm
import Phrasebook.Evaluator

namespace Phrasebook

variable {σ : Type}

/-- The stack holds distinct registered templates, and their names are the names in flight. -/
structure CallStack.Disciplined (r : Registry) (c : CallStack) : Prop where
  distinct : c.names.Nodup
  registered : ∀ name ∈ c.names, name ∈ r.names
  inFlight : ∀ name, name ∈ c.inFlight ↔ name ∈ c.names

namespace CallStack

theorem disciplined_empty (r : Registry) : empty.Disciplined r where
  distinct := List.nodup_nil
  registered := by simp [empty, names]
  inFlight := by simp [empty, names]

theorem Disciplined.push {r : Registry} {c : CallStack} (h : c.Disciplined r) {t : Target}
    (hreg : t.name ∈ r.names) (hnew : t.name ∉ c.inFlight) : (c.push t).Disciplined r where
  distinct := by
    rw [names_push, List.nodup_append]
    refine ⟨h.distinct, by simp, fun a ha b hb hab => ?_⟩
    rw [List.mem_singleton] at hb
    exact hnew ((h.inFlight _).2 (hb ▸ hab ▸ ha))
  registered := by
    intro name hname
    rw [names_push, List.mem_append, List.mem_singleton] at hname
    obtain hname | rfl := hname
    · exact h.registered name hname
    · exact hreg
  inFlight := by
    intro name
    rw [mem_inFlight_push, names_push, List.mem_append, List.mem_singleton, h.inFlight, or_comm]

/-- A disciplined stack is no deeper than there are templates. -/
theorem Disciplined.depth_le {r : Registry} {c : CallStack} (h : c.Disciplined r) :
    c.depth ≤ r.size := by
  have hle := (h.distinct.subperm fun name => h.registered name).length_le
  rw [r.inStep.size_eq]
  simpa [names, depth] using hle

end CallStack

namespace Library

/-- The place where a template is rendered in a scope, with nothing to keep but the picker. -/
def callersFrame (l : Library σ) (name : String) (scope : Value) (enter : Enter (StateM σ)) :
    Frame (StateM σ) where
  registry := l.registry
  fallback := l.fallback
  pick n := modifyGet (l.picker.pick n)
  current := pure ⟨name, scope⟩
  enter := enter

theorem callersFrame_current (l : Library σ) (name : String) (scope : Value)
    (enter : Enter (StateM σ)) :
    (l.callersFrame name scope enter).current = pure ⟨name, scope⟩ := rfl

set_option linter.unusedVariables false in
/-- Renders a template on top of its callers, which are given from the outermost on. -/
def render (l : Library σ) (callers : List String) (name : String) (scope : Value) :
    Run EvaluationError σ String :=
  match h : l.registry.get? name with
  | none => throw (.unknownTemplate name)
  | some t =>
    if hn : name ∈ callers then
      throw (.cycle (callers.dropWhile (fun n => n != name) ++ [name]))
    else
      (l.callersFrame name scope fun inner innerScope =>
        render l (callers ++ [name]) inner innerScope).renderBody t.body
termination_by l.registry.remaining callers
decreasing_by exact Registry.remaining_lt h hn (by simp) (by simp +contextual)

section

variable (l : Library σ) {callers : List String} {name : String} (scope : Value)

theorem render_unknown (h : l.registry.get? name = none) :
    l.render callers name scope = throw (.unknownTemplate name) := by
  unfold render
  split
  · rfl
  · simp_all

theorem render_inFlight {t : Template} (h : l.registry.get? name = some t)
    (hname : name ∈ callers) :
    l.render callers name scope =
      throw (.cycle (callers.dropWhile (fun n => n != name) ++ [name])) := by
  unfold render
  split
  · simp_all
  · rw [dif_pos hname]

theorem render_known {t : Template} (h : l.registry.get? name = some t) (hname : name ∉ callers) :
    l.render callers name scope =
      (l.callersFrame name scope (l.render (callers ++ [name]))).renderBody t.body := by
  rw [render]
  split
  · simp_all
  · rename_i t' ht'
    obtain rfl : t = t' := by simpa [h] using ht'
    rw [dif_neg hname]

end

/-- With the call stack `c`, the evaluator's computation does what the other one does to the picker,
restores the stack, and adds disciplined stacks to the log. -/
def Agrees {α : Type} (r : Registry) (c : CallStack) (x : Process σ α) (y : StateM σ α) : Prop :=
  ∀ e, e.calls = c → ∃ log, (∀ d ∈ log, d.Disciplined r) ∧
    x.run e = some ((y.run e.picker).1, ⟨c, (y.run e.picker).2, e.entered ++ log⟩)

/-- Sequencing respects the agreement. -/
def agreement (r : Registry) (c : CallStack) : Correspondence (Process σ) (StateM σ) where
  Rel := Agrees r c
  pure a := by
    intro e he
    subst he
    refine ⟨[], by simp, ?_⟩
    rw [List.append_nil]
    rfl
  bind := by
    intro α β x y f g hx hf e he
    obtain ⟨log, hlog, hxe⟩ := hx e he
    obtain ⟨log', hlog', hfe⟩ := hf (y.run e.picker).1 ⟨c, (y.run e.picker).2, e.entered ++ log⟩ rfl
    refine ⟨log ++ log', ?_, ?_⟩
    · simpa [or_imp, forall_and] using ⟨hlog, hlog'⟩
    · rw [StateT.run_bind, hxe]
      change (f (y.run e.picker).1).run ⟨c, (y.run e.picker).2, e.entered ++ log⟩ = _
      rw [hfe, List.append_assoc]
      rfl

theorem frame_agrees (l : Library σ) (c : CallStack) (name : String) (scope : Value)
    {enter : Enter (Process σ)} {enter' : Enter (StateM σ)}
    (h : ∀ inner innerScope, Agrees l.registry (c.push ⟨name, scope⟩)
      (enter inner innerScope).run (enter' inner innerScope).run) :
    (l.frame enter).Corresponds (agreement l.registry (c.push ⟨name, scope⟩))
      (l.callersFrame name scope enter') where
  registry := rfl
  fallback := rfl
  pick n := by
    intro e he
    refine ⟨[], by simp, ?_⟩
    rw [List.append_nil, ← he]
    rfl
  current := by
    intro e he
    refine ⟨[], by simp, ?_⟩
    rw [List.append_nil, ← he]
    change some (e.calls.current, e) = _
    rw [he, CallStack.current_push, ← he]
    rfl
  enter := h

/-- Entering a template agrees with rendering it on top of its callers, if that holds for the
templates inside it. -/
theorem enterOnce_agrees (l : Library σ) {c : CallStack} (hc : c.Disciplined l.registry)
    {enter : Enter (Process σ)} (name : String) (scope : Value)
    (h : ∀ t, l.registry.get? name = some t → name ∉ c.inFlight →
      ∀ inner innerScope, Agrees l.registry (c.push ⟨name, scope⟩) (enter inner innerScope).run
        (l.render (c.names ++ [name]) inner innerScope).run) :
    Agrees l.registry c (l.enterOnce enter name scope).run (l.render c.names name scope).run := by
  intro e he
  subst he
  cases ht : l.registry.get? name with
  | none =>
    refine ⟨[], by simp, ?_⟩
    rw [List.append_nil, l.render_unknown scope ht]
    exact l.enterOnce_unknown enter scope e ht
  | some t =>
    by_cases hname : name ∈ e.calls.inFlight
    · have hmem : name ∈ e.calls.names := (hc.inFlight name).1 hname
      refine ⟨[], by simp, ?_⟩
      rw [List.append_nil, l.render_inFlight scope ht hmem]
      exact l.enterOnce_inFlight enter scope e ht hname
    · have hmem : name ∉ e.calls.names := fun hmem => hname ((hc.inFlight name).2 hmem)
      have hbody := (l.frame_agrees e.calls name scope (h t ht hname)).renderBody t.body
      obtain ⟨log, hlog, hrun⟩ := hbody (e.enter ⟨name, scope⟩) rfl
      refine ⟨e.calls.push ⟨name, scope⟩ :: log, ?_, ?_⟩
      · refine List.forall_mem_cons.2 ⟨hc.push (Registry.mem_names_of_get? ht) hname, hlog⟩
      · rw [l.render_known scope ht hmem]
        refine (l.enterOnce_known enter scope e ht hname).trans ?_
        refine (congrArg (Option.map _) hrun).trans ?_
        have hpop : (e.calls.push ⟨name, scope⟩).pop name = e.calls :=
          CallStack.pop_push (t := ⟨name, scope⟩) hname
        simp only [Option.map_some, Evaluation.leave, Evaluation.enter, hpop, List.append_assoc,
          List.singleton_append]

/-- An evaluator renders a template as a function of its callers does. -/
theorem evaluate_agrees (l : Library σ) {c : CallStack} (hc : c.Disciplined l.registry)
    (name : String) (scope : Value) :
    Agrees l.registry c (l.evaluate name scope).run (l.render c.names name scope).run := by
  rw [evaluate]
  refine l.enterOnce_agrees hc name scope fun t ht hname inner innerScope => ?_
  have hpush := hc.push (t := ⟨name, scope⟩) (Registry.mem_names_of_get? ht) hname
  have hinner := evaluate_agrees l hpush inner innerScope
  rwa [CallStack.names_push] at hinner
termination_by l.registry.remaining c.inFlight
decreasing_by
  exact Registry.remaining_lt ht hname (by simp [CallStack.mem_inFlight_push])
    fun n hn => by simp [CallStack.mem_inFlight_push, hn]

/-- A new evaluator renders a template as it is rendered without callers. -/
theorem evaluate_start (l : Library σ) (name : String) (scope : Value) (picker : σ) :
    ∃ log, (l.evaluate name scope).run (.start picker) =
      some (((l.render [] name scope).run.run picker).1,
        ⟨.empty, ((l.render [] name scope).run.run picker).2, log⟩) := by
  obtain ⟨log, -, hrun⟩ := l.evaluate_agrees (CallStack.disciplined_empty l.registry) name scope
    (.start picker) rfl
  exact ⟨_, hrun⟩

/-- Renders as the evaluator does, but goes on for ever where more than the given number of
templates would be rendered inside each other. -/
def evaluateWithin (l : Library σ) : Nat → Enter (Process σ)
  | 0 => fun _ _ => ExceptT.mk fun _ => none
  | depth + 1 => l.enterOnce (l.evaluateWithin depth)

theorem evaluateWithin_agrees (l : Library σ) (depth : Nat) {c : CallStack}
    (hc : c.Disciplined l.registry) (hdepth : l.registry.remaining c.inFlight < depth)
    (name : String) (scope : Value) :
    Agrees l.registry c (l.evaluateWithin depth name scope).run
      (l.render c.names name scope).run := by
  induction depth generalizing c name scope with
  | zero => omega
  | succ depth ih =>
    refine l.enterOnce_agrees hc name scope fun t ht hname inner innerScope => ?_
    have hlt : l.registry.remaining (c.push ⟨name, scope⟩).inFlight <
        l.registry.remaining c.inFlight :=
      Registry.remaining_lt ht hname (by simp [CallStack.mem_inFlight_push])
        fun n hn => by simp [CallStack.mem_inFlight_push, hn]
    have hpush := hc.push (t := ⟨name, scope⟩) (Registry.mem_names_of_get? ht) hname
    have hinner := ih hpush (by omega) inner innerScope
    rwa [CallStack.names_push] at hinner

end Library

end Phrasebook
