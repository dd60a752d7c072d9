import Phrasebook.Evaluator

namespace Phrasebook

variable {σ τ : Type}

/-- A relation between the states of two evaluators with the same templates in flight, which entering
and leaving templates keeps. -/
structure Pairing (σ τ : Type) where
  Rel : Evaluation σ → Evaluation τ → Prop
  calls : ∀ {e : Evaluation σ} {f : Evaluation τ}, Rel e f → f.calls = e.calls
  enter : ∀ {e : Evaluation σ} {f : Evaluation τ}, Rel e f → ∀ t, Rel (e.enter t) (f.enter t)
  leave : ∀ {e : Evaluation σ} {f : Evaluation τ}, Rel e f → ∀ name,
    Rel (e.leave name) (f.leave name)

namespace Pairing

/-- Both evaluators are in the same state. -/
def same (σ : Type) : Pairing σ σ where
  Rel e f := f = e
  calls h := congrArg Evaluation.calls h
  enter h t := congrArg (Evaluation.enter · t) h
  leave h name := congrArg (Evaluation.leave · name) h

/-- The evaluators have the same templates in flight, whatever the states of their pickers. -/
def sameCalls (σ τ : Type) : Pairing σ τ where
  Rel e f := f.calls = e.calls
  calls h := h
  enter h t := congrArg (CallStack.push · t) h
  leave h name := congrArg (CallStack.pop · name) h

end Pairing

namespace Library

variable (P : Pairing σ τ)

/-- From related states with the call stack `c`, both computations end with one result, in related
states with the same call stack. -/
def SameResult {α : Type} (c : CallStack) (x : Process σ α) (y : Process τ α) : Prop :=
  ∀ e f, P.Rel e f → e.calls = c →
    ∃ a e' f', x e = some (a, e') ∧ y f = some (a, f') ∧ P.Rel e' f' ∧ e'.calls = c

/-- Sequencing keeps results the same. -/
def unison (c : CallStack) : Correspondence (Process σ) (Process τ) where
  Rel := SameResult P c
  pure a := fun e f h he => ⟨a, e, f, rfl, rfl, h, he⟩
  bind := by
    intro α β x y g k hx hg e f h he
    obtain ⟨a, e₁, f₁, hxe, hyf, h₁, he₁⟩ := hx e f h he
    obtain ⟨b, e₂, f₂, hge, hkf, h₂⟩ := hg a e₁ f₁ h₁ he₁
    refine ⟨b, e₂, f₂, ?_, ?_, h₂⟩
    · simpa [bind, StateT.bind, hxe] using hge
    · simpa [bind, StateT.bind, hyf] using hkf

section

variable {P} {l : Library σ} {l' : Library τ} {c : CallStack} {enter : Enter (Process σ)}
  {enter' : Enter (Process τ)} {T : Template → Template → Prop}

/-- The template on top of the call stack is the same. -/
theorem current_sameResult (l : Library σ) (l' : Library τ) (enter : Enter (Process σ))
    (enter' : Enter (Process τ)) :
    SameResult P c (l.frame enter).current (l'.frame enter').current := by
  intro e f h he
  refine ⟨c.current, e, f, ?_, ?_, h, he⟩
  · rw [← he]
    rfl
  · rw [← he, ← P.calls h]
    rfl

theorem enterOnce_sameResult {name : String} (scope : Value)
    (hget : Option.Rel T (l.registry.get? name) (l'.registry.get? name))
    (hbody : ∀ t t', T t t' → l.registry.get? name = some t → name ∉ c.inFlight →
      SameResult P (c.push ⟨name, scope⟩) ((l.frame enter).renderBody t.body).run
        ((l'.frame enter').renderBody t'.body).run) :
    SameResult P c (l.enterOnce enter name scope).run (l'.enterOnce enter' name scope).run := by
  intro e f h he
  have hcalls : f.calls = e.calls := P.calls h
  generalize ht : l.registry.get? name = found, ht' : l'.registry.get? name = found' at hget
  cases hget with
  | none =>
    have hleft := l.enterOnce_unknown enter scope e ht
    have hright := l'.enterOnce_unknown enter' scope f ht'
    exact ⟨_, e, f, hleft, hright, h, he⟩
  | @some t t' hT =>
    by_cases hname : name ∈ e.calls.inFlight
    · have hleft := l.enterOnce_inFlight enter scope e ht hname
      have hright := l'.enterOnce_inFlight enter' scope f ht' (hcalls ▸ hname)
      rw [hcalls] at hright
      exact ⟨_, e, f, hleft, hright, h, he⟩
    · have hleft := l.enterOnce_known enter scope e ht hname
      have hright := l'.enterOnce_known enter' scope f ht' (hcalls ▸ hname)
      have hc : name ∉ c.inFlight := he ▸ hname
      have hpush : (e.enter ⟨name, scope⟩).calls = c.push ⟨name, scope⟩ := by
        rw [← he]
        rfl
      obtain ⟨outcome, e', f', hrun, hrun', h', he'⟩ :=
        hbody t t' hT ht hc _ _ (P.enter h ⟨name, scope⟩) hpush
      have hpop : (c.push ⟨name, scope⟩).pop name = c := CallStack.pop_push (t := ⟨name, scope⟩) hc
      refine ⟨outcome, e'.leave name, f'.leave name, ?_, ?_, P.leave h' name, ?_⟩
      · exact hleft.trans (congrArg (Option.map _) hrun)
      · exact hright.trans (congrArg (Option.map _) hrun')
      · simp only [Evaluation.leave, he', hpop]

end

/-- The induction is on the number of templates that are not in flight. -/
theorem evaluate_sameResult {P : Pairing σ τ} {T : Template → Template → Prop} (l : Library σ)
    (l' : Library τ) (hget : ∀ name, Option.Rel T (l.registry.get? name) (l'.registry.get? name))
    (hbody : ∀ c enter enter' t t', T t t' →
      (∀ name scope, SameResult P c (enter name scope).run (enter' name scope).run) →
      SameResult P c ((l.frame enter).renderBody t.body).run
        ((l'.frame enter').renderBody t'.body).run)
    (c : CallStack) (name : String) (scope : Value) :
    SameResult P c (l.evaluate name scope).run (l'.evaluate name scope).run := by
  rw [evaluate, evaluate]
  refine enterOnce_sameResult scope (hget name) fun t t' hT ht hname => ?_
  refine hbody _ _ _ t t' hT fun inner innerScope => ?_
  exact evaluate_sameResult l l' hget hbody (c.push ⟨name, scope⟩) inner innerScope
termination_by l.registry.remaining c.inFlight
decreasing_by
  exact Registry.remaining_lt ht hname (by simp [CallStack.mem_inFlight_push])
    fun n hn => by simp [CallStack.mem_inFlight_push, hn]

end Library

end Phrasebook
