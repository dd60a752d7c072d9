import Phrasebook.Proofs.Evaluator.Callers

namespace Phrasebook

variable {σ ε α β : Type}

/-- From every state, a result satisfies `Q` and a failure satisfies `P`. -/
def Ensures (P : ε → Prop) (Q : α → Prop) (x : Run ε σ α) : Prop :=
  ∀ s, match (x.run.run s).1 with
    | .ok a => Q a
    | .error e => P e

section

variable {P : ε → Prop} {Q : α → Prop} {x : Run ε σ α}

theorem ensures_pure {a : α} (h : Q a) : Ensures P Q (pure a : Run ε σ α) := fun _ => h

theorem ensures_throw {e : ε} (h : P e) : Ensures P Q (throw e : Run ε σ α) := fun _ => h

theorem ensures_lift (x : StateM σ α) : Ensures P (fun _ => True) (ExceptT.lift x) :=
  fun _ => trivial

theorem ensures_bind {Q' : β → Prop} {f : α → Run ε σ β} (hx : Ensures P Q x)
    (hf : ∀ a, Q a → Ensures P Q' (f a)) : Ensures P Q' (x >>= f) := by
  intro s
  have hxs := hx s
  rw [ExceptT.run_bind, StateT.run_bind]
  generalize x.run.run s = result at hxs
  obtain ⟨outcome, s'⟩ := result
  cases outcome with
  | ok a => exact hf a hxs s'
  | error e => exact hxs

end

/-- Sequencing respects a bound on the failures. -/
def failures (P : ε → Prop) : Correspondence (Run ε σ) (Run ε σ) where
  Rel x _ := Ensures P (fun _ => True) x
  pure _ := ensures_pure trivial
  bind hx hf := ensures_bind hx fun a _ => hf a

theorem failures_throws {P : ε → Prop} {e : ε} (h : P e) :
    (failures (σ := σ) P).Throws e := fun α =>
  ensures_throw (Q := fun _ : α => True) h

namespace Frame

variable {f : Frame (StateM σ)} {target : Target} {P : EvaluationError → Prop}

theorem run_evalExpression (hcurrent : f.current = pure target) (text : String) :
    (f.evalExpression text).run =
      Except.mapError (locate target.name text) <$>
        (Expr.evalText target.scope f.calls text).run := by
  unfold evalExpression outcome
  rw [hcurrent]
  simp only [pure_bind, map_eq_pure_bind, ExceptT.run_mk]

/-- An expression of the template at hand fails as its evaluation does, with the place added. -/
theorem ensures_evalExpression (hcurrent : f.current = pure target) {text : String}
    (h : Ensures (fun e => P (locate target.name text e)) (fun _ => True)
      (Expr.evalText target.scope f.calls text)) :
    Ensures P (fun _ => True) (f.evalExpression text) := by
  intro s
  have hs := h s
  rw [run_evalExpression hcurrent, StateT.run_map]
  generalize (Expr.evalText target.scope f.calls text).run.run s = result at hs
  obtain ⟨outcome, s'⟩ := result
  cases outcome with
  | ok v => trivial
  | error e => exact hs

theorem ensures_evalArguments {texts : List String}
    (h : ∀ text ∈ texts, Ensures P (fun _ => True) (f.evalExpression text)) :
    Ensures P (fun values => values.length = texts.length) (f.evalArguments texts) := by
  induction texts with
  | nil => exact ensures_pure rfl
  | cons text texts ih =>
    simp only [List.forall_mem_cons] at h
    unfold evalArguments
    refine ensures_bind h.1 fun v _ => ?_
    refine ensures_bind (ih h.2) fun vs hvs => ?_
    exact ensures_pure (congrArg (· + 1) hvs)

/-- Only the islands of a body can make its rendering fail. -/
theorem ensures_renderBody {b : Body}
    (h : ∀ line ∈ b.allLines, ∀ i ∈ line.islands, Ensures P (fun _ => True) (f.renderIsland i)) :
    Ensures P (fun _ => True) (f.renderBody b) := by
  refine rel_renderBody (R := failures P) (g := f) ?_ b ?_ h
  · intro k
    exact ensures_lift (P := P) (f.pick k)
  · intro test _
    show Ensures P (fun _ => True) (f.holds test)
    unfold holds
    exact ensures_lift _

end Frame

end Phrasebook
