import Phrasebook.Picker
import Phrasebook.Render.Correspondence

namespace Phrasebook

variable {σ : Type}

/-- What all renderings share: the templates, the functions behind the built-in ones, and the
choice between lines. -/
structure Library (σ : Type) where
  registry : Registry
  fallback : Functions
  picker : Picker σ

/-- What an evaluator works on: the templates being rendered, the state of the picker, and a log of
the call stacks with which the bodies of templates were entered. -/
structure Evaluation (σ : Type) where
  calls : CallStack
  picker : σ
  entered : List CallStack

namespace Evaluation

def start (picker : σ) : Evaluation σ := ⟨.empty, picker, []⟩

def enter (e : Evaluation σ) (t : Target) : Evaluation σ :=
  { e with calls := e.calls.push t, entered := e.entered ++ [e.calls.push t] }

def leave (e : Evaluation σ) (name : String) : Evaluation σ := { e with calls := e.calls.pop name }

/-- One choice among `n` things moves the state of the picker on. -/
def pick (p : Picker σ) (n : Nat) (e : Evaluation σ) : Nat × Evaluation σ :=
  let (index, picker) := p.pick n e.picker
  (index, { e with picker := picker })

end Evaluation

/-- Computations of an evaluator. One without a result goes on for ever. -/
abbrev Process (σ : Type) := StateT (Evaluation σ) Option

namespace Library

/-- A place where an evaluator renders the template on top of its stack. -/
def frame (l : Library σ) (enter : Enter (Process σ)) : Frame (Process σ) where
  registry := l.registry
  fallback := l.fallback
  pick n := modifyGet (Evaluation.pick l.picker n)
  current := do return (← get).calls.current
  enter := enter

/-- Enters a template that is not in flight, renders its body with `enter` for the templates inside,
and leaves it, however the rendering ended. -/
def enterOnce (l : Library σ) (enter : Enter (Process σ)) : Enter (Process σ) :=
  fun name scope =>
    match l.registry.get? name with
    | none => throw (.unknownTemplate name)
    | some t => ExceptT.mk do
      let e ← get
      if name ∈ e.calls.inFlight then return .error (.cycle (e.calls.cyclePath name))
      else
        modify (·.enter ⟨name, scope⟩)
        let outcome ← ((l.frame enter).renderBody t.body).run
        modify (·.leave name)
        return outcome

section

variable (l : Library σ) (enter : Enter (Process σ)) {name : String} (scope : Value)
  (e : Evaluation σ)

theorem enterOnce_unknown (h : l.registry.get? name = none) :
    (l.enterOnce enter name scope).run e = some (.error (.unknownTemplate name), e) := by
  unfold enterOnce
  rw [h]
  rfl

theorem enterOnce_inFlight {t : Template} (h : l.registry.get? name = some t)
    (hname : name ∈ e.calls.inFlight) :
    (l.enterOnce enter name scope).run e =
      some (.error (.cycle (e.calls.cyclePath name)), e) := by
  unfold enterOnce
  rw [h]
  change (ite _ _ _ : Process σ _) e = _
  rw [if_pos hname]
  rfl

theorem enterOnce_known {t : Template} (h : l.registry.get? name = some t)
    (hname : name ∉ e.calls.inFlight) :
    (l.enterOnce enter name scope).run e =
      (((l.frame enter).renderBody t.body).run (e.enter ⟨name, scope⟩)).map fun (outcome, e') =>
        (outcome, e'.leave name) := by
  unfold enterOnce
  rw [h]
  change (ite _ _ _ : Process σ _) e = _
  rw [if_neg hname]
  change Option.bind _ _ = Option.map _ _
  cases ((l.frame enter).renderBody t.body).run (e.enter ⟨name, scope⟩) with
  | none => rfl
  | some r => rfl

end

/-- Refinement of computations: the second one does what the first one does, if that ends. -/
def refinement : Correspondence (Process σ) (Process σ) where
  Rel x y := ∀ e, x e = none ∨ x e = y e
  pure _ := fun _ => .inr rfl
  bind := by
    intro α β x y f g hx hf e
    obtain h | h := hx e
    · left
      simp [bind, StateT.bind, h]
    · cases hy : y e with
      | none =>
        left
        simp [bind, StateT.bind, h, hy]
      | some r =>
        simpa [bind, StateT.bind, h, hy] using hf r.1 r.2

theorem frame_refines (l : Library σ) {enter enter' : Enter (Process σ)}
    (h : ∀ name scope, (refinement.except _).Rel (enter name scope) (enter' name scope)) :
    (l.frame enter).Corresponds refinement (l.frame enter') where
  registry := rfl
  fallback := rfl
  pick _ := fun _ => .inr rfl
  current := fun _ => .inr rfl
  enter := h

theorem enterOnce_refines (l : Library σ) {enter enter' : Enter (Process σ)}
    (h : ∀ name scope, (refinement.except _).Rel (enter name scope) (enter' name scope))
    (name : String) (scope : Value) :
    (refinement.except _).Rel (l.enterOnce enter name scope) (l.enterOnce enter' name scope) := by
  unfold enterOnce
  split
  · exact refinement.except_throws _ _
  · refine refinement.bind (fun _ => .inr rfl) fun e => ?_
    split
    · exact refinement.pure _
    · refine refinement.bind (fun _ => .inr rfl) fun _ => ?_
      refine refinement.bind ((l.frame_refines h).renderBody _) fun outcome => ?_
      exact refinement.bind (fun _ => .inr rfl) fun _ => refinement.pure _

/-- Renders a template on top of those that are being rendered. Nothing in the definition says that
this comes to an end; that it does is a theorem. -/
def evaluate (l : Library σ) (name : String) (scope : Value) :
    ExceptT EvaluationError (Process σ) String :=
  l.enterOnce (l |>.evaluate) name scope
partial_fixpoint monotonicity by
  intro enter enter' h name scope e
  have hrefines : ∀ name scope, (refinement.except _).Rel (enter name scope) (enter' name scope) := by
    intro name scope e
    have hrel := h name scope e
    change enter name scope e = none ∨ enter name scope e = enter' name scope e
    generalize enter name scope e = x at hrel ⊢
    generalize enter' name scope e = y at hrel ⊢
    cases hrel with
    | bot => exact .inl rfl
    | refl => exact .inr rfl
  have hrel := l.enterOnce_refines hrefines name scope e
  change l.enterOnce enter name scope e = none ∨
    l.enterOnce enter name scope e = l.enterOnce enter' name scope e at hrel
  dsimp only
  generalize l.enterOnce enter name scope e = x at hrel ⊢
  generalize l.enterOnce enter' name scope e = y at hrel ⊢
  obtain rfl | rfl := hrel
  · exact .bot
  · exact .refl

/-- Every run that starts with the call stack `c` ends, and ends with the same call stack. -/
def Restores {α : Type} (c : CallStack) (x : Process σ α) : Prop :=
  ∀ e, e.calls = c → ∃ a e', x e = some (a, e') ∧ e'.calls = c

theorem restores_pure {α : Type} (c : CallStack) (a : α) : Restores c (pure a : Process σ α) :=
  fun e h => ⟨a, e, rfl, h⟩

theorem restores_bind {α β : Type} {c : CallStack} {x : Process σ α} {f : α → Process σ β}
    (hx : Restores c x) (hf : ∀ a, Restores c (f a)) : Restores c (x >>= f) := by
  intro e he
  obtain ⟨a, e', hxe, he'⟩ := hx e he
  obtain ⟨b, e'', hfe, he''⟩ := hf a e' he'
  exact ⟨b, e'', by simpa [bind, StateT.bind, hxe] using hfe, he''⟩

/-- Sequencing respects the restoring of a call stack. -/
def restoration (c : CallStack) : Correspondence (Process σ) (Process σ) where
  Rel x _ := Restores c x
  pure a := restores_pure c a
  bind hx hf := restores_bind hx hf

theorem frame_restores (l : Library σ) {c : CallStack} {enter : Enter (Process σ)}
    (h : ∀ name scope, Restores c (enter name scope).run) :
    (l.frame enter).Corresponds (restoration c) (l.frame enter) where
  registry := rfl
  fallback := rfl
  pick _ := fun _ he => ⟨_, _, rfl, he⟩
  current := fun e he => ⟨_, e, rfl, he⟩
  enter := h

/-- A template is taken off the stack again if the templates inside it are. -/
theorem enterOnce_restores (l : Library σ) (c : CallStack) {enter : Enter (Process σ)}
    (name : String) (scope : Value)
    (h : ∀ t, l.registry.get? name = some t → name ∉ c.inFlight →
      ∀ inner innerScope, Restores (c.push ⟨name, scope⟩) (enter inner innerScope).run) :
    Restores c (l.enterOnce enter name scope).run := by
  intro e he
  subst he
  cases ht : l.registry.get? name with
  | none => exact ⟨_, e, l.enterOnce_unknown enter scope e ht, rfl⟩
  | some t =>
    by_cases hname : name ∈ e.calls.inFlight
    · exact ⟨_, e, l.enterOnce_inFlight enter scope e ht hname, rfl⟩
    · have hbody := (l.frame_restores (h t ht hname)).renderBody t.body
      obtain ⟨outcome, e', hrun, he'⟩ := hbody (e.enter ⟨name, scope⟩) rfl
      refine ⟨outcome, e'.leave name, ?_, ?_⟩
      · rw [l.enterOnce_known enter scope e ht hname]
        exact congrArg (Option.map _) hrun
      · simp only [Evaluation.leave, he']
        exact CallStack.pop_push (t := ⟨name, scope⟩) hname

/-- Rendering ends, and leaves the call stack as it was. The induction is on the number of
templates that are not in flight. -/
theorem evaluate_restores (l : Library σ) (c : CallStack) (name : String) (scope : Value) :
    Restores c (l.evaluate name scope).run := by
  rw [evaluate]
  refine l.enterOnce_restores c name scope fun t ht hname inner innerScope => ?_
  exact evaluate_restores l (c.push ⟨name, scope⟩) inner innerScope
termination_by l.registry.remaining c.inFlight
decreasing_by
  exact Registry.remaining_lt ht hname (by simp [CallStack.mem_inFlight_push])
    fun n hn => by simp [CallStack.mem_inFlight_push, hn]

theorem evaluate_ends (l : Library σ) (name : String) (scope : Value) (e : Evaluation σ) :
    ((l.evaluate name scope).run e).isSome := by
  obtain ⟨outcome, e', h, -⟩ := l.evaluate_restores e.calls name scope e rfl
  exact Option.isSome_iff_exists.2 ⟨_, h⟩

/-- A call of a function ends, and leaves the call stack as it was. -/
theorem call_restores (l : Library σ) (c : CallStack) {function : String}
    {f : List Value → ExceptT ExpressionError (Process σ) Value}
    (hf : (l.frame l.evaluate).calls function = some f) (arguments : List Value) :
    Restores c (f arguments).run := by
  obtain ⟨h, -⟩ | ⟨f', _, h, -, hrestores⟩ :=
    (l.frame_restores (l.evaluate_restores c)).calls function
  · simp [hf] at h
  · obtain rfl : f = f' := by simpa [hf] using h
    exact hrestores arguments

theorem call_ends (l : Library σ) {function : String}
    {f : List Value → ExceptT ExpressionError (Process σ) Value}
    (hf : (l.frame l.evaluate).calls function = some f) (arguments : List Value)
    (e : Evaluation σ) : ((f arguments).run e).isSome := by
  obtain ⟨outcome, e', h, -⟩ := l.call_restores e.calls hf arguments e rfl
  exact Option.isSome_iff_exists.2 ⟨_, h⟩

end Library

/-- An evaluator in use. -/
structure Session (σ : Type) where
  library : Library σ
  evaluation : Evaluation σ

namespace Session

def start (l : Library σ) (picker : σ) : Session σ := ⟨l, .start picker⟩

/-- Renders a template; the session goes on with what the evaluator has become. -/
def render (s : Session σ) (name : String) (scope : Value) :
    Except EvaluationError String × Session σ :=
  let (outcome, evaluation) := ((s.library.evaluate name scope).run s.evaluation).get
    (s.library.evaluate_ends name scope s.evaluation)
  (outcome, { s with evaluation := evaluation })

def depth (s : Session σ) : Nat := s.evaluation.calls.depth

/-- Calls a function as an expression of no template would: `none` when its name is not known. -/
def call (s : Session σ) (function : String) (arguments : List Value) :
    Option (Except ExpressionError Value × Session σ) :=
  match h : (s.library.frame s.library.evaluate).calls function with
  | none => none
  | some f =>
    let (outcome, evaluation) := ((f arguments).run s.evaluation).get
      (s.library.call_ends h arguments s.evaluation)
    some (outcome, { s with evaluation := evaluation })

end Session

end Phrasebook
