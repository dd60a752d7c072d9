import Phrasebook.Evaluator
import Phrasebook.Proofs.Registry.Loading
import Phrasebook.Proofs.Template.Expressions

namespace Phrasebook

variable {σ : Type}

/-- The template that a reference without arguments names. -/
def Reference.forwardsTo? (text : String) : Option String :=
  match Reference.parse text with
  | .ok ⟨name, none⟩ => some name
  | _ => none

namespace Expr

def identifier? : Expr → Option String
  | .identifier name => some name
  | _ => none

/-- The names that the expression with this text looks up. -/
def lookups (text : String) : List String :=
  match read text.toList with
  | .ok e => e.parts.filterMap identifier?
  | .error _ => []

theorem mem_lookups {text : String} {e : Expr} {x : String} (he : read text.toList = .ok e)
    (hx : e.Mentions x) : x ∈ lookups text := by
  unfold lookups
  rw [he]
  exact List.mem_filterMap.2 ⟨.identifier x, hx, rfl⟩

theorem of_mem_lookups {text : String} {x : String} (hx : x ∈ lookups text) :
    ∃ e, read text.toList = .ok e ∧ e.Mentions x := by
  unfold lookups at hx
  split at hx
  · rename_i e he
    obtain ⟨part, hpart, hidentifier⟩ := List.mem_filterMap.1 hx
    cases part <;> cases hidentifier
    exact ⟨e, he, hpart⟩
  · cases hx

end Expr

namespace Template

def lookups (t : Template) : List String := t.expressions.flatMap Expr.lookups

/-- The templates that render in the scope of this one. -/
def forwards (t : Template) : List String :=
  t.body.allLines.flatMap fun line => line.references.filterMap Reference.forwardsTo?

end Template

namespace Registry

/-- The template `name` looks `x` up in its scope, or hands the scope on to a template that does. -/
inductive Reads (r : Registry) : String → String → Prop where
  | looksUp {name x : String} {t : Template} (ht : r.get? name = some t) (hx : x ∈ t.lookups) :
      Reads r name x
  | forwards {name inner x : String} {t : Template} (ht : r.get? name = some t)
      (hinner : inner ∈ t.forwards) (hx : Reads r inner x) : Reads r name x

/-- A table that is closed under both rules lists all that can be read. -/
theorem Reads.mem_table {r : Registry} {table : String → List String}
    (h : ∀ t ∈ r.templates, t.lookups ⊆ table t.name ∧
      ∀ inner ∈ t.forwards, table inner ⊆ table t.name)
    {name x : String} (hx : r.Reads name x) : x ∈ table name := by
  induction hx with
  | looksUp ht hx =>
    obtain ⟨hlookups, -⟩ := h _ (mem_of_get? ht)
    rw [← name_of_get? ht]
    exact hlookups hx
  | forwards ht hinner hx ih =>
    obtain ⟨-, hforwards⟩ := h _ (mem_of_get? ht)
    rw [← name_of_get? ht]
    exact hforwards _ hinner ih

end Registry

/-- The scopes bind the names that the expression looks up to the same values, or do not bind
them. -/
def Expr.AgreeOn (text : String) (v w : Value) : Prop :=
  ∀ e, read text.toList = .ok e → ∀ x, e.Mentions x → v.property? x = w.property? x

/-- The call stacks differ at most in the scopes of their templates. -/
structure CallStack.Alike (c d : CallStack) : Prop where
  names : c.names = d.names
  inFlight : c.inFlight = d.inFlight

namespace CallStack

theorem Alike.refl (c : CallStack) : c.Alike c := ⟨rfl, rfl⟩

theorem Alike.push {c d : CallStack} (h : c.Alike d) (name : String) (scope scope' : Value) :
    (c.push ⟨name, scope⟩).Alike (d.push ⟨name, scope'⟩) := by
  constructor
  · rw [names_push, names_push, h.names]
  · have hpush : ∀ (b : CallStack) (t : Target), (b.push t).inFlight = b.inFlight.insert t.name :=
      fun _ _ => rfl
    rw [hpush, hpush, h.inFlight]

theorem Alike.cyclePath {c d : CallStack} (h : c.Alike d) (name : String) :
    c.cyclePath name = d.cyclePath name := by
  unfold CallStack.cyclePath
  rw [h.names]

end CallStack

/-- Two evaluators with these call stacks whose pickers are in the same state. -/
structure Evaluation.Paired (c d : CallStack) (e f : Evaluation σ) : Prop where
  left : e.calls = c
  right : f.calls = d
  picker : e.picker = f.picker

namespace Library

/-- From paired evaluators both computations end with one result, and leave paired evaluators. -/
def InStep {α : Type} (c d : CallStack) (x y : Process σ α) : Prop :=
  ∀ e f, e.Paired c d f → ∃ a e' f', x e = some (a, e') ∧ y f = some (a, f') ∧ e'.Paired c d f'

/-- Sequencing keeps computations in step. -/
def lockstep (c d : CallStack) : Correspondence (Process σ) (Process σ) where
  Rel := InStep c d
  pure a := fun e f h => ⟨a, e, f, rfl, rfl, h⟩
  bind := by
    intro α β x y g k hx hg e f h
    obtain ⟨a, e₁, f₁, hxe, hyf, h₁⟩ := hx e f h
    obtain ⟨b, e₂, f₂, hge, hkf, h₂⟩ := hg a e₁ f₁ h₁
    refine ⟨b, e₂, f₂, ?_, ?_, h₂⟩
    · simpa [bind, StateT.bind, hxe] using hge
    · simpa [bind, StateT.bind, hyf] using hkf

section

variable (l : Library σ) {c d : CallStack} {enter : Enter (Process σ)} {text : String}
  (henter : ∀ name scope, InStep c d (enter name scope).run (enter name scope).run)

include henter

/-- An expression runs in step if the scopes agree where it looks a name up. -/
theorem inStep_outcome
    (h : Expr.AgreeOn text c.current.scope d.current.scope) :
    InStep c d ((l.frame enter).outcome text) ((l.frame enter).outcome text) := by
  have hcalls : ∀ function, (l.frame enter).calls.Corresponds ((lockstep c d).except _)
      (l.frame enter).calls function := by
    intro function
    apply Builtin.calls_corresponds (R := (lockstep c d).except _)
    · exact fun e _ => (lockstep c d).except_throws e
    · exact fun x y hxy => (lockstep c d).except_adapt _ hxy
    · exact henter
    · exact fun f arguments e _ _ => (lockstep c d).except_throws e
  have heval : ((lockstep c d).except _).Rel
      (Expr.evalText c.current.scope (l.frame enter).calls text)
      (Expr.evalText d.current.scope (l.frame enter).calls text) := by
    apply Expr.rel_evalText (fun e _ => (lockstep c d).except_throws e)
    intro e he part hpart
    cases part with
    | identifier x => exact h e he x hpart
    | call function arguments => exact hcalls function
    | _ => exact trivial
  intro e f hef
  have hleft : (l.frame enter).outcome text e =
      (Expr.evalText e.calls.current.scope (l.frame enter).calls text).run e := rfl
  have hright : (l.frame enter).outcome text f =
      (Expr.evalText f.calls.current.scope (l.frame enter).calls text).run f := rfl
  rw [hleft, hright, hef.left, hef.right]
  exact heval e f hef

/-- A failure names the template on top of the stack, which is the same in both. -/
theorem inStep_evalExpression (hname : c.current.name = d.current.name)
    (h : Expr.AgreeOn text c.current.scope d.current.scope) :
    ((lockstep c d).except _).Rel ((l.frame enter).evalExpression text)
      ((l.frame enter).evalExpression text) := by
  apply (lockstep c d).bind (inStep_outcome l henter h)
  intro outcome e f hef
  have hrun : ∀ g : Evaluation σ, (do
      let target ← (l.frame enter).current
      return outcome.mapError (Frame.locate target.name text) : Process σ _) g =
        some (outcome.mapError (Frame.locate g.calls.current.name text), g) := fun _ => rfl
  refine ⟨outcome.mapError (Frame.locate c.current.name text), e, f, ?_, ?_, hef⟩
  · rw [hrun, hef.left]
  · rw [hrun, hef.right, hname]

/-- A condition that fails in one run fails in the other, so neither holds. -/
theorem inStep_holds
    (h : Expr.AgreeOn text c.current.scope d.current.scope) :
    ((lockstep c d).except EvaluationError).Rel ((l.frame enter).holds text)
      ((l.frame enter).holds text) := by
  apply (lockstep c d).except_lift
  apply (lockstep c d).bind (inStep_outcome l henter h)
  intro outcome
  cases outcome with
  | ok v => exact (lockstep c d).pure _
  | error e => exact (lockstep c d).pure _

/-- A reference runs in step if its arguments do, or, without arguments, if the template it names
does in the two scopes at hand. -/
theorem inStep_renderReference (hname : c.current.name = d.current.name)
    (harguments : ∀ argument ∈ (Island.reference text).expressions,
      Expr.AgreeOn argument c.current.scope d.current.scope)
    (hforward : ∀ inner, Reference.forwardsTo? text = some inner →
      InStep c d (enter inner c.current.scope).run (enter inner d.current.scope).run) :
    ((lockstep c d).except _).Rel ((l.frame enter).renderReference text)
      ((l.frame enter).renderReference text) := by
  unfold Frame.renderReference
  cases hparse : Reference.parse text with
  | error e => exact (lockstep c d).except_throws _ _
  | ok reference =>
    obtain ⟨inner, arguments⟩ := reference
    simp only [Island.expressions, hparse] at harguments
    cases arguments with
    | none =>
      have hinner : Reference.forwardsTo? text = some inner := by
        unfold Reference.forwardsTo?
        rw [hparse]
      intro e f hef
      have hrun : ∀ g : Evaluation σ, (do
          let target ← ExceptT.lift (l.frame enter).current
          enter inner target.scope : ExceptT EvaluationError (Process σ) String).run g =
            (enter inner g.calls.current.scope).run g := fun _ => rfl
      change ∃ a e' f', (do
          let target ← ExceptT.lift (l.frame enter).current
          enter inner target.scope : ExceptT EvaluationError (Process σ) String).run e = _ ∧ (do
          let target ← ExceptT.lift (l.frame enter).current
          enter inner target.scope : ExceptT EvaluationError (Process σ) String).run f = _ ∧ _
      rw [hrun, hrun, hef.left, hef.right]
      exact hforward inner hinner e f hef
    | some arguments =>
      apply ((lockstep c d).except _).bind
      · apply Frame.rel_evalArguments
        intro argument hargument
        exact inStep_evalExpression l henter hname (harguments argument hargument)
      · intro values
        apply ((lockstep c d).except _).bind
        · exact ((lockstep c d).except _).rel_ofResult _ fun e _ => (lockstep c d).except_throws e
        · intro scope
          exact henter inner scope

/-- A body runs in step if its expressions and the templates that it forwards its scope to do. -/
theorem inStep_renderBody (hname : c.current.name = d.current.name) {t : Template}
    (hexpressions : ∀ text ∈ t.expressions,
      Expr.AgreeOn text c.current.scope d.current.scope)
    (hforward : ∀ line ∈ t.body.allLines, ∀ text ∈ line.references, ∀ inner,
      Reference.forwardsTo? text = some inner →
        InStep c d (enter inner c.current.scope).run (enter inner d.current.scope).run) :
    ((lockstep c d).except _).Rel ((l.frame enter).renderBody t.body)
      ((l.frame enter).renderBody t.body) := by
  apply Frame.rel_renderBody
  · intro n
    apply (lockstep c d).except_lift
    intro e f hef
    have hpick : (Evaluation.pick l.picker n e).1 = (Evaluation.pick l.picker n f).1 := by
      simp only [Evaluation.pick, hef.picker]
    refine ⟨(Evaluation.pick l.picker n e).1, (Evaluation.pick l.picker n e).2,
      (Evaluation.pick l.picker n f).2, rfl, ?_, ?_⟩
    · rw [hpick]
      rfl
    · constructor
      · exact hef.left
      · exact hef.right
      · simp only [Evaluation.pick, hef.picker]
  · intro test htest
    have hmem : test ∈ t.expressions := List.mem_append_left _ htest
    exact inStep_holds l henter (hexpressions test hmem)
  · intro line hline i hi
    have hagree : ∀ text ∈ i.expressions, Expr.AgreeOn text c.current.scope d.current.scope := by
      intro text htext
      exact hexpressions text (Template.mem_expressions_of_island hline hi htext)
    cases i with
    | expression text =>
      have htext := hagree text (List.mem_singleton_self text)
      apply ((lockstep c d).except _).bind (inStep_evalExpression l henter hname htext)
      intro v
      exact ((lockstep c d).except _).pure _
    | reference text =>
      have htext : text ∈ line.references := List.mem_filterMap.2 ⟨_, hi, rfl⟩
      exact inStep_renderReference l henter hname hagree (hforward line hline text htext)

end

section

variable (l : Library σ)

/-- Entering a template runs in step if the scopes agree on what it reads, provided that the
templates inside it do. -/
theorem enterOnce_inStep {c d : CallStack} (hcd : c.Alike d) {enter : Enter (Process σ)}
    {name : String} {scope scope' : Value}
    (hscope : ∀ x, l.registry.Reads name x → scope.property? x = scope'.property? x)
    (h : ∀ t, l.registry.get? name = some t → name ∉ c.inFlight →
      ∀ inner innerScope innerScope',
        (∀ x, l.registry.Reads inner x → innerScope.property? x = innerScope'.property? x) →
        InStep (c.push ⟨name, scope⟩) (d.push ⟨name, scope'⟩)
          (enter inner innerScope).run (enter inner innerScope').run) :
    InStep c d (l.enterOnce enter name scope).run (l.enterOnce enter name scope').run := by
  intro e f hef
  cases ht : l.registry.get? name with
  | none =>
    have hleft := l.enterOnce_unknown enter scope e ht
    have hright := l.enterOnce_unknown enter scope' f ht
    exact ⟨_, e, f, hleft, hright, hef⟩
  | some t =>
    have hflight : e.calls.inFlight = f.calls.inFlight := by
      rw [hef.left, hef.right]
      exact hcd.inFlight
    by_cases hname : name ∈ e.calls.inFlight
    · have hname' : name ∈ f.calls.inFlight := hflight ▸ hname
      have hleft := l.enterOnce_inFlight enter scope e ht hname
      have hright := l.enterOnce_inFlight enter scope' f ht hname'
      have hpath : e.calls.cyclePath name = f.calls.cyclePath name := by
        rw [hef.left, hef.right]
        exact hcd.cyclePath name
      rw [← hpath] at hright
      exact ⟨_, e, f, hleft, hright, hef⟩
    · have hname' : name ∉ f.calls.inFlight := hflight ▸ hname
      have hleft := l.enterOnce_known enter scope e ht hname
      have hright := l.enterOnce_known enter scope' f ht hname'
      have hc : name ∉ c.inFlight := hef.left ▸ hname
      have hd : name ∉ d.inFlight := hef.right ▸ hname'
      have hinner := h t ht hc
      have hbody : ((lockstep (c.push ⟨name, scope⟩) (d.push ⟨name, scope'⟩)).except _).Rel
          ((l.frame enter).renderBody t.body) ((l.frame enter).renderBody t.body) := by
        apply inStep_renderBody l
        · intro inner innerScope
          exact hinner inner innerScope innerScope fun _ _ => rfl
        · rw [CallStack.current_push, CallStack.current_push]
        · intro text htext expression hread x hx
          rw [CallStack.current_push, CallStack.current_push]
          have hlookup : x ∈ t.lookups :=
            List.mem_flatMap.2 ⟨text, htext, Expr.mem_lookups hread hx⟩
          exact hscope x (.looksUp ht hlookup)
        · intro line hline text htext inner hforward
          rw [CallStack.current_push, CallStack.current_push]
          have hmem : inner ∈ t.forwards :=
            List.mem_flatMap.2 ⟨line, hline, List.mem_filterMap.2 ⟨text, htext, hforward⟩⟩
          apply hinner inner scope scope'
          intro x hx
          exact hscope x (.forwards ht hmem hx)
      have hpair : (e.enter ⟨name, scope⟩).Paired (c.push ⟨name, scope⟩) (d.push ⟨name, scope'⟩)
          (f.enter ⟨name, scope'⟩) := by
        constructor
        · rw [← hef.left]
          rfl
        · rw [← hef.right]
          rfl
        · exact hef.picker
      obtain ⟨outcome, e', f', hbodyLeft, hbodyRight, hpair'⟩ := hbody _ _ hpair
      have hpop : (c.push ⟨name, scope⟩).pop name = c := CallStack.pop_push (t := ⟨name, scope⟩) hc
      have hpop' : (d.push ⟨name, scope'⟩).pop name = d :=
        CallStack.pop_push (t := ⟨name, scope'⟩) hd
      refine ⟨outcome, e'.leave name, f'.leave name, ?_, ?_, ?_⟩
      · exact hleft.trans (congrArg (Option.map _) hbodyLeft)
      · exact hright.trans (congrArg (Option.map _) hbodyRight)
      · constructor
        · simp only [Evaluation.leave, hpair'.left, hpop]
        · simp only [Evaluation.leave, hpair'.right, hpop']
        · exact hpair'.picker

/-- The induction is on the number of templates that are not in flight. -/
theorem evaluate_inStep {c d : CallStack} (hcd : c.Alike d) {name : String} {scope scope' : Value}
    (hscope : ∀ x, l.registry.Reads name x → scope.property? x = scope'.property? x) :
    InStep c d (l.evaluate name scope).run (l.evaluate name scope').run := by
  rw [evaluate, evaluate]
  apply l.enterOnce_inStep hcd hscope
  intro t ht hname inner innerScope innerScope' hinner
  exact evaluate_inStep (hcd.push name scope scope') hinner
termination_by l.registry.remaining c.inFlight
decreasing_by
  exact Registry.remaining_lt ht hname (by simp [CallStack.mem_inFlight_push])
    fun n hn => by simp [CallStack.mem_inFlight_push, hn]

/-- Rendering reads only the variables that it can reach: in scopes that agree on them a template
renders to the same text or fails with the same error, and leaves the picker in the same state,
whatever templates are being rendered around it. -/
theorem evaluate_reads_only_reachable (name : String) (scope scope' : Value)
    (hscope : ∀ x, l.registry.Reads name x → scope.property? x = scope'.property? x)
    (e : Evaluation σ) :
    ∃ outcome f f', (l.evaluate name scope).run e = some (outcome, f) ∧
      (l.evaluate name scope').run e = some (outcome, f') ∧ f.picker = f'.picker ∧
      f.calls = e.calls ∧ f'.calls = e.calls := by
  have hpair : e.Paired e.calls e.calls e := ⟨rfl, rfl, rfl⟩
  obtain ⟨outcome, f, f', hleft, hright, hpair'⟩ :=
    l.evaluate_inStep (CallStack.Alike.refl e.calls) hscope e e hpair
  exact ⟨outcome, f, f', hleft, hright, hpair'.picker, hpair'.left, hpair'.right⟩

end

/-- The first template hands its scope on to the second in a block, and the value of `b` to the
third; so `c` is read in the scope of the first, and `hidden` in no scope but that of the third. -/
def letter : Registry :=
  .ofDistinct
    [⟨"Letter", [], .conditional
        [⟨some "a > 1", [⟨[.block "```Dear @{[Name]}```"], ⟨3, 3, 31, 22, none⟩⟩],
          ⟨2, 1, 9, 19, none⟩⟩]
        ⟨none, [⟨[.reference "[Detail(b)]"], ⟨5, 3, 68, 13, none⟩⟩], ⟨4, 1, 54, 11, none⟩⟩,
        ⟨1, 1, 0, 8, none⟩⟩,
      ⟨"Name", [], .choice [⟨[.expression "{c}"], ⟨7, 1, 89, 5, none⟩⟩], ⟨6, 1, 82, 6, none⟩⟩,
      ⟨"Detail", ["hidden"], .choice [⟨[.expression "{hidden}"], ⟨9, 1, 112, 10, none⟩⟩],
        ⟨8, 1, 95, 16, none⟩⟩]
    (by decide)

theorem letter_reads_only_reachable :
    let scope : Value := .mapping [("a", .int 2), ("c", .text "Ann"), ("hidden", .int 1)]
    let scope' : Value := .mapping [("a", .int 2), ("c", .text "Ann"), ("other", .int 5)]
    (∀ x, letter.Reads "Letter" x → scope.property? x = scope'.property? x) ∧
    letter.Reads "Letter" "c" ∧
    ∀ e : Evaluation Unit, let l : Library Unit := ⟨letter, .standard, .fixed 0⟩
      ∃ outcome f f', (l.evaluate "Letter" scope).run e = some (outcome, f) ∧
        (l.evaluate "Letter" scope').run e = some (outcome, f') ∧ f.picker = f'.picker ∧
        f.calls = e.calls ∧ f'.calls = e.calls := by
  intro scope scope'
  let table : String → List String := fun name =>
    if name = "Letter" then ["a", "b", "c"] else if name = "Name" then ["c"] else ["hidden"]
  have hclosed : ∀ t ∈ letter.templates, t.lookups ⊆ table t.name ∧
      ∀ inner ∈ t.forwards, table inner ⊆ table t.name := by decide +kernel
  have hscope : ∀ x, letter.Reads "Letter" x → scope.property? x = scope'.property? x := by
    intro x hx
    have hmem : x ∈ ["a", "b", "c"] := hx.mem_table hclosed
    simp only [List.mem_cons, List.not_mem_nil, or_false] at hmem
    rcases hmem with rfl | rfl | rfl <;> rfl
  have hname : "Name" ∈ (letter.templates[0]).forwards := by decide +kernel
  have hlookup : "c" ∈ (letter.templates[1]).lookups := by decide +kernel
  refine ⟨hscope, .forwards rfl hname (.looksUp rfl hlookup), ?_⟩
  intro e l
  exact l.evaluate_reads_only_reachable "Letter" scope scope' hscope e

end Library

end Phrasebook
