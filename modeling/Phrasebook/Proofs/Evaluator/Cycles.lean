import Mathlib.Data.List.Chain
import Phrasebook.Proofs.Evaluator.Discipline
import Phrasebook.Proofs.Registry.Loading
import Phrasebook.Proofs.Template.Expressions

namespace Phrasebook

variable {σ ε α β : Type}

namespace Registry

/-- The definition of `outer` has a reference to `inner`, in a segment or in a block. -/
def RefersTo (r : Registry) (outer inner : String) : Prop :=
  ∃ t, r.get? outer = some t ∧ ∃ line ∈ t.body.allLines, ∃ text ∈ line.references,
    ∃ arguments, Reference.parse text = .ok ⟨inner, arguments⟩

/-- The definition of `outer` has an expression that calls a function that renders templates. -/
def RendersByName (r : Registry) (outer : String) : Prop :=
  ∃ t, r.get? outer = some t ∧ ∃ text ∈ t.expressions, ¬ Expr.RendersNothing text

def MayEnter (r : Registry) (outer inner : String) : Prop :=
  r.RefersTo outer inner ∨ r.RendersByName outer

/-- A path of registered templates that comes back to where it starts, and there only. -/
structure IsLoop (r : Registry) (path : List String) : Prop where
  length : 2 ≤ path.length
  closed : path.head? = path.getLast?
  distinct : path.dropLast.Nodup
  registered : ∀ name ∈ path.dropLast, name ∈ r.names
  enters : path.IsChain r.MayEnter

/-- Where no expression renders templates, a loop leads back along references. -/
theorem IsLoop.exists_transGen {r : Registry} {path : List String} (h : r.IsLoop path)
    (hnothing : ∀ t ∈ r.templates, ∀ text ∈ t.expressions, Expr.RendersNothing text) :
    ∃ outer, Relation.TransGen r.RefersTo outer outer := by
  have hrefers : path.IsChain r.RefersTo := by
    apply h.enters.imp
    intro outer inner henters
    obtain hrefers | ⟨t, ht, text, htext, hrenders⟩ := henters
    · exact hrefers
    · exact absurd (hnothing t (mem_of_get? ht) text htext) hrenders
  have hlength := h.length
  have hclosed := h.closed
  match path, hrefers with
  | [], _ => cases hlength
  | [_], _ => simp at hlength
  | outer :: inner :: rest, hrefers =>
    rw [List.isChain_cons_cons] at hrefers
    obtain ⟨hfirst, hrest⟩ := hrefers
    have hlast : (inner :: rest).getLast (List.cons_ne_nil _ _) = outer := by
      simpa [List.getLast?_eq_some_getLast] using hclosed.symm
    have hback : Relation.ReflTransGen r.RefersTo inner outer :=
      List.relationReflTransGen_of_exists_isChain_cons rest hrest hlast
    exact ⟨outer, .head' hfirst hback⟩

end Registry

namespace CallStack

/-- A cycle is closed by entering a template of the stack from its innermost one. -/
def Explains (r : Registry) (c : CallStack) : EvaluationError → Prop
  | .cycle path => c.Disciplined r ∧ ∃ name ∈ c.names, path = c.cyclePath name ∧
      (c.names ++ [name]).IsChain r.MayEnter
  | _ => True

/-- The same for a failure of a template inside an expression. -/
def ExplainsInside (r : Registry) (c : CallStack) : ExpressionError → Prop
  | .template error => c.Explains r error
  | _ => True

variable {r : Registry} {c : CallStack}

theorem explains_of_not_isCycle {error : EvaluationError} (h : ¬ error.IsCycle) :
    c.Explains r error := by
  cases error with
  | cycle path => exact absurd trivial h
  | _ => exact trivial

theorem explainsInside_of_isPlain {error : ExpressionError} (h : error.IsPlain) :
    c.ExplainsInside r error := by
  cases error with
  | template inner => exact absurd rfl (h inner)
  | _ => exact trivial

theorem ExplainsInside.locate {error : ExpressionError} (h : c.ExplainsInside r error)
    (name text : String) : c.Explains r (Frame.locate name text error) := by
  cases error with
  | template inner => exact h
  | _ => exact trivial

/-- The path leaves out what stands in front of the first entry. -/
theorem cyclePath_of_mem {name : String} (h : name ∈ c.names) :
    ∃ before after, c.names = before ++ name :: after ∧
      c.cyclePath name = name :: after ++ [name] := by
  obtain ⟨before, after, hsplit, hbefore⟩ := List.eq_append_cons_of_mem h
  refine ⟨before, after, hsplit, ?_⟩
  have hskip : ∀ n ∈ before, (n != name) = true := by
    intro n hn
    have hne : n ≠ name := fun heq => hbefore (heq ▸ hn)
    simpa using hne
  have hdrop : c.names.dropWhile (fun n => n != name) = name :: after := by
    rw [hsplit, List.dropWhile_append_of_pos hskip, List.dropWhile_cons_of_neg (by simp)]
  rw [cyclePath, hdrop]

/-- What explains a cycle makes its path a loop, which ends where the stack ends. -/
theorem Explains.isLoop {path : List String} (h : c.Explains r (.cycle path)) :
    r.IsLoop path ∧ path.dropLast <:+ c.names := by
  obtain ⟨hdisciplined, name, hname, rfl, hchain⟩ := h
  obtain ⟨before, after, hsplit, hpath⟩ := cyclePath_of_mem hname
  have hfront : (c.cyclePath name).dropLast = name :: after := by
    rw [hpath, List.dropLast_concat]
  have hsuffix : (c.cyclePath name).dropLast <:+ c.names := by
    rw [hfront, hsplit]
    exact List.suffix_append before _
  refine ⟨?_, hsuffix⟩
  constructor
  · rw [hpath]
    simp
  · rw [hpath, List.getLast?_concat]
    rfl
  · exact hdisciplined.distinct.sublist hsuffix.sublist
  · intro n hn
    exact hdisciplined.registered n (hsuffix.subset hn)
  · rw [hsplit, List.append_assoc] at hchain
    rw [hpath]
    exact hchain.right_of_append

end CallStack

/-- Started on the call stack `c`, the computation ends on it with more call stacks in the log, and
`P` holds of a failure on `c` or on one of those. -/
def Traced (P : CallStack → ε → Prop) (c : CallStack) (x : ExceptT ε (Process σ) α) : Prop :=
  ∀ e : Evaluation σ, e.calls = c → ∃ outcome picker log,
    x.run.run e = some (outcome, ⟨c, picker, e.entered ++ log⟩) ∧
      ∀ error, outcome = .error error → ∃ d ∈ c :: log, P d error

section

variable {P : CallStack → ε → Prop} {c : CallStack}

theorem traced_outcome (outcome : Except ε α) (h : ∀ error, outcome = .error error → P c error) :
    Traced P c (ExceptT.mk (pure outcome) : ExceptT ε (Process σ) α) := by
  intro e he
  subst he
  refine ⟨outcome, e.picker, [], ?_, ?_⟩
  · rw [List.append_nil]
    rfl
  · intro error herror
    exact ⟨e.calls, List.mem_singleton_self _, h error herror⟩

theorem traced_pure (a : α) : Traced P c (pure a : ExceptT ε (Process σ) α) :=
  traced_outcome (.ok a) nofun

theorem traced_bind {x : ExceptT ε (Process σ) α} {f : α → ExceptT ε (Process σ) β}
    (hx : Traced P c x) (hf : ∀ a, Traced P c (f a)) : Traced P c (x >>= f) := by
  intro e he
  obtain ⟨outcome, picker, log, hrun, hfail⟩ := hx e he
  rw [ExceptT.run_bind, StateT.run_bind, hrun]
  cases outcome with
  | error error =>
    refine ⟨.error error, picker, log, rfl, ?_⟩
    rintro _ ⟨⟩
    exact hfail error rfl
  | ok a =>
    obtain ⟨outcome', picker', log', hrun', hfail'⟩ := hf a ⟨c, picker, e.entered ++ log⟩ rfl
    refine ⟨outcome', picker', log ++ log', ?_, ?_⟩
    · rw [← List.append_assoc]
      exact hrun'
    · intro error herror
      obtain ⟨d, hd, hP⟩ := hfail' error herror
      refine ⟨d, ?_, hP⟩
      rw [List.mem_cons] at hd ⊢
      exact hd.imp_right (List.mem_append_right log)

/-- The failure may be told in other words. -/
theorem traced_mapError {ε' : Type} {P' : CallStack → ε' → Prop} {f : ε → ε'}
    {x : ExceptT ε (Process σ) α} {y : ExceptT ε' (Process σ) α} (hx : Traced P c x)
    (hy : ∀ (e e' : Evaluation σ) outcome, e.calls = c → e'.calls = c →
      x.run.run e = some (outcome, e') → y.run.run e = some (outcome.mapError f, e'))
    (hf : ∀ d error, P d error → P' d (f error)) : Traced P' c y := by
  intro e he
  obtain ⟨outcome, picker, log, hrun, hfail⟩ := hx e he
  refine ⟨outcome.mapError f, picker, log, hy e _ _ he rfl hrun, ?_⟩
  intro error herror
  cases outcome with
  | ok a => cases herror
  | error cause =>
    cases herror
    obtain ⟨d, hd, hP⟩ := hfail cause rfl
    exact ⟨d, hd, hf d cause hP⟩

end

/-- Sequencing respects the tracing of failures. -/
def tracing (P : CallStack → ε → Prop) (c : CallStack) :
    Correspondence (ExceptT ε (Process σ)) (ExceptT ε (Process σ)) where
  Rel x _ := Traced P c x
  pure := traced_pure
  bind := traced_bind

theorem tracing_throws {P : CallStack → ε → Prop} {c : CallStack} {e : ε} (h : P c e) :
    (tracing (σ := σ) P c).Throws e := by
  intro α
  apply traced_outcome (.error e)
  rintro _ ⟨⟩
  exact h

namespace Library

section

variable (l : Library σ) {c : CallStack} {enter : Enter (Process σ)} {t : Template}
  (hfallback : ∀ name f arguments e, l.fallback name = some f → f arguments = .error e → e.IsPlain)
  (ht : l.registry.get? c.current.name = some t)
  (henter : ∀ inner, l.registry.MayEnter c.current.name inner → ∀ innerScope,
    Traced (CallStack.Explains l.registry) c (enter inner innerScope))

include hfallback ht henter

/-- An expression either renders no template or may render every template. -/
theorem traced_evalText {text : String} (htext : text ∈ t.expressions) :
    Traced (CallStack.ExplainsInside l.registry) c
      (Expr.evalText c.current.scope (l.frame enter).calls text) := by
  have hplain : ∀ e : ExpressionError, e.IsPlain →
      (tracing (σ := σ) (CallStack.ExplainsInside l.registry) c).Throws e :=
    fun e he => tracing_throws (CallStack.explainsInside_of_isPlain he)
  by_cases hnothing : Expr.RendersNothing text
  · refine hnothing.rel_evalText (R := tracing (CallStack.ExplainsInside l.registry) c) _ hplain ?_
      l.registry l.registry l.fallback enter enter ?_
    · intro e he
      exact tracing_throws (CallStack.explains_of_not_isCycle he.not_isCycle)
    · intro function f arguments e hf he
      exact hplain e (hfallback function f arguments e hf he)
  · have hany : ∀ inner, l.registry.MayEnter c.current.name inner :=
      fun inner => .inr ⟨t, ht, text, htext, hnothing⟩
    change (tracing (CallStack.ExplainsInside l.registry) c).Rel
      (Expr.evalText c.current.scope (l.frame enter).calls text)
      (Expr.evalText c.current.scope (l.frame enter).calls text)
    apply Expr.rel_evalText hplain
    intro e _ part _
    cases part with
    | identifier x => exact rfl
    | call function arguments =>
      refine Builtin.calls_corresponds (R := tracing (CallStack.Explains l.registry) c) ?_ ?_
        l.registry l.fallback ?_ function ?_
      · intro error herror
        exact tracing_throws (CallStack.explains_of_not_isCycle herror)
      · intro x y hx
        apply traced_mapError hx (f := ExpressionError.template)
        · intro e e' outcome _ _ hrun
          change (Except.mapError ExpressionError.template <$> x.run).run e = _
          rw [StateT.run_map, hrun]
          rfl
        · intro d error herror
          exact herror
      · intro inner
        exact henter inner (hany inner)
      · intro f arguments e hf he
        exact hplain e (hfallback function f arguments e hf he)
    | _ => exact trivial

theorem traced_evalExpression {text : String} (htext : text ∈ t.expressions) :
    Traced (CallStack.Explains l.registry) c ((l.frame enter).evalExpression text) := by
  have heval := l.traced_evalText hfallback ht henter htext
  apply traced_mapError heval (f := Frame.locate c.current.name text)
  · intro e e' outcome he he' hrun
    have houtcome : (l.frame enter).outcome text e = some (outcome, e') := by
      change (Expr.evalText e.calls.current.scope (l.frame enter).calls text).run e = _
      rw [he]
      exact hrun
    change Option.bind ((l.frame enter).outcome text e) _ = _
    rw [houtcome]
    change some (outcome.mapError (Frame.locate e'.calls.current.name text), e') = _
    rw [he']
  · intro d error herror
    exact herror.locate _ _

theorem traced_renderReference {line : Line} (hline : line ∈ t.body.allLines) {text : String}
    (hi : .reference text ∈ line.islands) :
    Traced (CallStack.Explains l.registry) c ((l.frame enter).renderReference text) := by
  have htext : text ∈ line.references := List.mem_filterMap.2 ⟨_, hi, rfl⟩
  unfold Frame.renderReference
  cases hparse : Reference.parse text with
  | error e =>
    exact tracing_throws (CallStack.explains_of_not_isCycle id) _
  | ok reference =>
    obtain ⟨inner, arguments⟩ := reference
    have hinner : l.registry.MayEnter c.current.name inner :=
      .inl ⟨t, ht, line, hline, text, htext, arguments, hparse⟩
    cases arguments with
    | none =>
      intro e he
      change ∃ outcome picker log, (enter inner e.calls.current.scope).run e = _ ∧ _
      exact henter inner hinner e.calls.current.scope e he
    | some arguments =>
      have hexpressions : ∀ argument ∈ arguments, argument ∈ t.expressions := by
        intro argument hargument
        refine Template.mem_expressions_of_island hline hi ?_
        simpa [Island.expressions, hparse] using hargument
      apply traced_bind
      · apply Frame.rel_evalArguments (R := tracing (CallStack.Explains l.registry) c)
          (g := l.frame enter)
        intro argument hargument
        exact l.traced_evalExpression hfallback ht henter (hexpressions argument hargument)
      · intro values
        apply traced_bind
        · apply (tracing (CallStack.Explains l.registry) c).rel_ofResult
          intro error herror
          have hcycle := Registry.not_isCycle_of_bindArguments herror
          exact tracing_throws (CallStack.explains_of_not_isCycle hcycle)
        · intro scope
          exact henter inner hinner scope

/-- A condition that fails does not hold, and its failure is forgotten. -/
theorem traced_holds {test : String} (htest : test ∈ t.expressions) :
    Traced (CallStack.Explains l.registry) c ((l.frame enter).holds test) := by
  intro e he
  obtain ⟨outcome, picker, log, hrun, -⟩ := l.traced_evalText hfallback ht henter htest e he
  have houtcome : (l.frame enter).outcome test e =
      some (outcome, ⟨c, picker, e.entered ++ log⟩) := by
    change (Expr.evalText e.calls.current.scope (l.frame enter).calls test).run e = _
    rw [he]
    exact hrun
  cases outcome with
  | ok v =>
    refine ⟨.ok v.isTruthy, picker, log, ?_, nofun⟩
    change Option.bind (Option.bind ((l.frame enter).outcome test e) _) _ = _
    rw [houtcome]
    rfl
  | error error =>
    refine ⟨.ok false, picker, log, ?_, nofun⟩
    change Option.bind (Option.bind ((l.frame enter).outcome test e) _) _ = _
    rw [houtcome]
    rfl

theorem traced_renderBody : Traced (CallStack.Explains l.registry) c
    ((l.frame enter).renderBody t.body) := by
  apply Frame.rel_renderBody (R := tracing (CallStack.Explains l.registry) c) (g := l.frame enter)
  · intro k e he
    subst he
    refine ⟨.ok (l.picker.pick k e.picker).1, (l.picker.pick k e.picker).2, [], ?_, nofun⟩
    rw [List.append_nil]
    rfl
  · intro test htest
    exact l.traced_holds hfallback ht henter (List.mem_append_left _ htest)
  · intro line hline i hi
    cases i with
    | expression text =>
      have htext : text ∈ t.expressions :=
        Template.mem_expressions_of_island hline hi (List.mem_singleton_self text)
      apply traced_bind (l.traced_evalExpression hfallback ht henter htext)
      intro v
      exact traced_pure _
    | reference text => exact l.traced_renderReference hfallback ht henter hline hi

end

section

variable (l : Library σ)
  (hfallback : ∀ name f arguments e, l.fallback name = some f → f arguments = .error e → e.IsPlain)

include hfallback

/-- What the step adds to the log is the stack with the template on it, and what the body adds. -/
theorem enterOnce_traced {c : CallStack} (hc : c.Disciplined l.registry)
    {enter : Enter (Process σ)} {name : String} (scope : Value)
    (hchain : (c.names ++ [name]).IsChain l.registry.MayEnter)
    (h : ∀ t, l.registry.get? name = some t → name ∉ c.inFlight →
      ∀ inner, l.registry.MayEnter name inner → ∀ innerScope,
        Traced (CallStack.Explains l.registry) (c.push ⟨name, scope⟩) (enter inner innerScope)) :
    Traced (CallStack.Explains l.registry) c (l.enterOnce enter name scope) := by
  intro e he
  subst he
  cases ht : l.registry.get? name with
  | none =>
    refine ⟨.error (.unknownTemplate name), e.picker, [], ?_, ?_⟩
    · rw [List.append_nil]
      exact l.enterOnce_unknown enter scope e ht
    · rintro _ ⟨⟩
      exact ⟨e.calls, List.mem_singleton_self _, trivial⟩
  | some t =>
    by_cases hname : name ∈ e.calls.inFlight
    · refine ⟨.error (.cycle (e.calls.cyclePath name)), e.picker, [], ?_, ?_⟩
      · rw [List.append_nil]
        exact l.enterOnce_inFlight enter scope e ht hname
      · rintro _ ⟨⟩
        exact ⟨e.calls, List.mem_singleton_self _, hc, name, (hc.inFlight name).1 hname, rfl, hchain⟩
    · have hcurrent : (e.calls.push ⟨name, scope⟩).current = ⟨name, scope⟩ :=
        CallStack.current_push _ _
      have hbody : Traced (CallStack.Explains l.registry) (e.calls.push ⟨name, scope⟩)
          ((l.frame enter).renderBody t.body) := by
        apply l.traced_renderBody hfallback
        · rw [hcurrent]
          exact ht
        · rw [hcurrent]
          exact h t ht hname
      obtain ⟨outcome, picker, log, hrun, hfail⟩ := hbody (e.enter ⟨name, scope⟩) rfl
      have hpop : (e.calls.push ⟨name, scope⟩).pop name = e.calls :=
        CallStack.pop_push (t := ⟨name, scope⟩) hname
      refine ⟨outcome, picker, e.calls.push ⟨name, scope⟩ :: log, ?_, ?_⟩
      · refine (l.enterOnce_known enter scope e ht hname).trans ?_
        refine (congrArg (Option.map _) hrun).trans ?_
        simp only [Option.map_some, Evaluation.leave, Evaluation.enter, hpop, List.append_assoc,
          List.singleton_append]
      · intro error herror
        obtain ⟨d, hd, hexplains⟩ := hfail error herror
        exact ⟨d, List.mem_cons_of_mem _ hd, hexplains⟩

/-- The induction is on the number of templates that are not in flight. -/
theorem evaluate_traced {c : CallStack} (hc : c.Disciplined l.registry) {name : String}
    (scope : Value) (hchain : (c.names ++ [name]).IsChain l.registry.MayEnter) :
    Traced (CallStack.Explains l.registry) c (l.evaluate name scope) := by
  rw [evaluate]
  apply l.enterOnce_traced hfallback hc scope hchain
  intro t ht hname inner hinner innerScope
  have hpush := hc.push (t := ⟨name, scope⟩) (Registry.mem_names_of_get? ht) hname
  apply evaluate_traced hpush innerScope
  rw [CallStack.names_push, List.isChain_append]
  refine ⟨hchain, List.isChain_singleton inner, ?_⟩
  intro x hx y hy
  rw [List.getLast?_concat, Option.mem_some_iff] at hx
  rw [List.head?_cons, Option.mem_some_iff] at hy
  rwa [← hx, ← hy]
termination_by l.registry.remaining c.inFlight
decreasing_by
  exact Registry.remaining_lt ht hname (by simp [CallStack.mem_inFlight_push])
    fun n hn => by simp [CallStack.mem_inFlight_push, hn]

end

/-- A rendering on an empty stack that is refused as a cycle reports a loop: a path of registered
templates that ends where it starts, in the order in which they were entered, and in which each
template refers to the next or calls a function that renders templates. So without such calls and
without a way back along the references no rendering is refused as a cycle. -/
theorem evaluate_reports_loops (r : Registry) {fallback : Functions}
    (hfallback : fallback ∈ [Functions.standard, Functions.none]) (picker : Picker σ)
    (name : String) (scope : Value) (e : Evaluation σ) (he : e.calls = .empty) :
    let l : Library σ := ⟨r, fallback, picker⟩
    (∀ path e', (l.evaluate name scope).run e = some (.error (.cycle path), e') →
      r.IsLoop path ∧ ∃ log, e'.entered = e.entered ++ log ∧
        ∃ c ∈ log, path.dropLast <:+ c.names) ∧
    ((∀ t ∈ r.templates, ∀ text ∈ t.expressions, Expr.RendersNothing text) →
      (∀ outer, ¬ Relation.TransGen r.RefersTo outer outer) →
      ∀ path e', (l.evaluate name scope).run e ≠ some (.error (.cycle path), e')) := by
  intro l
  have hplain : ∀ function f arguments error, l.fallback function = some f →
      f arguments = .error error → error.IsPlain := by
    intro function f arguments error hf herror
    rcases List.mem_pair.1 hfallback with rfl | rfl
    · exact Functions.isPlain_of_standard hf herror
    · cases hf
  have hloop : ∀ path e', (l.evaluate name scope).run e = some (.error (.cycle path), e') →
      r.IsLoop path ∧ ∃ log, e'.entered = e.entered ++ log ∧
        ∃ c ∈ log, path.dropLast <:+ c.names := by
    intro path e' hrun
    obtain ⟨outcome, state, log, htrace, hfail⟩ := l.evaluate_traced hplain
      (CallStack.disciplined_empty r) scope (List.isChain_singleton name) e he
    obtain ⟨rfl, rfl⟩ : outcome = .error (.cycle path) ∧ ⟨.empty, state, e.entered ++ log⟩ = e' := by
      simpa using htrace.symm.trans hrun
    obtain ⟨c, hc, hexplains⟩ := hfail _ rfl
    obtain ⟨hpath, hsuffix⟩ := hexplains.isLoop
    refine ⟨hpath, log, rfl, c, ?_, hsuffix⟩
    obtain rfl | hc := List.mem_cons.1 hc
    · obtain ⟨-, closing, hclosing, -⟩ := hexplains
      cases hclosing
    · exact hc
  refine ⟨hloop, ?_⟩
  intro hnothing hacyclic path e' hrun
  obtain ⟨hpath, -⟩ := hloop path e' hrun
  obtain ⟨outer, hback⟩ := hpath.exists_transGen hnothing
  exact hacyclic outer hback

/-- A question refers to an answer in a block, which is rendered by name as a reply, which refers to
the answer again. -/
def ring : Registry :=
  .ofDistinct
    [⟨"Ask", [], .choice [⟨[.block "```Who? @{[Answer]}```"], ⟨2, 1, 6, 1, none⟩⟩], ⟨1, 1, 0, 1, none⟩⟩,
      ⟨"Answer", [], .choice [⟨[.expression "{foreach(people, form)}"], ⟨4, 1, 40, 1, none⟩⟩],
        ⟨3, 1, 31, 1, none⟩⟩,
      ⟨"Reply", ["who"], .choice [⟨[.reference "[Answer]"], ⟨6, 1, 79, 1, none⟩⟩],
        ⟨5, 1, 66, 1, none⟩⟩]
    (by decide)

/-- The path that a rendering reports if it is refused as a cycle. -/
def reportedPath? : Except EvaluationError String → Option (List String)
  | .error (.cycle path) => some path
  | _ => none

theorem eq_of_reportedPath? {outcome : Except EvaluationError String} {path : List String}
    (h : reportedPath? outcome = some path) : outcome = .error (.cycle path) := by
  unfold reportedPath? at h
  split at h <;> cases h
  rfl

theorem ring_reports_loop :
    let l : Library Unit := ⟨ring, .standard, .fixed 0⟩
    let scope : Value := .mapping [("form", .text "Reply"), ("people", .list [.text "Ann"])]
    let e : Evaluation Unit := .start ()
    Functions.standard ∈ [Functions.standard, Functions.none] ∧ e.calls = .empty ∧
    ∃ e', (l.evaluate "Ask" scope).run e = some (.error (.cycle ["Answer", "Reply", "Answer"]), e') ∧
      ring.IsLoop ["Answer", "Reply", "Answer"] ∧ ∃ log, e'.entered = e.entered ++ log ∧
        ∃ c ∈ log, ["Answer", "Reply"] <:+ c.names := by
  intro l scope e
  have hreport : ((l.evaluateWithin 4 "Ask" scope).run e).map (fun r => reportedPath? r.1) =
      some (some ["Answer", "Reply", "Answer"]) := by decide +kernel
  obtain ⟨⟨outcome, e'⟩, hrun, hpath⟩ := Option.map_eq_some_iff.1 hreport
  obtain rfl := eq_of_reportedPath? hpath
  have hevaluate := l.evaluate_of_evaluateWithin hrun
  obtain ⟨hloops, -⟩ := evaluate_reports_loops ring (List.mem_cons_self) (.fixed 0) "Ask" scope e rfl
  exact ⟨List.mem_cons_self, rfl, e', hevaluate, hloops _ e' hevaluate⟩

end Library

end Phrasebook
