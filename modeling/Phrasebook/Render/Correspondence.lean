import Phrasebook.Render

namespace Phrasebook

variable {m n : Type → Type} [Monad m] [Monad n]

namespace Expr

/-- The function is unknown on both sides, or its calls correspond. -/
def Calls.Corresponds (R : Correspondence (ExceptT ExpressionError m) (ExceptT ExpressionError n))
    (c : Calls m) (d : Calls n) (function : String) : Prop :=
  (c function = none ∧ d function = none) ∨
    ∃ f g, c function = some f ∧ d function = some g ∧
      ∀ arguments, R.Rel (f arguments) (g arguments)

theorem Calls.corresponds_ofFunctions
    (R : Correspondence (ExceptT ExpressionError m) (ExceptT ExpressionError n))
    (functions : Functions) (function : String)
    (hthrow : ∀ f arguments e, functions function = some f → f arguments = .error e →
      R.Throws e) :
    Calls.Corresponds R (.ofFunctions functions) (.ofFunctions functions) function := by
  unfold Calls.Corresponds Calls.ofFunctions
  cases h : functions function with
  | none => exact .inl ⟨rfl, rfl⟩
  | some f =>
    exact .inr ⟨_, _, rfl, rfl, fun arguments =>
      R.rel_ofResult _ fun e he => hthrow f arguments e h he⟩

/-- Where the expression itself looks a name up or calls a function, the evaluations agree. -/
def Agrees (R : Correspondence (ExceptT ExpressionError m) (ExceptT ExpressionError n))
    (scope scope' : Value) (c : Calls m) (d : Calls n) : Expr → Prop
  | .identifier name => scope.property? name = scope'.property? name
  | .call function _ => c.Corresponds R d function
  | _ => True

section

variable {R : Correspondence (ExceptT ExpressionError m) (ExceptT ExpressionError n)}
  {scope scope' : Value} {c : Calls m} {d : Calls n}

mutual

theorem rel_eval (hthrow : ∀ e : ExpressionError, e.IsPlain → R.Throws e) :
    ∀ e : Expr, (∀ part ∈ e.parts, part.Agrees R scope scope' c d) →
      R.Rel (eval scope c e) (eval scope' d e)
  | .literal v, _ => by
    simp only [eval]
    exact R.pure v
  | .list items, h => by
    simp only [parts, List.forall_mem_cons] at h
    simp only [eval]
    exact R.bind (rel_evalAll hthrow items h.2) fun values => R.pure _
  | .identifier name, h => by
    have hname : scope.property? name = scope'.property? name :=
      h (.identifier name) (by simp [parts])
    simp only [eval, hname]
    exact R.pure _
  | .member target name, h => by
    simp only [parts, List.forall_mem_cons] at h
    simp only [eval]
    exact R.bind (rel_eval hthrow target h.2) fun v => R.pure _
  | .index target key, h => by
    simp only [parts, List.forall_mem_cons, List.forall_mem_append] at h
    simp only [eval]
    exact R.bind (rel_eval hthrow target h.2.1) fun v =>
      R.bind (rel_eval hthrow key h.2.2) fun k => R.pure _
  | .call function arguments, h => by
    simp only [parts, List.forall_mem_cons] at h
    simp only [eval]
    refine R.bind (rel_evalAll hthrow arguments h.2) fun values => ?_
    obtain ⟨hc, hd⟩ | ⟨f, g, hc, hd, hfg⟩ := h.1
    · rw [hc, hd]
      exact hthrow _ (by simp) _
    · rw [hc, hd]
      exact hfg values
  | .unary op operand, h => by
    simp only [parts, List.forall_mem_cons] at h
    simp only [eval]
    refine R.bind (rel_eval hthrow operand h.2) fun v => R.rel_ofResult _ fun e he => ?_
    exact hthrow e (UnaryOp.isPlain_of_apply he)
  | .binary op left right, h => by
    simp only [parts, List.forall_mem_cons, List.forall_mem_append] at h
    have hleft := rel_eval hthrow left h.2.1
    have hright := rel_eval hthrow right h.2.2
    have hboth : R.Rel (do let l ← eval scope c left; let r ← eval scope c right; ofResult (op.apply l r))
        (do let l ← eval scope' d left; let r ← eval scope' d right; ofResult (op.apply l r)) :=
      R.bind hleft fun l => R.bind hright fun r => R.rel_ofResult _ fun e he =>
        hthrow e (BinaryOp.isPlain_of_apply he)
    cases op <;> simp only [eval]
    case and =>
      refine R.bind hleft fun l => ?_
      split
      · exact R.bind hright fun r => R.pure _
      · exact R.pure _
    case or =>
      refine R.bind hleft fun l => ?_
      split
      · exact R.pure _
      · exact R.bind hright fun r => R.pure _
    all_goals exact hboth

theorem rel_evalAll (hthrow : ∀ e : ExpressionError, e.IsPlain → R.Throws e) :
    ∀ es : List Expr, (∀ part ∈ partsAll es, part.Agrees R scope scope' c d) →
      R.Rel (evalAll scope c es) (evalAll scope' d es)
  | [], _ => by
    simp only [evalAll]
    exact R.pure []
  | e :: es, h => by
    simp only [partsAll, List.forall_mem_append] at h
    simp only [evalAll]
    exact R.bind (rel_eval hthrow e h.1) fun v =>
      R.bind (rel_evalAll hthrow es h.2) fun vs => R.pure _

end

/-- Two evaluations of the same text correspond if they agree wherever it looks a name up or calls
a function. -/
theorem rel_evalText
    (hthrow : ∀ e : ExpressionError, e.IsPlain → R.Throws e)
    (text : String)
    (h : ∀ e, read text.toList = .ok e → ∀ part ∈ e.parts, part.Agrees R scope scope' c d) :
    R.Rel (evalText scope c text) (evalText scope' d text) := by
  unfold evalText
  split
  · exact rel_eval hthrow _ (h _ ‹_›)
  · exact hthrow _ (by simp) _

end

end Expr

/-- Registries that `R` does not tell apart: arguments are bound alike, and a template that one of them
knows may be rendered where the other one does. -/
structure Registry.Matches
    (R : Correspondence (ExceptT EvaluationError m) (ExceptT EvaluationError n)) (r r' : Registry) :
    Prop where
  bind : ∀ name arguments,
    R.Rel (ofResult (r.bindArguments name arguments)) (ofResult (r'.bindArguments name arguments))
  known : ∀ (name : String) {α : Type} {x : ExceptT EvaluationError m α}
    {y : ExceptT EvaluationError n α}, R.Rel x y →
      R.Rel (if r.contains name then x else throw (.unknownTemplate name))
        (if r'.contains name then y else throw (.unknownTemplate name))

theorem Registry.Matches.refl
    {R : Correspondence (ExceptT EvaluationError m) (ExceptT EvaluationError n)}
    (hthrow : ∀ e : EvaluationError, ¬ e.IsCycle → R.Throws e) (r : Registry) :
    Matches R r r where
  bind name arguments := by
    apply R.rel_ofResult
    intro e he
    exact hthrow e (not_isCycle_of_bindArguments he)
  known name α x y h := by
    split
    · exact h
    · exact hthrow (.unknownTemplate name) id _

namespace Builtin

section

variable {R : Correspondence (ExceptT EvaluationError m) (ExceptT EvaluationError n)}
  (hthrow : ∀ e : EvaluationError, ¬ e.IsCycle → R.Throws e) {r r' : Registry} {enter : Enter m}
  {enter' : Enter n}

theorem rel_renderItems (hr : Registry.Matches R r r') (name : String)
    (h : ∀ scope, R.Rel (enter name scope) (enter' name scope)) (items : List Value) :
    R.Rel (renderItems r enter name items) (renderItems r' enter' name items) := by
  induction items with
  | nil => exact R.pure []
  | cons item items ih =>
    simp only [renderItems]
    exact R.bind (hr.bind name [item]) fun scope => R.bind (h scope) fun text =>
      R.bind ih fun texts => R.pure _

include hthrow

/-- What may only be refused is refused on both sides. -/
theorem rel_ofResult_of_isRefusal {α : Type} {x : Except EvaluationError α}
    (h : ∀ e, x = .error e → e.IsRefusal) : R.Rel (ofResult x) (ofResult x) :=
  R.rel_ofResult x fun e he => hthrow e (h e he).not_isCycle

variable (hr : Registry.Matches R r r')
  (h : ∀ name scope, R.Rel (enter name scope) (enter' name scope))

include hr h

theorem rel_renderEach (function : String) (list name : Value) :
    R.Rel (renderEach r enter function list name) (renderEach r' enter' function list name) := by
  unfold renderEach
  refine R.bind (rel_ofResult_of_isRefusal hthrow fun e => isRefusal_of_listItems) fun items => ?_
  refine R.bind (rel_ofResult_of_isRefusal hthrow fun e => isRefusal_of_templateName)
    fun name => ?_
  exact hr.known name (rel_renderItems hr name (h name) items)

theorem rel_foreach (function : String) (arguments : List Value) :
    R.Rel (foreach r enter function arguments) (foreach r' enter' function arguments) := by
  unfold foreach
  split
  · exact R.bind (rel_renderEach hthrow hr h function _ _) fun texts => R.pure _
  · exact hthrow (wrongCount _ _ _) id _

theorem rel_joinEach (function : String) (list name separator last : Value) :
    R.Rel (joinEach r enter function list name separator last)
      (joinEach r' enter' function list name separator last) := by
  unfold joinEach
  refine R.bind (rel_renderEach hthrow hr h function list name) fun texts => ?_
  refine R.bind (rel_ofResult_of_isRefusal hthrow fun e => isRefusal_of_separatorText)
    fun separator => ?_
  refine R.bind (rel_ofResult_of_isRefusal hthrow fun e => isRefusal_of_separatorText)
    fun last => ?_
  exact R.pure _

theorem rel_foreachThenJoin (function : String) (arguments : List Value) :
    R.Rel (foreachThenJoin r enter function arguments)
      (foreachThenJoin r' enter' function arguments) := by
  unfold foreachThenJoin
  split
  · exact rel_joinEach hthrow hr h function _ _ _ _
  · exact rel_joinEach hthrow hr h function _ _ _ _
  · exact hthrow (wrongCount _ _ _) id _

/-- A template function is unknown on both sides, or its calls correspond. -/
theorem named?_corresponds (name : String) :
    (named? r enter name = none ∧ named? r' enter' name = none) ∨
      ∃ f g, named? r enter name = some f ∧ named? r' enter' name = some g ∧
        ∀ arguments, R.Rel (f arguments) (g arguments) := by
  unfold named?
  split
  · exact .inr ⟨_, _, rfl, rfl, fun _ =>
      rel_ofResult_of_isRefusal hthrow fun e => isRefusal_of_count⟩
  · exact .inr ⟨_, _, rfl, rfl, fun _ =>
      rel_ofResult_of_isRefusal hthrow fun e => isRefusal_of_join⟩
  · exact .inr ⟨_, _, rfl, rfl, rel_foreach hthrow hr h _⟩
  iterate 3 exact .inr ⟨_, _, rfl, rfl, rel_foreachThenJoin hthrow hr h _⟩
  · exact .inl ⟨rfl, rfl⟩

end

section

variable {R : Correspondence (ExceptT EvaluationError m) (ExceptT EvaluationError n)}
  {R' : Correspondence (ExceptT ExpressionError m) (ExceptT ExpressionError n)}
  (hthrow : ∀ e : EvaluationError, ¬ e.IsCycle → R.Throws e)
  (hinside : ∀ x y, R.Rel x y → R'.Rel (inExpression x) (inExpression y))
  (fallback : Functions) {enter : Enter m} {enter' : Enter n}
  (h : ∀ name scope, R.Rel (enter name scope) (enter' name scope)) (function : String)
  (hfallback : ∀ f arguments e, fallback function = some f → f arguments = .error e → R'.Throws e)

include hthrow hinside h hfallback

/-- Functions of expressions correspond if entering templates does, the registries match, and the
fallback fails alike. -/
theorem calls_corresponds_of_matches {r r' : Registry} (hr : Registry.Matches R r r') :
    (calls r fallback enter).Corresponds R' (calls r' fallback enter') function := by
  unfold Expr.Calls.Corresponds calls
  obtain ⟨hf, hg⟩ | ⟨f, g, hf, hg, hfg⟩ := named?_corresponds hthrow hr h function
  · rw [hf, hg]
    exact Expr.Calls.corresponds_ofFunctions R' fallback function hfallback
  · rw [hf, hg]
    exact .inr ⟨_, _, rfl, rfl, fun arguments => hinside _ _ (hfg arguments)⟩

end

/-- Functions of expressions correspond if entering templates does and the fallback fails alike. -/
theorem calls_corresponds {R : Correspondence (ExceptT EvaluationError m) (ExceptT EvaluationError n)}
    {R' : Correspondence (ExceptT ExpressionError m) (ExceptT ExpressionError n)}
    (hthrow : ∀ e : EvaluationError, ¬ e.IsCycle → R.Throws e)
    (hinside : ∀ x y, R.Rel x y → R'.Rel (inExpression x) (inExpression y))
    (r : Registry) (fallback : Functions) {enter : Enter m} {enter' : Enter n}
    (h : ∀ name scope, R.Rel (enter name scope) (enter' name scope)) (function : String)
    (hfallback : ∀ f arguments e, fallback function = some f → f arguments = .error e →
      R'.Throws e) :
    (calls r fallback enter).Corresponds R' (calls r fallback enter') function :=
  calls_corresponds_of_matches hthrow hinside fallback h function hfallback (.refl hthrow r)

end Builtin

namespace Frame

section

variable {R : Correspondence (ExceptT EvaluationError m) (ExceptT EvaluationError n)} {f : Frame m}
  {g : Frame n}

theorem rel_renderParts (parts : List BlockPart)
    (h : ∀ i ∈ parts.filterMap BlockPart.island?, R.Rel (f.renderIsland i) (g.renderIsland i)) :
    R.Rel (f.renderParts parts) (g.renderParts parts) := by
  induction parts with
  | nil => exact R.pure ""
  | cons part parts ih =>
    cases part with
    | char c =>
      simp only [renderParts]
      exact R.bind (ih h) fun rest => R.pure _
    | island body =>
      simp only [List.filterMap_cons, BlockPart.island?, List.forall_mem_cons] at h
      simp only [renderParts]
      exact R.bind h.1 fun text => R.bind (ih h.2) fun rest => R.pure _

theorem rel_renderSegment (s : Segment)
    (h : ∀ i ∈ s.islands, R.Rel (f.renderIsland i) (g.renderIsland i)) :
    R.Rel (f.renderSegment s) (g.renderSegment s) := by
  cases s with
  | text raw => exact R.pure raw
  | expression raw => exact h (.expression _) (by simp [Segment.islands])
  | reference raw => exact h (.reference _) (by simp [Segment.islands])
  | block raw =>
    rw [Segment.islands_block] at h
    exact rel_renderParts _ h

theorem rel_renderSegments (ss : List Segment)
    (h : ∀ i ∈ ss.flatMap Segment.islands, R.Rel (f.renderIsland i) (g.renderIsland i)) :
    R.Rel (f.renderSegments ss) (g.renderSegments ss) := by
  induction ss with
  | nil => exact R.pure ""
  | cons s ss ih =>
    simp only [List.flatMap_cons, List.forall_mem_append] at h
    simp only [renderSegments]
    exact R.bind (rel_renderSegment s h.1) fun text => R.bind (ih h.2) fun rest => R.pure _

theorem rel_renderChoice (lines : List Line)
    (hchoose : ∀ k, R.Rel (f.choose k) (g.choose k))
    (h : ∀ line ∈ lines, ∀ i ∈ line.islands, R.Rel (f.renderIsland i) (g.renderIsland i)) :
    R.Rel (f.renderChoice lines) (g.renderChoice lines) := by
  cases lines with
  | nil => exact R.pure ""
  | cons first more =>
    simp only [renderChoice]
    refine R.bind (hchoose _) fun index => rel_renderSegments _ (h _ ?_)
    cases hline : (first :: more)[min index more.length]? with
    | none => simp
    | some line => simpa using List.mem_of_getElem? hline

theorem rel_renderCases (hchoose : ∀ k, R.Rel (f.choose k) (g.choose k)) (otherwise : Clause)
    (cases : List Clause)
    (htest : ∀ clause ∈ cases, R.Rel (f.holds clause.test) (g.holds clause.test))
    (h : ∀ line ∈ (cases ++ [otherwise]).flatMap Clause.lines, ∀ i ∈ line.islands,
      R.Rel (f.renderIsland i) (g.renderIsland i)) :
    R.Rel (f.renderCases otherwise cases) (g.renderCases otherwise cases) := by
  induction cases with
  | nil => exact rel_renderChoice _ hchoose fun line hline => h line (by simpa using hline)
  | cons clause clauses ih =>
    simp only [List.forall_mem_cons] at htest
    simp only [List.cons_append, List.flatMap_cons, List.forall_mem_append] at h
    simp only [renderCases]
    refine R.bind htest.1 fun holds => ?_
    split
    · exact rel_renderChoice _ hchoose h.1
    · exact ih htest.2 h.2

/-- Two renderings of a body correspond if they do at its conditions, its islands and the choice
between lines. -/
theorem rel_renderBody (hchoose : ∀ k, R.Rel (f.choose k) (g.choose k)) (b : Body)
    (htest : ∀ test ∈ b.tests, R.Rel (f.holds test) (g.holds test))
    (h : ∀ line ∈ b.allLines, ∀ i ∈ line.islands, R.Rel (f.renderIsland i) (g.renderIsland i)) :
    R.Rel (f.renderBody b) (g.renderBody b) := by
  cases b with
  | choice lines => exact rel_renderChoice lines hchoose h
  | conditional cases otherwise =>
    refine rel_renderCases hchoose otherwise cases (fun clause hclause => ?_) h
    exact htest _ (List.mem_map_of_mem hclause)

theorem rel_evalArguments (texts : List String)
    (h : ∀ text ∈ texts, R.Rel (f.evalExpression text) (g.evalExpression text)) :
    R.Rel (f.evalArguments texts) (g.evalArguments texts) := by
  induction texts with
  | nil => exact R.pure []
  | cons text texts ih =>
    simp only [List.forall_mem_cons] at h
    simp only [evalArguments]
    exact R.bind h.1 fun v => R.bind (ih h.2) fun vs => R.pure _

end

variable [LawfulMonad m] [LawfulMonad n]

/-- Two frames that share templates and functions and take corresponding steps. -/
structure Corresponds (R : Correspondence m n) (f : Frame m) (g : Frame n) : Prop where
  registry : f.registry = g.registry
  fallback : f.fallback = g.fallback
  pick : ∀ k, R.Rel (f.pick k) (g.pick k)
  current : R.Rel f.current g.current
  enter : ∀ name scope, (R.except EvaluationError).Rel (f.enter name scope) (g.enter name scope)

namespace Corresponds

variable {R : Correspondence m n} {f : Frame m} {g : Frame n} (h : Corresponds R f g)

include h

theorem calls (function : String) : f.calls.Corresponds (R.except _) g.calls function := by
  unfold Frame.calls
  rw [h.registry, h.fallback]
  exact Builtin.calls_corresponds (fun e _ => R.except_throws e)
    (fun x y hxy => R.except_adapt _ hxy) _ _ h.enter function fun _ _ e _ _ => R.except_throws e

theorem outcome (text : String) : R.Rel (f.outcome text) (g.outcome text) := by
  refine R.bind h.current fun target => ?_
  refine Expr.rel_evalText (R := R.except ExpressionError) (fun e _ => R.except_throws e) text
    fun e _ part _ => ?_
  cases part with
  | identifier name => exact rfl
  | call function arguments => exact h.calls function
  | _ => exact trivial

theorem evalExpression (text : String) :
    (R.except _).Rel (f.evalExpression text) (g.evalExpression text) :=
  R.bind (h.outcome text) fun _ => R.bind h.current fun _ => R.pure _

theorem renderReference (text : String) :
    (R.except _).Rel (f.renderReference text) (g.renderReference text) := by
  unfold Frame.renderReference
  split
  · exact R.except_throws _ _
  · exact (R.except _).bind (R.except_lift h.current) fun target => h.enter _ _
  · refine (R.except _).bind (rel_evalArguments _ fun text _ => h.evalExpression text)
      fun values => ?_
    rw [h.registry]
    exact (R.except _).bind ((R.except _).rel_ofResult _ fun e _ => R.except_throws e)
      fun scope => h.enter _ _

theorem renderIsland (i : Island) : (R.except _).Rel (f.renderIsland i) (g.renderIsland i) := by
  cases i with
  | expression text => exact (R.except _).bind (h.evalExpression text) fun v => (R.except _).pure _
  | reference text => exact h.renderReference text

theorem holds (condition : String) : (R.except _).Rel (f.holds condition) (g.holds condition) := by
  refine R.except_lift (R.bind (h.outcome condition) fun outcome => ?_)
  cases outcome with
  | ok v => exact R.pure _
  | error e => exact R.pure _

theorem renderBody (b : Body) : (R.except _).Rel (f.renderBody b) (g.renderBody b) :=
  rel_renderBody (fun k => R.except_lift (h.pick k)) b (fun test _ => h.holds test)
    fun _ _ i _ => h.renderIsland i

end Corresponds

end Frame

end Phrasebook
