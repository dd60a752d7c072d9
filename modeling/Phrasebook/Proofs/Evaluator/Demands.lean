import Phrasebook.Proofs.Evaluator.Arguments
import Phrasebook.Proofs.Evaluator.Outcomes

namespace Phrasebook

variable {σ : Type}

/-- Whether the second operand is looked at after the first one has this value. -/
def BinaryOp.NeedsRight : BinaryOp → Value → Prop
  | .and, v => v.isTruthy
  | .or, v => ¬ v.isTruthy
  | _, _ => True

namespace Expr

/-- Evaluating an expression from a state comes to evaluating a part of it from another one. -/
inductive Demands (scope : Value) (calls : Calls (Process σ)) :
    Expr → Evaluation σ → Expr → Evaluation σ → Prop where
  | item {items : List Expr} {part : Expr} {e e' : Evaluation σ}
      (h : Turn (eval scope calls) items e part e') : Demands scope calls (.list items) e part e'
  | target {target : Expr} {name : String} {e : Evaluation σ} :
      Demands scope calls (.member target name) e target e
  | indexed {target key : Expr} {e : Evaluation σ} :
      Demands scope calls (.index target key) e target e
  | key {target key : Expr} {v : Value} {e e' : Evaluation σ}
      (h : Yields (eval scope calls target) e v e') :
      Demands scope calls (.index target key) e key e'
  | argument {function : String} {arguments : List Expr} {part : Expr} {e e' : Evaluation σ}
      (h : Turn (eval scope calls) arguments e part e') :
      Demands scope calls (.call function arguments) e part e'
  | operand {op : UnaryOp} {operand : Expr} {e : Evaluation σ} :
      Demands scope calls (.unary op operand) e operand e
  | left {op : BinaryOp} {left right : Expr} {e : Evaluation σ} :
      Demands scope calls (.binary op left right) e left e
  | right {op : BinaryOp} {left right : Expr} {v : Value} {e e' : Evaluation σ}
      (h : Yields (eval scope calls left) e v e') (hneeds : op.NeedsRight v) :
      Demands scope calls (.binary op left right) e right e'

variable {scope : Value} {calls : Calls (Process σ)} {e e' : Evaluation σ}

theorem evalAll_eq_mapM (es : List Expr) : evalAll scope calls es = es.mapM (eval scope calls) := by
  induction es with
  | nil =>
    rw [evalAll, List.mapM_nil]
  | cons first es ih => rw [evalAll, List.mapM_cons, ih]

theorem length_parts_le {part : Expr} {es : List Expr} (h : part ∈ es) :
    part.parts.length ≤ (partsAll es).length := by
  induction es with
  | nil => cases h
  | cons first es ih =>
    rw [partsAll, List.length_append]
    rcases List.mem_cons.1 h with rfl | h
    · exact Nat.le_add_right _ _
    · exact Nat.le_add_left_of_le (ih h)

/-- A demanded part is smaller. -/
theorem Demands.length_parts_lt {tree part : Expr} (h : Demands scope calls tree e part e') :
    part.parts.length < tree.parts.length := by
  cases h with
  | item h => exact Nat.lt_succ_of_le (length_parts_le h.mem)
  | argument h => exact Nat.lt_succ_of_le (length_parts_le h.mem)
  | target => exact Nat.lt_succ_self _
  | operand => exact Nat.lt_succ_self _
  | indexed | key | left | right =>
    rw [parts, List.length_cons, List.length_append]
    omega

variable {error : ExpressionError}

/-- What makes a part fail makes the expression fail. -/
theorem Demands.failsWith {tree part : Expr} (h : Demands scope calls tree e part e')
    (hpart : FailsWith (eval scope calls part) e' error) :
    FailsWith (eval scope calls tree) e error := by
  cases h with
  | item h =>
    rw [eval, failsWith_bind, evalAll_eq_mapM]
    exact .inl (failsWith_mapM.2 ⟨part, e', h, hpart⟩)
  | target =>
    rw [eval, failsWith_bind]
    exact .inl hpart
  | indexed =>
    rw [eval, failsWith_bind]
    exact .inl hpart
  | key h =>
    rw [eval, failsWith_bind]
    exact .inr ⟨_, e', h, failsWith_bind.2 (.inl hpart)⟩
  | argument h =>
    rw [eval, failsWith_bind, evalAll_eq_mapM]
    exact .inl (failsWith_mapM.2 ⟨part, e', h, hpart⟩)
  | operand =>
    rw [eval, failsWith_bind]
    exact .inl hpart
  | @left op _ _ _ =>
    cases op <;> exact failsWith_bind.2 (.inl hpart)
  | @right op _ _ v _ _ h hneeds =>
    cases op with
    | and =>
      rw [eval, failsWith_bind]
      refine .inr ⟨v, e', h, ?_⟩
      have htruthy : v.isTruthy = true := hneeds
      rw [if_pos htruthy]
      exact failsWith_bind.2 (.inl hpart)
    | or =>
      rw [eval, failsWith_bind]
      refine .inr ⟨v, e', h, ?_⟩
      have hfalsy : ¬ v.isTruthy = true := hneeds
      rw [if_neg hfalsy]
      exact failsWith_bind.2 (.inl hpart)
    | _ => exact failsWith_bind.2 (.inr ⟨v, e', h, failsWith_bind.2 (.inl hpart)⟩)

/-- A failure that is none of the expression's own comes from a part of it or from its function. -/
theorem exists_of_failsWith_eval {tree : Expr} (hown : ¬ error.IsPlain)
    (h : FailsWith (eval scope calls tree) e error) :
    (∃ part e', Demands scope calls tree e part e' ∧ FailsWith (eval scope calls part) e' error) ∨
      ∃ function arguments values e' f, tree = .call function arguments ∧
        Yields (evalAll scope calls arguments) e values e' ∧ calls function = some f ∧
        FailsWith (f values) e' error := by
  cases tree with
  | literal v =>
    rw [eval] at h
    exact absurd h (failsWith_pure v)
  | identifier name =>
    rw [eval] at h
    exact absurd h (failsWith_pure _)
  | list items =>
    rw [eval, failsWith_bind, evalAll_eq_mapM] at h
    rcases h with h | ⟨values, e₁, -, h⟩
    · obtain ⟨part, e', hturn, hpart⟩ := failsWith_mapM.1 h
      exact .inl ⟨part, e', .item hturn, hpart⟩
    · exact absurd h (failsWith_pure _)
  | member target name =>
    rw [eval, failsWith_bind] at h
    rcases h with h | ⟨v, e₁, -, h⟩
    · exact .inl ⟨target, e, .target, h⟩
    · exact absurd h (failsWith_pure _)
  | index target key =>
    rw [eval, failsWith_bind] at h
    rcases h with h | ⟨v, e₁, hv, h⟩
    · exact .inl ⟨target, e, .indexed, h⟩
    · rcases failsWith_bind.1 h with h | ⟨k, e₂, -, h⟩
      · exact .inl ⟨key, e₁, .key hv, h⟩
      · exact absurd h (failsWith_pure _)
  | call function arguments =>
    rw [eval, failsWith_bind] at h
    rcases h with h | ⟨values, e₁, hvalues, h⟩
    · rw [evalAll_eq_mapM] at h
      obtain ⟨part, e', hturn, hpart⟩ := failsWith_mapM.1 h
      exact .inl ⟨part, e', .argument hturn, hpart⟩
    · cases hcall : calls function with
      | none =>
        rw [hcall] at h
        rw [← failsWith_throw.1 h] at hown
        exact absurd (ExpressionError.isPlain_unknownFunction function) hown
      | some f =>
        rw [hcall] at h
        exact .inr ⟨function, arguments, values, e₁, f, rfl, hvalues, hcall, h⟩
  | unary op operand =>
    rw [eval, failsWith_bind] at h
    rcases h with h | ⟨v, e₁, -, h⟩
    · exact .inl ⟨operand, e, .operand, h⟩
    · exact absurd (UnaryOp.isPlain_of_apply (failsWith_ofResult.1 h)) hown
  | binary op left right =>
    have hboth (h : FailsWith (do
        let l ← eval scope calls left
        let r ← eval scope calls right
        ofResult (op.apply l r)) e error) (hneeds : ∀ v, op.NeedsRight v) :
        ∃ part e', Demands scope calls (.binary op left right) e part e' ∧
          FailsWith (eval scope calls part) e' error := by
      rcases failsWith_bind.1 h with h | ⟨l, e₁, hl, h⟩
      · exact ⟨left, e, .left, h⟩
      rcases failsWith_bind.1 h with h | ⟨r, e₂, -, h⟩
      · exact ⟨right, e₁, .right hl (hneeds l), h⟩
      · exact absurd (BinaryOp.isPlain_of_apply (failsWith_ofResult.1 h)) hown
    left
    cases op with
    | and =>
      rw [eval, failsWith_bind] at h
      rcases h with h | ⟨l, e₁, hl, h⟩
      · exact ⟨left, e, .left, h⟩
      split at h
      · rename_i htruthy
        rcases failsWith_bind.1 h with h | ⟨r, e₂, -, h⟩
        · exact ⟨right, e₁, .right hl htruthy, h⟩
        · exact absurd h (failsWith_pure _)
      · exact absurd h (failsWith_pure _)
    | or =>
      rw [eval, failsWith_bind] at h
      rcases h with h | ⟨l, e₁, hl, h⟩
      · exact ⟨left, e, .left, h⟩
      split at h
      · exact absurd h (failsWith_pure _)
      · rename_i hfalsy
        rcases failsWith_bind.1 h with h | ⟨r, e₂, -, h⟩
        · exact ⟨right, e₁, .right hl hfalsy, h⟩
        · exact absurd h (failsWith_pure _)
    | _ =>
      simp only [eval] at h
      exact hboth h fun _ => trivial

end Expr

/-- The failure of an expression, located in its template. -/
def EvaluationError.IsLocated : EvaluationError → Prop
  | .expression _ _ _ => True
  | _ => False

theorem EvaluationError.IsRefusal.not_isLocated {e : EvaluationError} (h : e.IsRefusal) :
    ¬ e.IsLocated := by
  cases e <;> simp_all [IsRefusal, IsLocated]

theorem Registry.not_isLocated_of_bindArguments {r : Registry} {name : String}
    {arguments : List Value} {e : EvaluationError} (h : r.bindArguments name arguments = .error e) :
    ¬ e.IsLocated := by
  unfold bindArguments at h
  split at h
  · cases h
    exact id
  · split at h
    · cases h
    · split at h
      · cases h
      · cases h
        exact id

namespace Builtin

/-- How many arguments a function may have behind a list and the template for its items. -/
def argumentsBehind (function : String) : List Nat :=
  match function with
  | "foreach" => [0]
  | "foreachThenJoin" | "humanize" | "newParameter" => [1, 2]
  | _ => []

/-- With these arguments the function renders the template for each of the items. -/
def RendersEach (function : String) (arguments items : List Value) (name : String) : Prop :=
  ∃ rest, arguments = .list items :: .text name :: rest ∧ rest.length ∈ argumentsBehind function

def renderItem {m : Type → Type} [Monad m] (r : Registry) (enter : Enter m) (name : String)
    (item : Value) : ExceptT EvaluationError m String := do
  let scope ← ofResult (r.bindArguments name [item])
  enter name scope

variable {r : Registry} {enter : Enter (Process σ)} {e : Evaluation σ} {error : EvaluationError}
  {function name : String} {arguments items : List Value}

theorem calls_of_named {f : List Value → ExceptT EvaluationError (Process σ) Value}
    (fallback : Functions) (hf : named? r enter function = some f) :
    calls r fallback enter function = some fun arguments => inExpression (f arguments) := by
  unfold calls
  rw [hf]

theorem calls_of_not_named (fallback : Functions) (hf : named? r enter function = none) :
    calls r fallback enter function = Expr.Calls.ofFunctions fallback function := by
  unfold calls
  rw [hf]

theorem renderEach_eq (hknown : r.contains name) :
    renderEach r enter function (.list items) (.text name) =
      items.mapM (renderItem r enter name) := by
  change (if r.contains name then renderItems r enter name items else _) = _
  rw [if_pos hknown]
  exact renderItems_eq_mapM r enter items name

/-- A list and a template are rendered, or refused. -/
theorem exists_of_failsWith_renderEach {list target : Value} (hlocated : error.IsLocated)
    (h : FailsWith (renderEach r enter function list target) e error) :
    ∃ items name, list = .list items ∧ target = .text name ∧ r.contains name ∧
      FailsWith (items.mapM (renderItem r enter name)) e error := by
  unfold renderEach at h
  rcases failsWith_bind.1 h with h | ⟨items, e₁, hitems, h⟩
  · exact absurd hlocated (isRefusal_of_listItems (failsWith_ofResult.1 h)).not_isLocated
  rcases failsWith_bind.1 h with h | ⟨name, e₂, hname, h⟩
  · exact absurd hlocated (isRefusal_of_templateName (failsWith_ofResult.1 h)).not_isLocated
  obtain ⟨hitems, rfl⟩ := yields_ofResult.1 hitems
  obtain ⟨hname, rfl⟩ := yields_ofResult.1 hname
  split at h
  · rename_i hknown
    rw [renderItems_eq_mapM] at h
    have hlist : list = .list items := by
      unfold listItems at hitems
      split at hitems <;> cases hitems
      rfl
    have htarget : target = .text name := by
      unfold templateName at hname
      split at hname <;> cases hname
      rfl
    exact ⟨items, name, hlist, htarget, hknown, h⟩
  · rw [← failsWith_throw.1 h] at hlocated
    exact hlocated.elim

theorem exists_of_failsWith_joinEach {list target separator last : Value}
    (hlocated : error.IsLocated)
    (h : FailsWith (joinEach r enter function list target separator last) e error) :
    FailsWith (renderEach r enter function list target) e error := by
  unfold joinEach at h
  rcases failsWith_bind.1 h with h | ⟨texts, e₁, -, h⟩
  · exact h
  rcases failsWith_bind.1 h with h | ⟨separator, e₂, -, h⟩
  · exact absurd hlocated (isRefusal_of_separatorText (failsWith_ofResult.1 h)).not_isLocated
  rcases failsWith_bind.1 h with h | ⟨last, e₃, -, h⟩
  · exact absurd hlocated (isRefusal_of_separatorText (failsWith_ofResult.1 h)).not_isLocated
  · exact absurd h (failsWith_pure _)

/-- What makes the rendering of the items fail makes the function fail. -/
theorem failsWith_of_rendersEach (heach : RendersEach function arguments items name)
    (hknown : r.contains name) (h : FailsWith (items.mapM (renderItem r enter name)) e error) :
    ∃ f, named? r enter function = some f ∧ FailsWith (f arguments) e error := by
  obtain ⟨rest, rfl, hrest⟩ := heach
  have hrender (function : String) :
      FailsWith (renderEach r enter function (.list items) (.text name)) e error := by
    rw [renderEach_eq hknown]
    exact h
  have hjoin (function : String) (hrest : rest.length ∈ [1, 2]) :
      FailsWith (foreachThenJoin r enter function (.list items :: .text name :: rest)) e error := by
    match rest, hrest with
    | [separator], _ => exact failsWith_bind.2 (.inl (hrender function))
    | [separator, last], _ => exact failsWith_bind.2 (.inl (hrender function))
    | [], hrest => simp at hrest
    | _ :: _ :: _ :: _, hrest => simp at hrest
  unfold argumentsBehind at hrest
  split at hrest
  · obtain rfl : rest = [] := by simpa using hrest
    exact ⟨_, rfl, failsWith_bind.2 (.inl (hrender "foreach"))⟩
  iterate 3 exact ⟨_, rfl, hjoin _ hrest⟩
  · cases hrest

/-- A function passes on the failure of an expression only from the rendering of its items. -/
theorem exists_rendersEach {f : List Value → ExceptT EvaluationError (Process σ) Value}
    (hf : named? r enter function = some f) (hlocated : error.IsLocated)
    (h : FailsWith (f arguments) e error) :
    ∃ items name, RendersEach function arguments items name ∧ r.contains name ∧
      FailsWith (items.mapM (renderItem r enter name)) e error := by
  have hcount (function expected : String) (found : Nat)
      (h : FailsWith (throw (wrongCount function expected found) :
        ExceptT EvaluationError (Process σ) Value) e error) : False := by
    rw [← failsWith_throw.1 h] at hlocated
    exact hlocated
  have hjoin (function : String)
      (h : FailsWith (foreachThenJoin r enter function arguments) e error) :
      ∃ items name rest, arguments = .list items :: .text name :: rest ∧ rest.length ∈ [1, 2] ∧
        r.contains name ∧ FailsWith (items.mapM (renderItem r enter name)) e error := by
    unfold foreachThenJoin at h
    split at h
    · obtain ⟨items, name, rfl, rfl, hknown, h⟩ :=
        exists_of_failsWith_renderEach hlocated (exists_of_failsWith_joinEach hlocated h)
      exact ⟨items, name, _, rfl, by simp, hknown, h⟩
    · obtain ⟨items, name, rfl, rfl, hknown, h⟩ :=
        exists_of_failsWith_renderEach hlocated (exists_of_failsWith_joinEach hlocated h)
      exact ⟨items, name, _, rfl, by simp, hknown, h⟩
    · exact (hcount _ _ _ h).elim
  unfold named? at hf
  split at hf
  · cases hf
    exact absurd hlocated (isRefusal_of_count (failsWith_ofResult.1 h)).not_isLocated
  · cases hf
    exact absurd hlocated (isRefusal_of_join (failsWith_ofResult.1 h)).not_isLocated
  · cases hf
    unfold foreach at h
    split at h
    · rcases failsWith_bind.1 h with h | ⟨texts, e₁, -, h⟩
      · obtain ⟨items, name, rfl, rfl, hknown, h⟩ := exists_of_failsWith_renderEach hlocated h
        exact ⟨items, name, ⟨[], rfl, by simp [argumentsBehind]⟩, hknown, h⟩
      · exact absurd h (failsWith_pure _)
    · exact (hcount _ _ _ h).elim
  iterate 3
    cases hf
    obtain ⟨items, name, rest, rfl, hrest, hknown, h⟩ := hjoin _ h
    exact ⟨items, name, ⟨rest, rfl, hrest⟩, hknown, h⟩
  · cases hf

end Builtin

end Phrasebook
