import Mathlib.Data.List.Forall2
import Phrasebook.Proofs.Evaluator.Unison
import Phrasebook.Proofs.Registry.Loading

namespace Phrasebook

section

variable (R : Segment → Segment → Prop)

/-- The lines have related segments in the same places, wherever they were read. -/
def Line.Exchanged (l l' : Line) : Prop := List.Forall₂ R l.segments l'.segments

structure Clause.Exchanged (c c' : Clause) : Prop where
  condition : c'.condition = c.condition
  lines : List.Forall₂ (Line.Exchanged R) c.lines c'.lines

inductive Body.Exchanged : Body → Body → Prop where
  | choice {lines lines' : List Line} (hlines : List.Forall₂ (Line.Exchanged R) lines lines') :
    Exchanged (.choice lines) (.choice lines')
  | conditional {cases cases' : List Clause} {otherwise otherwise' : Clause}
      (hcases : List.Forall₂ (Clause.Exchanged R) cases cases')
      (hotherwise : Clause.Exchanged R otherwise otherwise') :
    Exchanged (.conditional cases otherwise) (.conditional cases' otherwise')

structure Template.Exchanged (t t' : Template) : Prop where
  name : t'.name = t.name
  parameters : t'.parameters = t.parameters
  body : Body.Exchanged R t.body t'.body

/-- The same templates in the same order, but for related segments and for where they were read. -/
def Registry.Exchanged (r r' : Registry) : Prop :=
  List.Forall₂ (Template.Exchanged R) r.templates r'.templates

end

/-- Wherever the segments stand, they come to the same. -/
def Segment.RenderAlike (s s' : Segment) : Prop :=
  ∀ (m : Type → Type) [Monad m] [LawfulMonad m] (f : Frame m),
    f.renderSegment s = f.renderSegment s'

section

variable {R : Segment → Segment → Prop} {r r' : Registry}

/-- The lines that an index picks are exchanged too. -/
theorem Line.exchanged_getD {lines lines' : List Line} {first first' : Line}
    (h : List.Forall₂ (Line.Exchanged R) lines lines') (hfirst : Line.Exchanged R first first')
    (index : Nat) :
    Line.Exchanged R (lines[index]?.getD first) (lines'[index]?.getD first') := by
  induction h generalizing index with
  | nil => exact hfirst
  | cons hline _ ih =>
    cases index with
    | zero => exact hline
    | succ index => exact ih index

theorem Clause.Exchanged.test {c c' : Clause} (h : Clause.Exchanged R c c') : c'.test = c.test :=
  congrArg (Option.getD · "") h.condition

/-- Under one name there are templates with segments exchanged, or none on both sides. -/
theorem Registry.Exchanged.get? (h : Exchanged R r r') (name : String) :
    Option.Rel (Template.Exchanged R) (r.get? name) (r'.get? name) := by
  rw [r.get?_eq_find?, r'.get?_eq_find?]
  unfold Registry.Exchanged at h
  generalize r.templates = ts, r'.templates = ts' at h
  induction h with
  | nil => exact .none
  | @cons t t' ts ts' ht _ ih =>
    rw [List.find?_cons, List.find?_cons, ht.name]
    cases t.name == name with
    | true => exact .some ht
    | false => exact ih

end

/-- The templates of the registries have the same names and parameters. -/
def Registry.SameParameters (r r' : Registry) : Prop :=
  ∀ name, r.parameters? name = r'.parameters? name

theorem Registry.Exchanged.sameParameters {R : Segment → Segment → Prop} {r r' : Registry}
    (h : Exchanged R r r') : r.SameParameters r' := by
  intro name
  unfold Registry.Table.parameters?
  have hget := h.get? name
  generalize r.get? name = found, r'.get? name = found' at hget
  cases hget with
  | none => rfl
  | some ht => exact congrArg some ht.parameters.symm

section

variable {r r' : Registry} (h : r.SameParameters r')

include h

theorem Registry.SameParameters.bindArguments (name : String) (arguments : List Value) :
    r.bindArguments name arguments = r'.bindArguments name arguments := by
  unfold Registry.bindArguments
  rw [h]

theorem Registry.SameParameters.contains (name : String) : r.contains name = r'.contains name := by
  have hparameters := congrArg Option.isSome (h name)
  simpa [Registry.Table.parameters?, Registry.Table.contains] using hparameters

theorem Registry.SameParameters.matches (m : Type → Type) [Monad m] :
    Registry.Matches (.equality (ExceptT EvaluationError m)) r r' where
  bind name arguments := congrArg ofResult (h.bindArguments name arguments)
  known name α x y hxy := by
    cases hxy
    rw [h.contains]
    exact rfl

end

namespace Frame

variable {m : Type → Type} [Monad m]

section

variable [LawfulMonad m] {R : Segment → Segment → Prop} (f : Frame m)
  (hR : ∀ s s', R s s' → s.RenderAlike s')

include hR

theorem renderSegments_exchanged {ss ss' : List Segment} (h : List.Forall₂ R ss ss') :
    f.renderSegments ss = f.renderSegments ss' := by
  induction h with
  | nil => rfl
  | cons hs _ ih => rw [renderSegments, renderSegments, hR _ _ hs m f, ih]

theorem renderChoice_exchanged {lines lines' : List Line}
    (h : List.Forall₂ (Line.Exchanged R) lines lines') :
    f.renderChoice lines = f.renderChoice lines' := by
  cases h with
  | nil => rfl
  | @cons first first' more more' hfirst hmore =>
    have hpicked (index : Nat) :
        f.renderSegments ((first :: more)[index]?.getD first).segments =
          f.renderSegments ((first' :: more')[index]?.getD first').segments :=
      f.renderSegments_exchanged hR (Line.exchanged_getD (.cons hfirst hmore) hfirst index)
    simp only [renderChoice, hmore.length_eq, hpicked]

theorem renderBody_exchanged {b b' : Body} (h : Body.Exchanged R b b') :
    f.renderBody b = f.renderBody b' := by
  cases h with
  | choice hlines => exact f.renderChoice_exchanged hR hlines
  | conditional hcases hotherwise =>
    rw [renderBody, renderBody]
    induction hcases with
    | nil => exact f.renderChoice_exchanged hR hotherwise.lines
    | cons hclause _ ih =>
      rw [renderCases, renderCases, hclause.test, f.renderChoice_exchanged hR hclause.lines, ih]

end

/-- The same place with other templates in reach. -/
def withRegistry (f : Frame m) (r : Registry) : Frame m := { f with registry := r }

section

variable (f : Frame m) {r : Registry} (h : r.SameParameters f.registry)

include h

theorem calls_withRegistry : (f.withRegistry r).calls = f.calls := by
  funext function
  have hcalls : Expr.Calls.Corresponds (.equality (ExceptT ExpressionError m))
      (f.withRegistry r).calls f.calls function :=
    Builtin.calls_corresponds_of_matches (fun _ _ _ => rfl)
      (fun _ _ => congrArg Builtin.inExpression) f.fallback (fun _ _ => rfl) function
      (fun _ _ _ _ _ _ => rfl) (h.matches m)
  obtain ⟨hleft, hright⟩ | ⟨g, g', hleft, hright, hg⟩ := hcalls
  · exact hleft.trans hright.symm
  · exact hleft.trans ((congrArg some (funext hg)).trans hright.symm)

theorem outcome_withRegistry (text : String) :
    (f.withRegistry r).outcome text = f.outcome text := by
  unfold outcome
  rw [f.calls_withRegistry h]
  rfl

theorem evalExpression_withRegistry (text : String) :
    (f.withRegistry r).evalExpression text = f.evalExpression text := by
  unfold evalExpression
  rw [f.outcome_withRegistry h]
  rfl

theorem renderReference_withRegistry (text : String) :
    (f.withRegistry r).renderReference text = f.renderReference text := by
  have harguments (texts : List String) :
      (f.withRegistry r).evalArguments texts = f.evalArguments texts :=
    rel_evalArguments (R := .equality _) texts fun text _ => f.evalExpression_withRegistry h text
  unfold renderReference
  split
  · rfl
  · rfl
  · simp only [harguments]
    exact congrArg _ (funext fun values => by rw [withRegistry, h.bindArguments])

theorem renderBody_withRegistry (b : Body) : (f.withRegistry r).renderBody b = f.renderBody b := by
  refine rel_renderBody (R := .equality _) (f := f.withRegistry r) (g := f) (fun _ => rfl) b ?_ ?_
  · intro test _
    change ExceptT.lift _ = ExceptT.lift _
    rw [f.outcome_withRegistry h]
  · intro line _ i _
    cases i with
    | expression text =>
      change (do let v ← (f.withRegistry r).evalExpression text; return v.toText) = _
      rw [f.evalExpression_withRegistry h]
      rfl
    | reference text => exact f.renderReference_withRegistry h text

end

end Frame

namespace Library

variable {σ : Type}

theorem frame_same (l : Library σ) {c : CallStack} {enter enter' : Enter (Process σ)}
    (h : ∀ name scope, SameResult (.same σ) c (enter name scope).run (enter' name scope).run) :
    (l.frame enter).Corresponds (unison (.same σ) c) (l.frame enter') where
  registry := rfl
  fallback := rfl
  pick n := by
    rintro e _ rfl he
    exact ⟨_, _, _, rfl, rfl, rfl, he⟩
  current := current_sameResult l l enter enter'
  enter := h

/-- Exchanging segments for others that render alike changes no rendering, whatever the scope and
the picker are and whatever is in flight already. -/
theorem evaluate_exchanged {R : Segment → Segment → Prop}
    (hR : ∀ s s', R s s' → s.RenderAlike s') {r r' : Registry} (hr : Registry.Exchanged R r r')
    (fallback : Functions) (picker : Picker σ) (name : String) (scope : Value)
    (e : Evaluation σ) :
    ∃ outcome e', ((⟨r, fallback, picker⟩ : Library σ).evaluate name scope).run e =
        some (outcome, e') ∧
      ((⟨r', fallback, picker⟩ : Library σ).evaluate name scope).run e = some (outcome, e') := by
  let l : Library σ := ⟨r, fallback, picker⟩
  let l' : Library σ := ⟨r', fallback, picker⟩
  have hsame : SameResult (.same σ) e.calls (l.evaluate name scope).run
      (l'.evaluate name scope).run := by
    apply evaluate_sameResult l l' hr.get?
    intro c enter enter' t t' ht h
    have hbody : (l.frame enter').renderBody t.body = (l'.frame enter').renderBody t'.body :=
      calc (l.frame enter').renderBody t.body
          = (l'.frame enter').renderBody t.body :=
            (l'.frame enter').renderBody_withRegistry hr.sameParameters t.body
        _ = (l'.frame enter').renderBody t'.body :=
            (l'.frame enter').renderBody_exchanged hR ht.body
    rw [← hbody]
    exact (l.frame_same h).renderBody t.body
  obtain ⟨outcome, e', _, hrun, hrun', rfl, -⟩ := hsame e e rfl rfl
  exact ⟨outcome, _, hrun, hrun'⟩

end Library

end Phrasebook
