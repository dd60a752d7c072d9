import Phrasebook.Proofs.Evaluator.Surroundings
import Phrasebook.Proofs.Registry.Loading

namespace Phrasebook

variable {σ : Type}

/-- A template is asked for that is not there. -/
def EvaluationError.IsUnknownTemplate : EvaluationError → Prop
  | .unknownTemplate _ => True
  | _ => False

namespace Registry

/-- The larger registry has all templates of the smaller one as they are. -/
def Extends (r r' : Registry) : Prop := ∀ t ∈ r.templates, t ∈ r'.templates

instance (r r' : Registry) : Decidable (Extends r r') :=
  inferInstanceAs (Decidable (∀ t ∈ r.templates, t ∈ r'.templates))

section

variable {r r' : Registry} (h : r.Extends r') {name : String} {t : Template}

include h

theorem Extends.get? (hget : r.get? name = some t) : r'.get? name = some t := by
  rw [← name_of_get? hget]
  exact get?_of_mem (h t (mem_of_get? hget))

theorem Extends.bindArguments (hget : r.get? name = some t) (arguments : List Value) :
    r'.bindArguments name arguments = r.bindArguments name arguments := by
  unfold Registry.bindArguments
  rw [Table.parameters?_of_get? hget, Table.parameters?_of_get? (h.get? hget)]

/-- Only a template that the smaller registry does not know tells the two apart. -/
theorem Extends.matches :
    Matches (tolerance (σ := σ) EvaluationError.IsUnknownTemplate) r r' where
  bind name arguments := by
    cases hget : r.get? name with
    | none =>
      have hfails : r.bindArguments name arguments = .error (.unknownTemplate name) := by
        simp [Registry.bindArguments, Table.parameters?, hget]
      rw [hfails]
      exact AgreesUnless.of_throw trivial
    | some t =>
      rw [h.bindArguments hget]
      exact AgreesUnless.refl _
  known name _ x y hxy := by
    cases hget : r.get? name with
    | none =>
      rw [Table.not_contains_of_get? hget]
      exact AgreesUnless.of_throw trivial
    | some t =>
      rw [Table.contains_of_get? hget, Table.contains_of_get? (h.get? hget)]
      exact hxy

end

end Registry

namespace Library

section

variable (l : Library σ) {r' : Registry} (hextends : l.registry.Extends r')
  (hconditions : ∀ t ∈ l.registry.templates, ∀ test ∈ t.body.tests, Expr.RendersNothing test)

include hextends

theorem matches_of_extends :
    Matches EvaluationError.IsUnknownTemplate l { l with registry := r' } where
  registry := hextends.matches
  fallback := rfl
  picker := rfl

include hconditions

/-- The induction is along the rendering with the smaller registry: where it enters a template, the
larger one enters the same one. -/
theorem render_agreesUnless_unknown (callers : List String) (name : String) (scope : Value) :
    AgreesUnless EvaluationError.IsUnknownTemplate (l.render callers name scope)
      ({ l with registry := r' }.render callers name scope) := by
  induction callers, name, scope using Library.render.induct l with
  | case1 callers name scope hnone =>
    rw [l.render_unknown scope hnone]
    exact .of_throw trivial
  | case2 callers name scope t ht hcycle =>
    rw [l.render_inFlight scope ht hcycle, render_inFlight _ scope (hextends.get? ht) hcycle]
    exact .refl _
  | case3 callers name scope t ht hnew ih =>
    rw [l.render_known scope ht hnew, render_known _ scope (hextends.get? ht) hnew]
    apply agreesUnless_renderBody (matches_of_extends l hextends)
    · exact ih
    · exact hconditions t (Registry.mem_of_get? ht)

/-- With more templates loaded, a rendering ends with the same text or the same failure, and leaves
the picker in the same state, unless it failed for want of a template. Conditions must not render
templates, for they would take that failure for an answer. -/
theorem evaluate_same_with_more_templates (name : String) (scope : Value) (picker : σ) :
    ∃ outcome e', (l.evaluate name scope).run (.start picker) = some (outcome, e') ∧
      ((∃ missing, outcome = .error (.unknownTemplate missing)) ∨
        ∃ f, ({ l with registry := r' }.evaluate name scope).run (.start picker) =
            some (outcome, f) ∧
          f.picker = e'.picker) := by
  obtain ⟨log, hrun⟩ := l.evaluate_start name scope picker
  obtain ⟨log', hrun'⟩ := evaluate_start { l with registry := r' } name scope picker
  have hagree := l.render_agreesUnless_unknown hextends hconditions [] name scope picker
  obtain ⟨error, herror, hunknown⟩ | hsame := hagree
  · refine ⟨_, _, hrun, .inl ?_⟩
    cases error with
    | unknownTemplate missing => exact ⟨missing, herror⟩
    | _ => exact hunknown.elim
  · rw [← hsame] at hrun'
    exact ⟨_, _, hrun, .inr ⟨_, hrun', rfl⟩⟩

end

/-- An invitation with a greeting, under a condition that only looks at the name. -/
def invitation : Registry :=
  .ofDistinct
    [⟨"Invitation", ["name"], .conditional
        [⟨some "length(name) > 0",
          [⟨[.reference "[Greeting(name)]", .expression "{foreach(lines, layout)}"],
            ⟨3, 1, 42, 1, none⟩⟩],
          ⟨2, 1, 15, 1, none⟩⟩]
        ⟨none, [⟨[.text "To whom it may concern"], ⟨5, 1, 92, 1, none⟩⟩], ⟨4, 1, 81, 1, none⟩⟩,
        ⟨1, 1, 0, 1, none⟩⟩,
      ⟨"Greeting", ["name"], .choice
        [⟨[.text "Dear ", .expression "{name}"], ⟨8, 1, 136, 1, none⟩⟩], ⟨7, 1, 118, 1, none⟩⟩]
    (by decide)

/-- The invitation with a layout for its lines, which renders itself in a condition. -/
def invitationWithLayout : Registry :=
  .ofDistinct
    (⟨"Layout", [], .conditional
        [⟨some "count(foreach(lines, 'Layout')) > 0", [⟨[.text "-"], ⟨3, 1, 55, 1, none⟩⟩],
          ⟨2, 1, 9, 1, none⟩⟩]
        ⟨none, [⟨[.text "*"], ⟨5, 1, 70, 1, none⟩⟩], ⟨4, 1, 60, 1, none⟩⟩, ⟨1, 1, 0, 1, none⟩⟩ ::
      invitation.templates)
    (by decide)

/-- An invitation whose lines have a layout is the same when other templates have come. -/
theorem invitation_same_with_layout :
    let l : Library Unit := ⟨invitation, .standard, .fixed 0⟩
    let scope : Value := .mapping
      [("layout", .text "Greeting"), ("lines", .list [.text "soup", .text "pie"]),
        ("name", .text "Ann")]
    l.registry.Extends invitationWithLayout ∧
    (∀ t ∈ l.registry.templates, ∀ test ∈ t.body.tests, Expr.RendersNothing test) ∧
    ∃ outcome e', (l.evaluate "Invitation" scope).run (.start ()) = some (outcome, e') ∧
      ((∃ missing, outcome = .error (.unknownTemplate missing)) ∨
        ∃ f, ({ l with registry := invitationWithLayout }.evaluate "Invitation" scope).run
            (.start ()) = some (outcome, f) ∧
          f.picker = e'.picker) := by
  intro l scope
  have hextends : l.registry.Extends invitationWithLayout := by decide
  have hconditions : ∀ t ∈ l.registry.templates, ∀ test ∈ t.body.tests,
      Expr.RendersNothing test := by decide +kernel
  exact ⟨hextends, hconditions,
    l.evaluate_same_with_more_templates hextends hconditions "Invitation" scope ()⟩

end Library

end Phrasebook
