import Phrasebook.Proofs.Check.Loading
import Phrasebook.Proofs.Evaluator.Discipline
import Phrasebook.Proofs.Evaluator.Failures
import Phrasebook.Proofs.Template.Expressions
import Phrasebook.Template.Reader

namespace Phrasebook

/-- The failure is that of a reference. -/
def EvaluationError.OfReference : EvaluationError → Prop
  | .unknownTemplate _ | .argumentCountMismatch _ _ _ | .invalidReference _ => True
  | _ => False

/-- Arguments that a check accepts can be bound. -/
theorem Registry.exists_bindArguments {r : Registry} {name : String} {t : Template}
    {arguments : List Value} (ht : r.get? name = some t)
    (h : Check.acceptsArguments t.parameters.length arguments.length) :
    ∃ scope, r.bindArguments name arguments = .ok scope := by
  unfold bindArguments
  rw [Table.parameters?_of_get? ht]
  generalize t.parameters = parameters at h
  dsimp only
  split
  · exact ⟨_, rfl⟩
  · rename_i hshortcut
    have hlength : parameters.length = arguments.length := by
      simp only [Check.acceptsArguments, Bool.or_eq_true, Bool.and_eq_true, decide_eq_true_eq] at h
      rcases h with ⟨hnone, hone⟩ | heq
      · obtain ⟨v, hv⟩ := List.length_eq_one_iff.1 hone
        exact absurd hv (hshortcut v (List.length_eq_zero_iff.1 hnone))
      · exact heq.symm
    rw [if_pos hlength]
    exact ⟨_, rfl⟩

namespace Check

theorem isWarning_of_mem_reference {definitions : List Template} {location : Location}
    {text : String} {d : Diagnostic} (h : d ∈ reference definitions location text) :
    d.isWarning := by
  rcases mem_reference_iff.1 h with ⟨e, -, rfl⟩ | ⟨r, -, ⟨-, rfl⟩ | ⟨_, _, -, -, -, rfl⟩⟩ <;> rfl

/-- The reference is well formed, names a template, and passes as many arguments as that takes. -/
def Resolves (definitions : List Template) (text : String) : Prop :=
  ∃ reference target, Reference.parse text = .ok reference ∧
    (definitions.find? fun t => t.name == reference.name) = some target ∧
    ∀ arguments, reference.arguments = some arguments →
      acceptsArguments target.parameters.length arguments.length

theorem resolves_of_reference {definitions : List Template} {location : Location} {text : String}
    (h : reference definitions location text = []) : Resolves definitions text := by
  unfold reference at h
  split at h
  · contradiction
  · rename_i r hparse
    split at h
    · contradiction
    · rename_i target htarget
      refine ⟨r, target, hparse, htarget, ?_⟩
      intro arguments harguments
      rw [harguments] at h
      by_contra hcount
      simp [hcount] at h

/-- Without warnings every reference of every template resolves. -/
theorem resolves_of_warnings {fs : List SourceFile} (h : (files fs).warnings = []) {t : Template}
    (ht : t ∈ fs.flatMap SourceFile.templates) {line : Line} (hline : line ∈ t.body.allLines)
    {text : String} (htext : text ∈ line.references) :
    Resolves (fs.flatMap SourceFile.templates) text := by
  refine @resolves_of_reference _ line.location text ?_
  rw [List.eq_nil_iff_forall_not_mem]
  intro d hd
  have hmem : d ∈ (files fs).warnings := List.mem_filter.2
    ⟨mem_diagnostics_of_reference ht hline htext hd, isWarning_of_mem_reference hd⟩
  rw [h] at hmem
  cases hmem

end Check

/-- What a check of the templates grants. -/
structure Registry.Checked (r : Registry) : Prop where
  resolves : ∀ t ∈ r.templates, ∀ line ∈ t.body.allLines, ∀ text ∈ line.references,
    Check.Resolves r.templates text
  rendersNothing : ∀ t ∈ r.templates, ∀ text ∈ t.expressions, Expr.RendersNothing text

namespace EvaluationError

theorem IsRefusal.not_ofReference {e : EvaluationError} (h : e.IsRefusal) : ¬ e.OfReference := by
  cases e <;> simp_all [IsRefusal, OfReference]

theorem not_ofReference_locate {name text : String} {e : ExpressionError} (h : e.IsPlain) :
    ¬ (Frame.locate name text e).OfReference := by
  cases e with
  | template error => exact absurd rfl (h error)
  | _ => exact id

end EvaluationError

namespace Library

variable {σ : Type} (l : Library σ) (h : l.registry.Checked)
  (hfallback : ∀ name f arguments e, l.fallback name = some f → f arguments = .error e → e.IsPlain)
  {name : String} {enter : Enter (StateM σ)} {t : Template}

include h hfallback

theorem ensures_expression (ht : t ∈ l.registry.templates) {text : String}
    (htext : text ∈ t.expressions) (scope : Value) :
    Ensures (fun e => ¬ e.OfReference) (fun _ => True)
      ((l.callersFrame name scope enter).evalExpression text) := by
  refine Frame.ensures_evalExpression (l.callersFrame_current name scope enter) ?_
  refine (h.rendersNothing t ht text htext).rel_evalText (R := failures _) scope ?_ ?_
    l.registry l.registry l.fallback enter enter ?_
  · intro e he
    exact failures_throws (EvaluationError.not_ofReference_locate he)
  · intro e he
    exact failures_throws he.not_ofReference
  · intro name f arguments e hf he
    have hplain : e.IsPlain := hfallback name f arguments e hf he
    exact failures_throws (EvaluationError.not_ofReference_locate hplain)

/-- A reference in a checked template does not fail as long as the templates it may name do not. -/
theorem ensures_reference (ht : t ∈ l.registry.templates) {line : Line}
    (hline : line ∈ t.body.allLines) {text : String} (hi : .reference text ∈ line.islands)
    (henter : ∀ inner ∈ l.registry.names, ∀ innerScope,
      Ensures (fun e => ¬ e.OfReference) (fun _ => True) (enter inner innerScope))
    (scope : Value) :
    Ensures (fun e => ¬ e.OfReference) (fun _ => True)
      ((l.callersFrame name scope enter).renderReference text) := by
  have hmem : text ∈ line.references := List.mem_filterMap.2 ⟨_, hi, rfl⟩
  obtain ⟨⟨inner, arguments⟩, target, hparse, htarget, hcount⟩ :=
    h.resolves t ht line hline text hmem
  rw [← l.registry.get?_eq_find?] at htarget
  have hinner : inner ∈ l.registry.names := Registry.mem_names_of_get? htarget
  unfold Frame.renderReference
  rw [hparse]
  cases arguments with
  | none => exact henter inner hinner scope
  | some arguments =>
    have hexpressions : ∀ text ∈ arguments, text ∈ t.expressions := by
      intro argument hargument
      refine Template.mem_expressions_of_island hline hi ?_
      simpa [Island.expressions, hparse] using hargument
    refine ensures_bind (Frame.ensures_evalArguments fun argument hargument =>
      ensures_expression l h hfallback ht (hexpressions argument hargument) scope) ?_
    intro values hvalues
    have haccepts := hcount arguments rfl
    rw [← hvalues] at haccepts
    obtain ⟨innerScope, hscope⟩ := Registry.exists_bindArguments htarget haccepts
    change Ensures _ _ (ofResult (l.registry.bindArguments inner values) >>= _)
    rw [hscope]
    exact henter inner hinner innerScope

/-- No rendering of a checked template, on top of whatever callers, meets a broken reference. The
induction is along the rendering of the templates inside. -/
theorem ensures_render (callers : List String) (hname : name ∈ l.registry.names) (scope : Value) :
    Ensures (fun e => ¬ e.OfReference) (fun _ => True) (l.render callers name scope) := by
  induction callers, name, scope using Library.render.induct l with
  | case1 callers name scope hnone => exact absurd hname (Registry.get?_eq_none_iff.1 hnone)
  | case2 callers name scope t ht hcycle =>
    rw [l.render_inFlight scope ht hcycle]
    exact ensures_throw id
  | case3 callers name scope t ht hnew ih =>
    rw [l.render_known scope ht hnew]
    have hmem := Registry.mem_of_get? ht
    refine Frame.ensures_renderBody fun line hline i hi => ?_
    cases i with
    | expression text =>
      have htext : text ∈ t.expressions :=
        Template.mem_expressions_of_island hline hi (List.mem_singleton_self text)
      exact ensures_bind (l.ensures_expression h hfallback hmem htext scope) fun v _ =>
        ensures_pure trivial
    | reference text =>
      refine l.ensures_reference h hfallback hmem hline hi ?_ scope
      exact fun inner hinner innerScope => ih inner innerScope hinner

end Library

namespace Check

/-- Files that a check finds neither errors nor warnings in load strictly. If in addition none of
their expressions calls a function that renders templates, then whatever an evaluator has rendered
before, no rendering of one of their templates fails on a reference. -/
theorem checked_references_resolve (fs : List SourceFile)
    (herrors : (files fs).errors = []) (hwarnings : (files fs).warnings = [])
    (hexpressions : ∀ t ∈ fs.flatMap SourceFile.templates, ∀ text ∈ t.expressions,
      Expr.RendersNothing text) :
    ∃ r, Registry.ofFiles .reject fs = .ok r ∧ r.templates = fs.flatMap SourceFile.templates ∧
      ∀ fallback ∈ [Functions.standard, Functions.none], ∀ (σ : Type) (picker : Picker σ)
        (state : σ) (requests : List (String × Value)), ∀ name ∈ r.names, ∀ scope error,
          (((Session.start ⟨r, fallback, picker⟩ state).after requests).render name scope).1 =
            .error error → ¬ error.OfReference := by
  obtain ⟨r, hr, htemplates⟩ := Registry.ofTemplates_distinct .reject
    (nodup_of_errors herrors)
  refine ⟨r, hr, htemplates, ?_⟩
  intro fallback hfallback σ picker state requests name hname scope error herror
  have hchecked : r.Checked := by
    constructor <;> rw [htemplates]
    · exact fun t ht line hline text htext => resolves_of_warnings hwarnings ht hline htext
    · exact hexpressions
  have hplain : ∀ name f arguments e, fallback name = some f → f arguments = .error e →
      e.IsPlain := by
    intro name f arguments e hf he
    rcases List.mem_pair.1 hfallback with rfl | rfl
    · exact Functions.isPlain_of_standard hf he
    · cases hf
  let l : Library σ := ⟨r, fallback, picker⟩
  let s := (Session.start l state).after requests
  have hidle : s.Idle := (Session.idle_start l state).after requests
  have hlibrary : s.library = l := Session.library_after _ requests
  obtain ⟨log, -, heq⟩ := hidle.render_eq name scope
  have hrender := l.ensures_render hchecked hplain [] hname scope s.evaluation.picker
  rw [hlibrary] at heq
  have hfailure : ((l.render [] name scope).run.run s.evaluation.picker).1 = .error error := by
    rw [← herror]
    exact (congrArg Prod.fst heq).symm
  rw [hfailure] at hrender
  exact hrender

/-- Two files, of which the second has references to both, in a segment and in a block. -/
def greetings : List SourceFile :=
  [⟨[⟨"Greet", ["name"], .choice [⟨[.text "Hello ", .expression "{name}"], ⟨2, 1, 14, 1, none⟩⟩],
      ⟨1, 1, 0, 1, none⟩⟩], none⟩,
    ⟨[⟨"Main", [], .conditional
      [⟨some "count(users) > 1",
        [⟨[.reference "[Greet(users[0])]", .block "```, @{[Main(1)]}```"], ⟨3, 1, 34, 1, none⟩⟩],
        ⟨2, 1, 7, 1, none⟩⟩]
      ⟨none, [⟨[.text "nobody"], ⟨5, 1, 85, 1, none⟩⟩], ⟨4, 1, 74, 1, none⟩⟩,
      ⟨1, 1, 0, 1, none⟩⟩], none⟩]

theorem greetings_references_resolve :
    SourceFile.parse "# Greet(name)\n- Hello {name}\n" = .ok greetings[0] ∧
    SourceFile.parse ("# Main\n- CASE: {count(users) > 1}\n" ++
      "- [Greet(users[0])]```, @{[Main(1)]}```\n- DEFAULT:\n- nobody\n") = .ok greetings[1] ∧
    (files greetings).errors = [] ∧ (files greetings).warnings = [] ∧
    (∀ t ∈ greetings.flatMap SourceFile.templates, ∀ text ∈ t.expressions,
      Expr.RendersNothing text) ∧
    ∃ r, Registry.ofFiles .reject greetings = .ok r ∧
      r.templates = greetings.flatMap SourceFile.templates ∧
      ∀ fallback ∈ [Functions.standard, Functions.none], ∀ (σ : Type) (picker : Picker σ)
        (state : σ) (requests : List (String × Value)), ∀ name ∈ r.names, ∀ scope error,
          (((Session.start ⟨r, fallback, picker⟩ state).after requests).render name scope).1 =
            .error error → ¬ error.OfReference := by
  have herrors : (files greetings).errors = [] := by decide +kernel
  have hwarnings : (files greetings).warnings = [] := by decide +kernel
  have hexpressions : ∀ t ∈ greetings.flatMap SourceFile.templates, ∀ text ∈ t.expressions,
      Expr.RendersNothing text := by decide +kernel
  exact ⟨by decide +kernel, by decide +kernel, herrors, hwarnings, hexpressions,
    checked_references_resolve greetings herrors hwarnings hexpressions⟩

end Check

end Phrasebook
