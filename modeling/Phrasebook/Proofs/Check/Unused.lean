import Phrasebook.Proofs.Check.Findings
import Phrasebook.Proofs.Check.Mentions
import Phrasebook.Proofs.Evaluator.Discipline
import Phrasebook.Proofs.Registry.Loading
import Phrasebook.Template.Reader

namespace Phrasebook

variable {σ : Type}

/-- The scopes bind everything but this name to the same values. -/
def Value.AgreeBut (p : String) (v w : Value) : Prop := ∀ x, x ≠ p → v.property? x = w.property? x

theorem Value.agreeBut_insert (p : String) (v w : Value) (fields : Fields) :
    (mapping (Fields.insert p v fields)).AgreeBut p (.mapping (Fields.insert p w fields)) := by
  intro x hx
  change Fields.get? (Fields.insert p v fields) x = Fields.get? (Fields.insert p w fields) x
  rw [Fields.get?_insert, Fields.get?_insert, if_neg (Ne.symm hx), if_neg (Ne.symm hx)]

/-- From every state of an evaluator the template renders to the same text or fails with the same
error in both scopes, and leaves the picker in the same state. -/
def Library.RendersAlike (l : Library σ) (name : String) (v w : Value) : Prop :=
  ∀ e : Evaluation σ, ∃ outcome f f', (l.evaluate name v).run e = some (outcome, f) ∧
    (l.evaluate name w).run e = some (outcome, f') ∧ f.picker = f'.picker

theorem Library.rendersAlike_of_reads (l : Library σ) {name p : String} {v w : Value}
    (hp : ¬ l.registry.Reads name p) (h : v.AgreeBut p w) : l.RendersAlike name v w := by
  intro e
  have hscope : ∀ x, l.registry.Reads name x → v.property? x = w.property? x := by
    intro x hx
    apply h
    rintro rfl
    exact hp hx
  have hpaired : e.Paired e.calls e.calls e := ⟨rfl, rfl, rfl⟩
  obtain ⟨outcome, f, f', hleft, hright, hpaired'⟩ :=
    l.evaluate_inStep (CallStack.Alike.refl e.calls) hscope e e hpaired
  exact ⟨outcome, f, f', hleft, hright, hpaired'.picker⟩

namespace Check

/-- A template reads what it does not mention only through those that it hands its scope on to. -/
theorem not_reads_of_mentions {r : Registry} {t : Template} (ht : t ∈ r.templates) {p : String}
    (hmentions : mentions (mentionedText t) p = false)
    (hforwards : ∀ inner ∈ t.forwards, ¬ r.Reads inner p) : ¬ r.Reads t.name p := by
  have hget : r.get? t.name = some t := Registry.get?_of_mem ht
  intro hreads
  cases hreads with
  | looksUp ht' hlookup =>
    obtain rfl := Option.some.inj (hget.symm.trans ht')
    rw [Template.mentions_of_lookups hlookup] at hmentions
    contradiction
  | forwards ht' hinner hreads =>
    obtain rfl := Option.some.inj (hget.symm.trans ht')
    exact hforwards _ hinner hreads

/-- Among files in which no name is defined twice, every hint about an unused parameter is about a
parameter of one of the templates, and tells which. Its value makes no difference to a rendering of
the template, unless the template hands its scope on to one that reads it. -/
theorem unused_parameter_makes_no_difference {fs : List SourceFile}
    (hdistinct : ((fs.flatMap SourceFile.templates).map Template.name).Nodup) {d : Diagnostic}
    (hd : d ∈ (files fs).diagnostics) (hcode : d.code = .unusedParameter) :
    ∃ t ∈ fs.flatMap SourceFile.templates, ∃ p ∈ t.parameters,
      d = .unusedParameter p t.name t.location ∧
      (∀ p' name location, Name.isIdentifier p → Name.isIdentifier p' →
        d = .unusedParameter p' name location → p' = p ∧ name = t.name) ∧
      ∀ policy, ∃ r, Registry.ofFiles policy fs = .ok r ∧
        ((∀ inner ∈ t.forwards, ¬ r.Reads inner p) →
          ∀ (σ : Type) (fallback : Functions) (picker : Picker σ) (scope scope' : Value),
            scope.AgreeBut p scope' →
              Library.RendersAlike ⟨r, fallback, picker⟩ t.name scope scope') := by
  obtain ⟨t, ht, hconcerns⟩ := exists_concerns hd
  -- Only the check of the parameters gives this code; what the others find has a code of its own.
  cases hconcerns with
  | name hsplit hfirst => cases hcode
  | reference hline htext hd =>
    rcases mem_reference_iff.1 hd with ⟨e, -, rfl⟩ | ⟨reference, -, ⟨-, rfl⟩ | hcount⟩
    · cases hcode
    · cases hcode
    · obtain ⟨target, arguments, -, -, -, rfl⟩ := hcount
      cases hcode
  | @parameter p hp hunused =>
    refine ⟨t, ht, p, hp, rfl, ?_, fun policy => ?_⟩
    · intro p' name location hidentifier hidentifier' hsame
      exact unusedParameter_inj hidentifier' hidentifier hsame.symm
    · obtain ⟨r, hr, htemplates⟩ := Registry.ofTemplates_distinct policy hdistinct
      refine ⟨r, hr, ?_⟩
      intro hforwards σ fallback picker scope scope' hscope
      have hmem : t ∈ r.templates := htemplates ▸ ht
      have hreads : ¬ r.Reads t.name p := not_reads_of_mentions hmem hunused hforwards
      exact Library.rendersAlike_of_reads ⟨r, fallback, picker⟩ hreads hscope

/-- The parameters occur in no expression of the first template. It hands its scope on to the
second, which reads one of them. -/
def card : SourceFile where
  templates :=
    [⟨"Card", ["name", "host"], .choice [⟨[.text "host: ", .expression "\x7bhosts[0]\x7d",
          .block "```, dear @\x7b[Guest]\x7d```"], ⟨2, 1, 19, 1, none⟩⟩], ⟨1, 1, 0, 1, none⟩⟩,
      ⟨"Guest", [], .choice [⟨[.expression "\x7bname\x7d"], ⟨5, 1, 70, 1, none⟩⟩],
        ⟨4, 1, 62, 1, none⟩⟩]
  sourceName := none

theorem card_host_makes_no_difference :
    SourceFile.parse ("# Card(name, host)\n" ++
      "- host: \x7bhosts[0]\x7d```, dear @\x7b[Guest]\x7d```\n\n# Guest\n- \x7bname\x7d\n") =
        .ok card ∧
    ((([card] : List SourceFile).flatMap SourceFile.templates).map Template.name).Nodup ∧
    let d : Diagnostic := .unusedParameter "host" "Card" ⟨1, 1, 0, 1, none⟩
    d ∈ (files [card]).diagnostics ∧ d.code = .unusedParameter ∧
    ∃ r, Registry.ofFiles .reject [card] = .ok r ∧
      (∀ inner ∈ card.templates[0].forwards, ¬ r.Reads inner "host") ∧
      let scope : Value := .mapping [("host", .text "Ann"), ("name", .text "Bob")]
      let scope' : Value := .mapping [("host", .text "Eve"), ("name", .text "Bob")]
      scope.AgreeBut "host" scope' ∧
        (⟨r, .standard, .fixed 0⟩ : Library Unit).RendersAlike "Card" scope scope' := by
  have hdistinct :
      ((([card] : List SourceFile).flatMap SourceFile.templates).map Template.name).Nodup := by
    decide
  have hd : .unusedParameter "host" "Card" ⟨1, 1, 0, 1, none⟩ ∈ (files [card]).diagnostics := by
    decide +kernel
  refine ⟨by decide +kernel, hdistinct, hd, rfl, ?_⟩
  obtain ⟨t, ht, p, hp, -, htells, hloads⟩ :=
    unused_parameter_makes_no_difference hdistinct hd rfl
  have hidentifiers : ∀ t ∈ [card].flatMap SourceFile.templates, ∀ p ∈ t.parameters,
      Name.isIdentifier p := by decide
  obtain ⟨rfl, hname⟩ := htells "host" "Card" _ (hidentifiers t ht p hp) (by decide) rfl
  have hcard : t = card.templates[0] := by
    rcases List.mem_pair.1 ht with rfl | rfl
    · rfl
    · contradiction
  subst hcard
  obtain ⟨r, hr, halike⟩ := hloads .reject
  have hforwards : ∀ inner ∈ card.templates[0].forwards, ¬ r.Reads inner "host" := by
    have hload := Registry.ofTemplates_eq_ofDistinct .reject hdistinct
    obtain rfl : Registry.ofDistinct card.templates hdistinct = r :=
      Except.ok.inj (hload.symm.trans hr)
    have hguest : ∀ inner ∈ card.templates[0].forwards, inner = "Guest" := by decide +kernel
    let table : String → List String := fun name =>
      if name = "Guest" then ["name"] else ["hosts", "name"]
    have hclosed : ∀ t ∈ card.templates, t.lookups ⊆ table t.name ∧
        ∀ inner ∈ t.forwards, table inner ⊆ table t.name := by decide +kernel
    have hsame : (Registry.ofDistinct card.templates hdistinct).templates = card.templates :=
      Registry.templates_ofDistinct hdistinct
    rw [← hsame] at hclosed
    intro inner hinner hreads
    have hmem : "host" ∈ table inner := hreads.mem_table hclosed
    rw [hguest inner hinner] at hmem
    exact absurd hmem (by decide)
  refine ⟨r, hr, hforwards, ?_⟩
  intro scope scope'
  have hscope : scope.AgreeBut "host" scope' :=
    Value.agreeBut_insert "host" (.text "Ann") (.text "Eve") [("name", .text "Bob")]
  exact ⟨hscope, halike hforwards Unit .standard (.fixed 0) scope scope' hscope⟩

/-- A template that mentions its parameter nowhere, and hands its scope on to one that reads it. -/
def relay : Registry :=
  .ofDistinct
    [⟨"T", ["p"], .choice [⟨[.reference "[U]"], ⟨2, 1, 7, 1, none⟩⟩], ⟨1, 1, 0, 1, none⟩⟩,
      ⟨"U", [], .choice [⟨[.expression "\x7bp\x7d"], ⟨5, 1, 18, 1, none⟩⟩], ⟨4, 1, 14, 1, none⟩⟩]
    (by decide)

/-- The hint that the parameter is unused is a false alarm. -/
theorem relayed_parameter_makes_a_difference :
    let file : SourceFile := ⟨relay.templates, none⟩
    SourceFile.parse "# T(p)\n- [U]\n\n# U\n- \x7bp\x7d\n" = .ok file ∧
    (file.templates.map Template.name).Nodup ∧
    .unusedParameter "p" "T" ⟨1, 1, 0, 1, none⟩ ∈ (files [file]).diagnostics ∧
    Registry.ofFiles .reject [file] = .ok relay ∧
    let scope : Value := .mapping [("p", .int 1)]
    let scope' : Value := .mapping [("p", .int 2)]
    scope.AgreeBut "p" scope' ∧
    let l : Library Unit := ⟨relay, .standard, .fixed 0⟩
    ∃ e e', (l.evaluate "T" scope).run (.start ()) = some (.ok "1", e) ∧
      (l.evaluate "T" scope').run (.start ()) = some (.ok "2", e') := by
  refine ⟨by decide +kernel, relay.nodup_names, by decide +kernel, rfl, ?_⟩
  intro scope scope'
  refine ⟨Value.agreeBut_insert "p" (.int 1) (.int 2) [], ?_⟩
  intro l
  have hone : ((l.evaluateWithin 3 "T" scope).run (.start ())).map (fun r => r.1.toOption) =
      some (some "1") := by decide +kernel
  have htwo : ((l.evaluateWithin 3 "T" scope').run (.start ())).map (fun r => r.1.toOption) =
      some (some "2") := by decide +kernel
  obtain ⟨e, he⟩ := l.exists_evaluate_ok hone
  obtain ⟨e', he'⟩ := l.exists_evaluate_ok htwo
  exact ⟨e, e', he, he'⟩

end Check

end Phrasebook
