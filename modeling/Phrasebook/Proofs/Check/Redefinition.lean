import Phrasebook.Proofs.Check.Findings
import Phrasebook.Proofs.Evaluator.Arguments
import Phrasebook.Proofs.Registry.LastWins

namespace Phrasebook

namespace Registry

variable {r : Registry} {name : String} {t : Template}

/-- Arguments are refused for their number exactly when a check of the same definition refuses
it. -/
theorem bindArguments_refuses_iff (h : r.get? name = some t) (arguments : List Value) :
    (∃ expected found, r.bindArguments name arguments =
      .error (.argumentCountMismatch name expected found)) ↔
      Check.acceptsArguments t.parameters.length arguments.length = false := by
  by_cases hwhole : t.parameters = [] ∧ arguments.length = 1
  · obtain ⟨hparameters, hone⟩ := hwhole
    obtain ⟨v, rfl⟩ := List.length_eq_one_iff.1 hone
    rw [bindArguments_whole h hparameters, hparameters]
    simp [Check.acceptsArguments]
  · rw [bindArguments_eq h arguments hwhole]
    have haccepts : Check.acceptsArguments t.parameters.length arguments.length =
        decide (t.parameters.length = arguments.length) := by
      rw [← List.length_eq_zero_iff] at hwhole
      simp only [Check.acceptsArguments]
      grind
    rw [haccepts]
    split <;> simp_all

end Registry

namespace Check

/-- The report says of a reference at `location` that it passes the wrong number of arguments. -/
def ReportsCount (fs : List SourceFile) (name : String) (found : Nat) (location : Location) :
    Prop :=
  ∃ expected, .argumentCountMismatch name expected found location ∈ (files fs).diagnostics

/-- The report compares a reference with the first definition of the name. -/
theorem reportsCount_iff {fs : List SourceFile} {t first : Template} {line : Line}
    {text name : String} {arguments : List String} (ht : t ∈ fs.flatMap SourceFile.templates)
    (hline : line ∈ t.body.allLines) (htext : text ∈ line.references)
    (hparse : Reference.parse text = .ok ⟨name, some arguments⟩)
    (hfirst : ((fs.flatMap SourceFile.templates).find? fun s => s.name == name) = some first) :
    ReportsCount fs name arguments.length line.location ↔
      acceptsArguments first.parameters.length arguments.length = false := by
  constructor
  · rintro ⟨expected, h⟩
    obtain ⟨t', -, hconcerns⟩ := exists_concerns h
    generalize hd : Diagnostic.argumentCountMismatch name expected arguments.length
      line.location = d at hconcerns
    cases hconcerns with
    | name => cases congrArg Diagnostic.code hd
    | parameter => cases congrArg Diagnostic.code hd
    | reference _ _ hmem =>
      rcases mem_reference_iff.1 hmem with ⟨e, -, rfl⟩ | ⟨r, -, ⟨-, rfl⟩ |
        ⟨target, arguments', htarget, -, haccepts, rfl⟩⟩
      · cases congrArg Diagnostic.code hd
      · cases congrArg Diagnostic.code hd
      · obtain ⟨rfl, -, hlength⟩ := argumentCountMismatch_inj hd
        obtain rfl := Option.some.inj (hfirst.symm.trans htarget)
        rwa [hlength]
  · intro haccepts
    have hmem := mem_reference_iff.2 (.inr ⟨_, hparse, .inr ⟨first, arguments, hfirst, rfl,
      haccepts, (rfl : _ = Diagnostic.argumentCountMismatch name _ _ line.location)⟩⟩)
    exact ⟨_, mem_diagnostics_of_reference ht hline htext hmem⟩

/-- When later definitions replace earlier ones all files load. Of a reference with arguments, in a
definition that is left, the check says that their number is wrong exactly when it is so for the
first definition of the name; they cannot be bound exactly when it is so for the last. -/
theorem counts_of_redefinitions (fs : List SourceFile) :
    ∃ r, Registry.ofFiles .lastWins fs = .ok r ∧
      ∀ t ∈ r.templates, ∀ line ∈ t.body.allLines, ∀ text ∈ line.references,
        ∀ name arguments last, Reference.parse text = .ok ⟨name, some arguments⟩ →
          r.get? name = some last →
          ∃ first, ((fs.flatMap SourceFile.templates).find? fun s => s.name == name) = some first ∧
            ((fs.flatMap SourceFile.templates).reverse.find? fun s => s.name == name) =
              some last ∧
            (ReportsCount fs name arguments.length line.location ↔
              acceptsArguments first.parameters.length arguments.length = false) ∧
            ∀ values : List Value, values.length = arguments.length →
              ((∃ expected found, r.bindArguments name values =
                  .error (.argumentCountMismatch name expected found)) ↔
                acceptsArguments last.parameters.length arguments.length = false) ∧
              (first.parameters.length = last.parameters.length →
                (ReportsCount fs name arguments.length line.location ↔
                  ∃ expected found, r.bindArguments name values =
                    .error (.argumentCountMismatch name expected found))) := by
  obtain ⟨r, hr, hget⟩ := Registry.ofTemplates_lastWins (fs.flatMap SourceFile.templates)
  refine ⟨r, hr, ?_⟩
  intro t ht line hline text htext name arguments last hparse hlast
  have htemplate : t ∈ fs.flatMap SourceFile.templates := by
    have hfound := Registry.get?_of_mem ht
    rw [hget] at hfound
    exact List.mem_reverse.1 (List.mem_of_find?_eq_some hfound)
  have hlast' := hlast
  rw [hget] at hlast'
  obtain ⟨first, hfirst⟩ : ∃ first,
      ((fs.flatMap SourceFile.templates).find? fun s => s.name == name) = some first := by
    rw [← Option.isSome_iff_exists, List.find?_isSome]
    have hname := List.find?_some hlast'
    exact ⟨last, List.mem_reverse.1 (List.mem_of_find?_eq_some hlast'), hname⟩
  have hreports := reportsCount_iff htemplate hline htext hparse hfirst
  refine ⟨first, hfirst, hlast', hreports, fun values hvalues => ?_⟩
  have hbinds := Registry.bindArguments_refuses_iff hlast values
  rw [hvalues] at hbinds
  refine ⟨hbinds, fun hsame => ?_⟩
  rw [hreports, hbinds, hsame]

/-- A parameter gets another name: the check and the call count alike. -/
theorem renamed_parameter_counts_alike :
    let sources := ["# A\n- [B(1, 2)]\n\n# B(x)\n- \x7bx\x7d\n", "# B(y)\n- \x7by\x7d\n"]
    ∃ fs r, sources.mapM SourceFile.parse = .ok fs ∧ Registry.ofFiles .lastWins fs = .ok r ∧
      ReportsCount fs "B" 2 ⟨2, 1, 4, 1, none⟩ ∧
      ∃ expected found, r.bindArguments "B" [.int 1, .int 2] =
        .error (.argumentCountMismatch "B" expected found) := by
  intro sources
  let caller : Line := ⟨[.reference "[B(1, 2)]"], ⟨2, 1, 4, 1, none⟩⟩
  let a : Template := ⟨"A", [], .choice [caller], ⟨1, 1, 0, 1, none⟩⟩
  let b : Template :=
    ⟨"B", ["x"], .choice [⟨[.expression "\x7bx\x7d"], ⟨5, 1, 24, 1, none⟩⟩], ⟨4, 1, 17, 1, none⟩⟩
  let b' : Template :=
    ⟨"B", ["y"], .choice [⟨[.expression "\x7by\x7d"], ⟨2, 1, 7, 1, none⟩⟩], ⟨1, 1, 0, 1, none⟩⟩
  let fs : List SourceFile := [⟨[a, b], none⟩, ⟨[b'], none⟩]
  have hparse : sources.mapM SourceFile.parse = .ok fs := by decide +kernel
  obtain ⟨r, hr, h⟩ := counts_of_redefinitions fs
  obtain ⟨r', hr', hget⟩ := Registry.ofTemplates_lastWins (fs.flatMap SourceFile.templates)
  obtain rfl : r = r' := Except.ok.inj (hr.symm.trans hr')
  have hcaller : a ∈ r.templates := Registry.mem_of_get? ((hget "A").trans (by decide +kernel))
  have hlast : r.get? "B" = some b' := (hget "B").trans (by decide +kernel)
  obtain ⟨first, hfirst, -, hreports, hbinds⟩ := h a hcaller caller (by decide +kernel) "B(1, 2)"
    (by decide +kernel) "B" ["1", "2"] _ (by decide +kernel) hlast
  have hsecond := (hbinds [.int 1, .int 2] rfl).1.2 rfl
  obtain rfl : b = first := Option.some.inj (Eq.trans (by decide +kernel) hfirst)
  exact ⟨fs, r, hparse, hr, hreports.2 rfl, hsecond⟩

/-- A later definition has another parameter: the call that the check lets pass fails. -/
theorem added_parameter_is_missed :
    let sources :=
      ["# A\n- [B(1)]\n\n# B(x)\n- \x7bx\x7d\n", "# B(x, y)\n- \x7bx\x7d\x7by\x7d\n"]
    Reference.parse "B(1)" = .ok ⟨"B", some ["1"]⟩ ∧
      ∃ fs r, sources.mapM SourceFile.parse = .ok fs ∧ Registry.ofFiles .lastWins fs = .ok r ∧
        (∃ caller ∈ r.templates, ∃ line ∈ caller.body.allLines, "B(1)" ∈ line.references) ∧
        (∀ d ∈ (files fs).diagnostics, d.code ≠ .argumentCountMismatch) ∧
        ∃ expected found, r.bindArguments "B" [.int 1] =
          .error (.argumentCountMismatch "B" expected found) := by
  intro sources
  let caller : Line := ⟨[.reference "[B(1)]"], ⟨2, 1, 4, 1, none⟩⟩
  let a : Template := ⟨"A", [], .choice [caller], ⟨1, 1, 0, 1, none⟩⟩
  let b : Template :=
    ⟨"B", ["x"], .choice [⟨[.expression "\x7bx\x7d"], ⟨5, 1, 21, 1, none⟩⟩], ⟨4, 1, 14, 1, none⟩⟩
  let b' : Template :=
    ⟨"B", ["x", "y"], .choice [⟨[.expression "\x7bx\x7d", .expression "\x7by\x7d"],
      ⟨2, 1, 10, 1, none⟩⟩], ⟨1, 1, 0, 1, none⟩⟩
  let fs : List SourceFile := [⟨[a, b], none⟩, ⟨[b'], none⟩]
  have hparse : sources.mapM SourceFile.parse = .ok fs := by decide +kernel
  obtain ⟨r, hr, hget⟩ := Registry.ofTemplates_lastWins (fs.flatMap SourceFile.templates)
  have hcaller : a ∈ r.templates := Registry.mem_of_get? ((hget "A").trans (by decide +kernel))
  have hlast : r.get? "B" = some b' := (hget "B").trans (by decide +kernel)
  refine ⟨by decide +kernel, fs, r, hparse, hr, ⟨a, hcaller, caller, ?_, ?_⟩, ?_, ?_⟩
  · decide +kernel
  · decide +kernel
  · decide +kernel
  · exact (Registry.bindArguments_refuses_iff hlast _).2 rfl

end Check

end Phrasebook
