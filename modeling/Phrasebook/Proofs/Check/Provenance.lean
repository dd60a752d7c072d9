import Phrasebook.Proofs.Check.Findings
import Phrasebook.Proofs.Template.Relocation
import Phrasebook.Template.Reader

namespace Phrasebook

def Location.unnamed (l : Location) : Location := { l with sourceName := none }

/-- A list whose elements stay as they are stays as it is, and the other way round. -/
theorem map_eq_self_iff {α : Type} {f : α → α} {as : List α} :
    as.map f = as ↔ ∀ a ∈ as, f a = a := by
  have hsame := List.map_inj_left (f := f) (g := id) (l := as)
  rwa [List.map_id] at hsame

theorem Body.allLines_relocate (f : Location → Location) (b : Body) :
    (b.relocate f).allLines = b.allLines.map (Line.relocate f) := by
  cases b with
  | choice lines => rfl
  | conditional cases otherwise =>
    simp [relocate, allLines, Clause.relocate, List.flatMap_map, List.map_flatMap]

namespace SourceFile

/-- Reading gives no place the name of a source. -/
theorem relocate_unnamed_of_parse {source : String} {file : SourceFile}
    (h : parse source = .ok file) : ∀ t ∈ file.templates, t.relocate .unnamed = t := by
  unfold parse at h
  obtain ⟨ts, htokens, h⟩ := bind_eq_ok.1 h
  obtain ⟨templates, hread, h⟩ := bind_eq_ok.1 h
  cases h
  have hunnamed : ts.map (.relocate .unnamed) = ts := by
    refine map_eq_self_iff.2 fun t ht => ?_
    have hnone := Token.scan_unnamed htokens t ht
    unfold Token.relocate Location.unnamed
    rw [← hnone]
  have hread' := Grammar.readAll_relocate (f := .unnamed) hread
  rw [hunnamed, hread] at hread'
  exact map_eq_self_iff.1 (Except.ok.inj hread').symm

theorem line_unnamed_of_parse {source : String} {file : SourceFile}
    (h : parse source = .ok file) {t : Template} (ht : t ∈ file.templates) {line : Line}
    (hline : line ∈ t.body.allLines) : line.location.sourceName = none := by
  have hbody : t.body.relocate .unnamed = t.body :=
    congrArg Template.body (relocate_unnamed_of_parse h t ht)
  have hlines := Body.allLines_relocate .unnamed t.body
  rw [hbody] at hlines
  have hsame := map_eq_self_iff.1 hlines.symm line hline
  rw [← hsame]
  rfl

/-- The places of the templates name the file, those inside the templates name none. -/
structure Tagged (f : SourceFile) (name : String) : Prop where
  template : ∀ t ∈ f.templates, t.location.sourceName = some name
  line : ∀ t ∈ f.templates, ∀ line ∈ t.body.allLines, line.location.sourceName = none

theorem tagged_of_parseNamed {source name : String} {f : SourceFile}
    (h : parseNamed source name = .ok f) : f.Tagged name := by
  unfold parseNamed at h
  split at h
  · contradiction
  · rename_i file hparse
    cases h
    constructor <;> intro t ht <;> obtain ⟨t', ht', rfl⟩ := List.mem_map.1 ht
    · rfl
    · exact fun line hline => line_unnamed_of_parse hparse ht' hline

end SourceFile

/-- The finding is about a reference in a template. -/
def FindingCode.ofReference : FindingCode → Bool
  | .unknownTemplate | .argumentCountMismatch | .invalidReference => true
  | _ => false

namespace Check

/-- What is found about a reference is shown at its line and nowhere else. -/
theorem shown_of_mem_reference {definitions : List Template} {location : Location} {text : String}
    {d : Diagnostic} (h : d ∈ reference definitions location text) :
    d.code.ofReference = true ∧ d.span = some (.ofLocation location) ∧ d.related = [] := by
  rcases mem_reference_iff.1 h with ⟨e, -, rfl⟩ | ⟨r, -, ⟨-, rfl⟩ | ⟨_, _, -, -, -, rfl⟩⟩ <;>
    exact ⟨rfl, rfl, rfl⟩

/-- Every finding about named sources has a place, and concerns a template of one of them. The place
has the name of that source if the finding is about the template's name or a parameter, and has no
name if it is about a reference. A related place has the name of the source that defines the name
first. -/
theorem findings_of_named_sources {sources : List (String × String)} {fs : List SourceFile}
    (h : sources.mapM (fun (name, source) => SourceFile.parseNamed source name) = .ok fs)
    {d : Diagnostic} (hd : d ∈ (files fs).diagnostics) :
    ∃ name source f t span, (name, source) ∈ sources ∧
      SourceFile.parseNamed source name = .ok f ∧ t ∈ f.templates ∧
      Concerns (fs.flatMap SourceFile.templates) t d ∧ d.span = some span ∧
      span.sourceName = (if d.code.ofReference then none else some name) ∧
      ∀ place ∈ d.related, ∃ name source f first, (name, source) ∈ sources ∧
        SourceFile.parseNamed source name = .ok f ∧ first ∈ f.templates ∧
        ((fs.flatMap SourceFile.templates).find? fun s => s.name == t.name) = some first ∧
        place.span.sourceName = some name := by
  have hsource {t : Template} (ht : t ∈ fs.flatMap SourceFile.templates) :
      ∃ name source f, (name, source) ∈ sources ∧ SourceFile.parseNamed source name = .ok f ∧
        t ∈ f.templates := by
    obtain ⟨f, hf, ht⟩ := List.mem_flatMap.1 ht
    obtain ⟨⟨name, source⟩, hmem, hparse⟩ := exists_of_mapM h f hf
    exact ⟨name, source, f, hmem, hparse, ht⟩
  obtain ⟨t, ht, hconcerns⟩ := exists_concerns hd
  obtain ⟨name, source, f, hmem, hparse, ht⟩ := hsource ht
  have htagged := SourceFile.tagged_of_parseNamed hparse
  refine ⟨name, source, f, t, ?_⟩
  cases hconcerns with
  | @name before after first hsplit hfirst =>
    have hfound : ((fs.flatMap SourceFile.templates).find? fun s => s.name == t.name) =
        some first := by
      rw [hsplit, List.find?_append, hfirst, Option.some_or]
    obtain ⟨name', source', f', hmem', hparse', hfirst'⟩ :=
      hsource (List.mem_of_find?_eq_some hfound)
    refine ⟨_, hmem, hparse, ht, .name hsplit hfirst, rfl, htagged.template t ht, ?_⟩
    intro place hplace
    obtain rfl := List.mem_singleton.1 hplace
    exact ⟨name', source', f', first, hmem', hparse', hfirst', hfound,
      (SourceFile.tagged_of_parseNamed hparse').template first hfirst'⟩
  | @reference line text _ hline htext hd =>
    obtain ⟨hcode, hspan, hrelated⟩ := shown_of_mem_reference hd
    rw [hcode, hrelated]
    refine ⟨_, hmem, hparse, ht, .reference hline htext hd, hspan, htagged.line t ht line hline, ?_⟩
    simp
  | @parameter p hp hunused =>
    refine ⟨_, hmem, hparse, ht, .parameter hp hunused, rfl, htagged.template t ht, ?_⟩
    simp [Diagnostic.unusedParameter]

/-- A name that two sources define: the finding and its related place name their sources. -/
theorem duplicate_names_its_source :
    let sources := [("a.lg", "# A\n- x\n"), ("b.lg", "\n# A\n- y\n")]
    let first : Location := ⟨1, 1, 0, 1, some "a.lg"⟩
    let d := Diagnostic.duplicateTemplate "A" ⟨2, 1, 1, 1, some "b.lg"⟩ first
    ∃ fs, sources.mapM (fun (name, source) => SourceFile.parseNamed source name) = .ok fs ∧
      d ∈ (files fs).diagnostics ∧ ∃ name source, (name, source) ∈ sources ∧
        d.span.bind Span.sourceName = some name := by
  intro sources first d
  have hload : ∃ fs, sources.mapM (fun (name, source) => SourceFile.parseNamed source name) =
      .ok fs ∧ d ∈ (files fs).diagnostics := by
    refine ⟨[⟨[⟨"A", [], .choice [⟨[.text "x"], ⟨2, 1, 4, 1, none⟩⟩], first⟩], some "a.lg"⟩,
      ⟨[⟨"A", [], .choice [⟨[.text "y"], ⟨3, 1, 5, 1, none⟩⟩], ⟨2, 1, 1, 1, some "b.lg"⟩⟩],
        some "b.lg"⟩], ?_, ?_⟩
    · decide +kernel
    · decide +kernel
  obtain ⟨fs, hfs, hd⟩ := hload
  obtain ⟨name, source, f, t, span, hmem, -, -, -, hspan, hname, -⟩ :=
    findings_of_named_sources hfs hd
  exact ⟨fs, hfs, hd, name, source, hmem, by rw [hspan]; exact hname⟩

/-- A reference that leads nowhere is shown without the name of its source. -/
theorem unknown_reference_names_no_source :
    let sources := [("a.lg", "# A\n- [Missing]\n")]
    ∃ fs, sources.mapM (fun (name, source) => SourceFile.parseNamed source name) = .ok fs ∧
      Diagnostic.unknownTemplate "Missing" ⟨2, 1, 4, 1, none⟩ ∈ (files fs).diagnostics ∧
      ∃ d ∈ (files fs).diagnostics, ∀ span ∈ d.span, span.sourceName ≠ some "a.lg" := by
  refine ⟨[⟨[⟨"A", [], .choice [⟨[.reference "[Missing]"], ⟨2, 1, 4, 1, none⟩⟩],
    ⟨1, 1, 0, 1, some "a.lg"⟩⟩], some "a.lg"⟩], ?_, ?_, ?_⟩ <;> decide +kernel

end Check

end Phrasebook
