import Phrasebook.CommandLine.Run
import Phrasebook.Files.Tree
import Phrasebook.Proofs.Check.Loading

namespace Phrasebook

variable {ε α β : Type}

/-- A step and what comes after it give a result if both do. -/
theorem run_bind_eq_ok_iff {x : ExceptT ε Id α} {f : α → ExceptT ε Id β} {b : β} :
    (x >>= f).run = Except.ok b ↔ ∃ a, x.run = Except.ok a ∧ (f a).run = Except.ok b := by
  change (match x.run with
    | .ok a => (f a).run
    | .error e => Except.error e) = _ ↔ _
  cases x.run with
  | ok a =>
    constructor
    · exact fun h => ⟨a, rfl, h⟩
    · rintro ⟨_, ⟨⟩, h⟩
      exact h
  | error e => exact iff_of_false (fun h => nomatch h) (fun ⟨_, h, _⟩ => nomatch h)

theorem toOption_eq_some_iff {x : Except ε α} {a : α} : x.toOption = some a ↔ x = .ok a := by
  cases x <;> simp [Except.toOption]

namespace Configuration

/-- The configuration loads: there is an engine with its templates. -/
def Loads (files : FileAccess Id) (c : Configuration) : Prop :=
  ∃ engine, (Engine.ofConfiguration files c).run = Except.ok engine

/-- No name is defined twice in the sources of the configuration, if they can be read and parsed. -/
def DefinesOnce (files : FileAccess Id) (c : Configuration) : Prop :=
  ∀ sources, (Sources.load files c.templatePaths).run = Except.ok sources →
    ((sources.flatMap SourceFile.templates).map Template.name).Nodup

/-- A configuration loads if its sources do and the policy has nothing against their names. -/
theorem loads_iff {files : FileAccess Id} {c : Configuration} :
    c.Loads files ↔ ∃ sources, (Sources.load files c.templatePaths).run = Except.ok sources ∧
      (c.duplicatePolicy = .lastWins ∨
        ((sources.flatMap SourceFile.templates).map Template.name).Nodup) := by
  unfold Loads Engine.ofConfiguration
  simp only [run_bind_eq_ok_iff]
  constructor
  · rintro ⟨engine, sources, hload, hengine⟩
    refine ⟨sources, hload, Registry.exists_ofFiles_iff.1 ?_⟩
    split at hengine
    · exact ⟨_, ‹_›⟩
    · cases hengine
  · rintro ⟨sources, hload, hnames⟩
    obtain ⟨r, hr⟩ := Registry.exists_ofFiles_iff.2 hnames
    refine ⟨⟨r, c.randomSeed⟩, sources, hload, ?_⟩
    rw [hr]
    rfl

end Configuration

namespace CommandLine

/-- The check of a configuration says yes. -/
def Passes (files : FileAccess Id) (c : Configuration) (format : OutputFormat) : Prop :=
  ∃ output, (check files c format).run = Except.ok ⟨true, output⟩

/-- Of files that parse there is only to say what is wrong with them together. -/
theorem reportOn_map_ok (sources : List SourceFile) :
    reportOn (sources.map Except.ok) = Check.files sources := by
  simp [reportOn, List.filterMap_map, Function.comp_def, Except.toOption]

theorem not_isValid_reportOn {parsed : List (Except ParseError SourceFile)} {e : ParseError}
    (h : Except.error e ∈ parsed) : ¬ (reportOn parsed).isValid := by
  have hmem : Diagnostic.ofParseError e ∈ (reportOn parsed).diagnostics :=
    List.mem_append_left _ (List.mem_filterMap.2 ⟨_, h, rfl⟩)
  intro hvalid
  simp only [Report.isValid, Bool.not_eq_true', List.any_eq_false] at hvalid
  exact hvalid _ hmem rfl

/-- Either all files parse, or one of them is rejected. -/
theorem eq_map_ok_or_error (parsed : List (Except ParseError SourceFile)) :
    (∃ sources : List SourceFile, parsed = sources.map Except.ok) ∨ ∃ e, Except.error e ∈ parsed := by
  induction parsed with
  | nil => exact .inl ⟨[], rfl⟩
  | cons p parsed ih =>
    rcases ih with ⟨sources, rfl⟩ | ⟨e, he⟩
    · cases p with
      | ok source => exact .inl ⟨source :: sources, rfl⟩
      | error e => exact .inr ⟨e, List.mem_cons_self⟩
    · exact .inr ⟨e, List.mem_cons_of_mem _ he⟩

/-- A report says yes if no file is rejected and no name is defined twice. -/
theorem isValid_reportOn_iff {parsed : List (Except ParseError SourceFile)} :
    (reportOn parsed).isValid ↔ ∃ sources : List SourceFile, parsed = sources.map Except.ok ∧
      ((sources.flatMap SourceFile.templates).map Template.name).Nodup := by
  constructor
  · intro hvalid
    rcases eq_map_ok_or_error parsed with ⟨sources, rfl⟩ | ⟨e, he⟩
    · rw [reportOn_map_ok] at hvalid
      exact ⟨sources, rfl, Check.isValid_files_iff.1 hvalid⟩
    · exact absurd hvalid (not_isValid_reportOn he)
  · rintro ⟨sources, rfl, hnodup⟩
    rw [reportOn_map_ok]
    exact Check.isValid_files_iff.2 hnodup

theorem readFile_iff {files : FileAccess Id} {path : String} {source : SourceFile} :
    (Sources.readFile files path).run = Except.ok source ↔
      ∃ text, (Sources.readText files path).run = Except.ok text ∧
        SourceFile.parseNamed text path = .ok source := by
  unfold Sources.readFile
  rw [run_bind_eq_ok_iff]
  refine exists_congr fun text => and_congr_right fun _ => ?_
  cases SourceFile.parseNamed text path with
  | ok file =>
    constructor <;>
    · rintro ⟨⟩
      rfl
  | error e => exact iff_of_false (fun h => nomatch h) (fun h => nomatch h)

/-- Reading up to the first file that fails gives all of them when each of them parses. -/
theorem readFiles_iff {files : FileAccess Id} {paths : List String} {sources : List SourceFile} :
    (Sources.readFiles files paths).run = Except.ok sources ↔
      (parseAll files paths).run = Except.ok (sources.map Except.ok) := by
  induction paths generalizing sources with
  | nil =>
    cases sources with
    | nil => exact iff_of_true rfl rfl
    | cons source sources => exact iff_of_false (fun h => nomatch h) (fun h => nomatch h)
  | cons path paths ih =>
    simp only [Sources.readFiles, parseAll, run_bind_eq_ok_iff, readFile_iff, ih]
    constructor
    · rintro ⟨source, ⟨text, htext, hparse⟩, rest, hrest, ⟨⟩⟩
      refine ⟨text, htext, _, hrest, ?_⟩
      rw [hparse]
      rfl
    · rintro ⟨text, htext, parsed, hparsed, hall⟩
      obtain ⟨source, rest, rfl, hsource, hrest⟩ :=
        List.map_eq_cons_iff.1 (Except.ok.inj hall).symm
      exact ⟨source, ⟨text, htext, hsource.symm⟩, rest, hrest ▸ hparsed, rfl⟩

/-- A configuration passes the check if its sources load and no name in them is defined twice. -/
theorem passes_iff {files : FileAccess Id} {c : Configuration} {format : OutputFormat} :
    Passes files c format ↔
      ∃ sources, (Sources.load files c.templatePaths).run = Except.ok sources ∧
        ((sources.flatMap SourceFile.templates).map Template.name).Nodup := by
  unfold Passes check checkSources Sources.load
  simp only [run_bind_eq_ok_iff, readFiles_iff]
  constructor
  · rintro ⟨output, result, ⟨paths, hpaths, parsed, hparsed, ⟨⟩⟩, hreply⟩
    have hvalid : (reportOn parsed).isValid := congrArg Reply.success (Except.ok.inj hreply)
    obtain ⟨sources, rfl, hnodup⟩ := isValid_reportOn_iff.1 hvalid
    exact ⟨sources, ⟨paths, hpaths, hparsed⟩, hnodup⟩
  · rintro ⟨sources, ⟨paths, hpaths, hparsed⟩, hnodup⟩
    have hvalid := isValid_reportOn_iff.2 ⟨sources, rfl, hnodup⟩
    refine ⟨showCheck format ⟨paths.length, reportOn (sources.map Except.ok)⟩, _,
      ⟨paths, hpaths, _, hparsed, rfl⟩, ?_⟩
    rw [hvalid]
    rfl

/-- A configuration that passes the check loads. The two agree exactly when the policy is to reject
names that are taken, or when no name is: where later definitions replace earlier ones, a
configuration with a name that is defined twice loads and does not pass. -/
theorem passes_iff_loads (files : FileAccess Id) (c : Configuration) (format : OutputFormat) :
    (Passes files c format → c.Loads files) ∧
      ((Passes files c format ↔ c.Loads files) ↔
        c.duplicatePolicy = .reject ∨ c.DefinesOnce files) := by
  rw [passes_iff, Configuration.loads_iff]
  refine ⟨fun ⟨sources, hload, hnodup⟩ => ⟨sources, hload, .inr hnodup⟩, ?_, ?_⟩
  · intro hagree
    cases hpolicy : c.duplicatePolicy with
    | reject => exact .inl rfl
    | lastWins =>
      refine .inr fun sources hload => ?_
      obtain ⟨sources', hload', hnodup⟩ := hagree.2 ⟨sources, hload, .inl hpolicy⟩
      obtain rfl := Except.ok.inj (hload.symm.trans hload')
      exact hnodup
  · intro h
    refine exists_congr fun sources => and_congr_right fun hload => ?_
    rcases h with hpolicy | honce
    · simp [hpolicy]
    · exact iff_of_true (honce sources hload) (.inr (honce sources hload))

/-- Two files with a template of the same name. -/
def sharedNames : FileTree :=
  .directory [("a.lg", .file (.text "# Shared\n- from a\n")),
    ("b.lg", .file (.text "# Shared\n- from b\n"))]

/-- Where later definitions replace earlier ones the two files load, but do not pass. -/
theorem replaced_definition_does_not_pass :
    ¬ (Passes sharedNames.access ⟨["a.lg", "b.lg"], .lastWins, none⟩ .text ↔
      Configuration.Loads sharedNames.access ⟨["a.lg", "b.lg"], .lastWins, none⟩) := by
  let definition (text path : String) : SourceFile :=
    ⟨[⟨"Shared", [], .choice [⟨[.text text], ⟨2, 1, 9, 1, none⟩⟩], ⟨1, 1, 0, 1, some path⟩⟩],
      some path⟩
  have hload : (Sources.load sharedNames.access ["a.lg", "b.lg"]).run =
      Except.ok [definition "from a" "a.lg", definition "from b" "b.lg"] :=
    toOption_eq_some_iff.1 (by decide +kernel)
  intro hagree
  obtain ⟨sources, hsources, hnodup⟩ := passes_iff.1
    (hagree.2 (Configuration.loads_iff.2 ⟨_, hload, .inl rfl⟩))
  obtain rfl := Except.ok.inj (hload.symm.trans hsources)
  revert hnodup
  decide

end CommandLine

end Phrasebook
