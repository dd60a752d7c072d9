import Mathlib.Data.Finset.Card
import Phrasebook.Proofs.Check.Findings
import Phrasebook.Proofs.Registry.Definitions
import Phrasebook.Template.Reader

namespace Phrasebook.Check

variable {seen front ts : List Template} {t : Template}

theorem find?_name_eq_none_iff :
    (seen.find? fun s => s.name == t.name) = none ↔ t.name ∉ seen.map Template.name := by
  simp [List.find?_eq_none]

/-- Where no name is repeated there is nothing to find. -/
theorem duplicates_append (h : ((seen ++ front).map Template.name).Nodup) (ts : List Template) :
    duplicates seen (front ++ ts) = duplicates (seen ++ front) ts := by
  induction front generalizing seen with
  | nil => rw [List.nil_append, List.append_nil]
  | cons t front ih =>
    rw [List.append_cons] at h ⊢
    have hnew : t.name ∉ seen.map Template.name := by
      rw [List.append_assoc, List.map_append, List.nodup_append] at h
      exact fun hseen => h.2.2 _ hseen t.name (by simp) rfl
    rw [List.cons_append, duplicates, find?_name_eq_none_iff.2 hnew]
    exact ih h

/-- The first finding is about the first template that repeats a name. -/
theorem head?_duplicates {first second : Template}
    (h : Registry.EarliestRepeat ts first second) :
    (duplicates [] ts).head? =
      some (.duplicateTemplate second.name second.location first.location) := by
  obtain ⟨front, rest, rfl, hdistinct, hfirst, hname⟩ := h
  have hfind : (front.find? fun s => s.name == second.name) = some first := by
    have hmem : first ∈ (Registry.ofDistinct front hdistinct).templates := by
      rwa [Registry.templates_ofDistinct]
    have hget := Registry.get?_of_mem hmem
    rwa [Registry.get?_eq_find?, Registry.templates_ofDistinct, hname] at hget
  rw [duplicates_append (by rwa [List.nil_append]), List.nil_append, duplicates, hfind]
  rfl

theorem duplicates_eq_nil_iff : duplicates [] ts = [] ↔ (ts.map Template.name).Nodup := by
  constructor
  · intro h
    by_contra hrepeated
    obtain ⟨first, second, hrepeat⟩ := Registry.exists_earliestRepeat hrepeated
    have hhead := head?_duplicates hrepeat
    rw [h] at hhead
    contradiction
  · intro h
    have hall := @duplicates_append [] ts h []
    rwa [List.append_nil] at hall

/-- Every template is the first of its name or gets a finding. -/
theorem length_duplicates (hseen : (seen.map Template.name).Nodup) (ts : List Template) :
    (duplicates seen ts).length + ((seen ++ ts).map Template.name).toFinset.card =
      (seen ++ ts).length := by
  induction ts generalizing seen with
  | nil => simp [duplicates, List.toFinset_card_of_nodup hseen]
  | cons t ts ih =>
    cases hfind : seen.find? fun s => s.name == t.name with
    | some first =>
      have hmem : t.name ∈ seen.map Template.name := by
        by_contra hnew
        rw [find?_name_eq_none_iff.2 hnew] at hfind
        contradiction
      have hsame : ((seen ++ t :: ts).map Template.name).toFinset =
          ((seen ++ ts).map Template.name).toFinset := by
        ext name
        simp only [List.map_append, List.map_cons, List.mem_toFinset, List.mem_append,
          List.mem_cons]
        grind
      rw [duplicates, hfind, hsame, List.length_append, List.length_cons]
      have hrest := ih hseen
      rw [List.length_append] at hrest
      simp only [List.length_cons]
      omega
    | none =>
      have hnew := find?_name_eq_none_iff.1 hfind
      have hmore : ((seen ++ [t]).map Template.name).Nodup := by
        rw [List.map_append, List.map_singleton, ← List.concat_eq_append]
        exact hseen.concat hnew
      rw [List.append_cons, duplicates, hfind]
      exact ih hmore

/-- What is found in a single template is neither an error nor about a name that is taken. -/
theorem of_mem_template {definitions : List Template} {d : Diagnostic}
    (h : d ∈ template definitions t) : ¬ d.isError ∧ d.code ≠ .duplicateTemplate := by
  rcases List.mem_append.1 h with h | h
  · obtain ⟨line, -, h⟩ := List.mem_flatMap.1 h
    obtain ⟨text, -, h⟩ := List.mem_flatMap.1 h
    rcases mem_reference_iff.1 h with ⟨e, -, rfl⟩ | ⟨r, -, ⟨-, rfl⟩ | ⟨_, _, -, -, -, rfl⟩⟩ <;>
      exact ⟨Bool.false_ne_true, by rintro ⟨⟩⟩
  · obtain ⟨p, -, rfl⟩ := List.mem_map.1 h
    exact ⟨Bool.false_ne_true, by rintro ⟨⟩⟩

/-- A property that tells names that are taken from all else selects the findings about names. -/
theorem filter_files {p : Diagnostic → Bool} (fs : List SourceFile)
    (hname : ∀ name location first, p (.duplicateTemplate name location first))
    (hother : ∀ d, ¬ d.isError ∧ d.code ≠ .duplicateTemplate → ¬ p d) :
    (files fs).diagnostics.filter p = duplicates [] (fs.flatMap SourceFile.templates) := by
  have hnames : ∀ d ∈ duplicates [] (fs.flatMap SourceFile.templates), p d := by
    intro d hd
    obtain ⟨_, t, _, first, -, -, rfl⟩ := exists_of_mem_duplicates [] (fun _ => rfl) hd
    exact hname _ _ _
  have hothers : ∀ d ∈ (fs.flatMap SourceFile.templates).flatMap
      (template (fs.flatMap SourceFile.templates)), ¬ p d := by
    intro d hd
    obtain ⟨t, -, hd⟩ := List.mem_flatMap.1 hd
    exact hother d (of_mem_template hd)
  rw [files, List.filter_append, List.filter_eq_self.2 hnames, List.filter_eq_nil_iff.2 hothers,
    List.append_nil]

/-- Names that are taken are all the errors that there are. -/
theorem errors_files (fs : List SourceFile) :
    (files fs).errors = duplicates [] (fs.flatMap SourceFile.templates) :=
  filter_files fs (fun _ _ _ => rfl) fun _ h => h.1

/-- Files without errors define no name twice. -/
theorem nodup_of_errors {fs : List SourceFile} (h : (files fs).errors = []) :
    ((fs.flatMap SourceFile.templates).map Template.name).Nodup := by
  rwa [errors_files, duplicates_eq_nil_iff] at h

/-- Files are valid together if no name is defined twice. -/
theorem isValid_files_iff {fs : List SourceFile} :
    (files fs).isValid ↔ ((fs.flatMap SourceFile.templates).map Template.name).Nodup := by
  rw [← duplicates_eq_nil_iff, ← errors_files, Report.errors, List.filter_eq_nil_iff]
  simp [Report.isValid]

/-- A check finds no error in files exactly when they load strictly. The names that are taken are
its errors: one for every definition but those that are the first of their names. If the files do
not load, the first of them shows the definition that loading fails at, by its name and place, next
to the earlier definition of that name. -/
theorem duplicates_agree_with_loading (fs : List SourceFile) :
    let definitions := fs.flatMap SourceFile.templates
    let found := (files fs).diagnostics.filter fun d => d.code = .duplicateTemplate
    ((files fs).isValid ↔ ∃ r, Registry.ofFiles .reject fs = .ok r) ∧
      found = (files fs).errors ∧
      found.length + (definitions.map Template.name).toFinset.card = definitions.length ∧
      ∀ e, Registry.ofFiles .reject fs = .error e → ∃ name first second,
        e = .duplicate name first second ∧
          found.head? = some (.duplicateTemplate name second first) := by
  intro definitions found
  have hfound : found = duplicates [] definitions :=
    filter_files fs (fun _ _ _ => by simp [Diagnostic.duplicateTemplate])
      fun d h => by simpa using h.2
  rw [errors_files, hfound, isValid_files_iff, Registry.exists_ofFiles_iff]
  refine ⟨by simp, rfl, @length_duplicates [] List.nodup_nil definitions, fun e he => ?_⟩
  obtain ⟨first, second, hrepeat, rfl⟩ := Registry.ofTemplates_reject_eq_error_iff.1 he
  exact ⟨_, _, _, rfl, head?_duplicates hrepeat⟩

/-- Of four templates in two files the last two have the names of the first two, the other way
round. -/
theorem duplicates_agree_with_loading_crossed :
    let definition (name : String) (line offset : Nat) (text file : String) : Template :=
      ⟨name, [], .choice [⟨[.text text], ⟨line + 1, 1, offset + 4, 1, none⟩⟩],
        ⟨line, 1, offset, 1, some file⟩⟩
    let a : SourceFile :=
      ⟨[definition "A" 1 0 "1" "a.lg", definition "B" 4 9 "2" "a.lg"], some "a.lg"⟩
    let b : SourceFile :=
      ⟨[definition "B" 1 0 "3" "b.lg", definition "A" 4 9 "4" "b.lg"], some "b.lg"⟩
    let found := (files [a, b]).diagnostics.filter fun d => d.code = .duplicateTemplate
    let first : Location := ⟨4, 1, 9, 1, some "a.lg"⟩
    let second : Location := ⟨1, 1, 0, 1, some "b.lg"⟩
    SourceFile.parseNamed "# A\n- 1\n\n# B\n- 2\n" "a.lg" = .ok a ∧
      SourceFile.parseNamed "# B\n- 3\n\n# A\n- 4\n" "b.lg" = .ok b ∧
      Registry.ofFiles .reject [a, b] = .error (.duplicate "B" first second) ∧
      found.head? = some (.duplicateTemplate "B" second first) ∧ found.length = 2 := by
  intro definition a b found first second
  have hrepeat : Registry.EarliestRepeat ([a, b].flatMap SourceFile.templates)
      (definition "B" 4 9 "2" "a.lg") (definition "B" 1 0 "3" "b.lg") :=
    ⟨a.templates, [definition "A" 4 9 "4" "b.lg"], rfl, by decide, by simp [a], rfl⟩
  have hload : Registry.ofFiles .reject [a, b] = .error (.duplicate "B" first second) :=
    Registry.ofTemplates_reject_eq_error_iff.2 ⟨_, _, hrepeat, rfl⟩
  obtain ⟨-, -, hcount, hfirst⟩ := duplicates_agree_with_loading [a, b]
  obtain ⟨name, first', second', he, hhead⟩ := hfirst _ hload
  cases he
  have hnames : (([a, b].flatMap SourceFile.templates).map Template.name).toFinset.card = 2 := by
    decide
  have hfound : found.length + 2 = 4 := by
    rw [← hnames]
    exact hcount
  exact ⟨by decide +kernel, by decide +kernel, hload, hhead, by omega⟩

end Phrasebook.Check
