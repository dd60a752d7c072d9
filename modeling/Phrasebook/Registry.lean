import Phrasebook.Registry.Table

namespace Phrasebook

/-- The templates that can be rendered: two containers that are in step. -/
structure Registry extends Registry.Table where
  inStep : toTable.InStep

namespace Registry

def empty : Registry := ⟨.empty, Table.inStep_empty⟩

section

variable {r : Registry} {name : String} {t : Template}

theorem get?_eq_none_iff : r.get? name = none ↔ name ∉ r.names := by
  rw [Table.names, ← r.inStep.contains_iff, Table.contains]
  simp

theorem name_of_get? (h : r.get? name = some t) : t.name = name := r.inStep.named h

theorem mem_names_of_get? (h : r.get? name = some t) : name ∈ r.names :=
  r.inStep.contains_iff.1 (Table.contains_of_get? h)

theorem mem_of_get? (h : r.get? name = some t) : t ∈ r.templates :=
  List.mem_filterMap.2 ⟨name, mem_names_of_get? h, h⟩

/-- A template is found under its name, since no other one has that name. -/
theorem get?_of_mem (h : t ∈ r.templates) : r.get? t.name = some t := by
  obtain ⟨name, -, hget⟩ := List.mem_filterMap.1 h
  rwa [name_of_get? hget]

/-- The number of names in the registry that are not among the given ones. -/
def remaining (r : Registry) (names : List String) : Nat := r.names.countP fun name => name ∉ names

theorem remaining_le_size (r : Registry) (names : List String) : r.remaining names ≤ r.size := by
  rw [r.inStep.size_eq]
  exact List.countP_le_length

/-- One more name leaves fewer. -/
theorem remaining_lt {names more : List String} (h : r.get? name = some t) (hname : name ∉ names)
    (hmore : name ∈ more) (hsub : ∀ n ∈ names, n ∈ more) :
    r.remaining more < r.remaining names := by
  have hle : ∀ listed : List String,
      listed.countP (fun n => n ∉ more) ≤ listed.countP (fun n => n ∉ names) := by
    intro listed
    refine List.countP_mono_left fun n _ hn => ?_
    simp only [decide_eq_true_eq] at hn ⊢
    exact fun hmem => hn (hsub n hmem)
  obtain ⟨before, after, heq⟩ := List.append_of_mem (mem_names_of_get? h)
  have hbefore := hle before
  have hafter := hle after
  unfold remaining
  rw [heq]
  simp only [List.countP_append, List.countP_cons, hname, hmore, not_true_eq_false, decide_false,
    Bool.false_eq_true, if_false, not_false_eq_true, decide_true, if_true]
  omega

end

/-- Loads templates into empty containers; these have stayed in step. -/
def ofTemplates (policy : DuplicatePolicy) (ts : List Template) : Except LoadError Registry :=
  match h : Table.ofTemplates policy ts with
  | .ok table => .ok ⟨table, .ofTemplates h⟩
  | .error e => .error e

def ofFiles (policy : DuplicatePolicy) (files : List SourceFile) : Except LoadError Registry :=
  ofTemplates policy (files.flatMap SourceFile.templates)

/-- A registry is loaded as its containers are, and fails to load as they do. -/
theorem map_ofTemplates (policy : DuplicatePolicy) (ts : List Template) :
    (ofTemplates policy ts).map toTable = Table.ofTemplates policy ts := by
  unfold ofTemplates
  split <;> exact Eq.symm (by assumption)

theorem ofTemplates_eq_ok_iff {policy : DuplicatePolicy} {ts : List Template} {r : Registry} :
    ofTemplates policy ts = .ok r ↔ Table.ofTemplates policy ts = .ok r.toTable := by
  rw [← map_ofTemplates]
  cases ofTemplates policy ts with
  | error e => simp [Except.map]
  | ok r' =>
    obtain ⟨table, hin⟩ := r
    obtain ⟨table', hin'⟩ := r'
    simp [Except.map]

theorem ofTemplates_eq_error_iff {policy : DuplicatePolicy} {ts : List Template} {e : LoadError} :
    ofTemplates policy ts = .error e ↔ Table.ofTemplates policy ts = .error e := by
  rw [← map_ofTemplates]
  cases ofTemplates policy ts <;> simp [Except.map]

end Registry

end Phrasebook
