import Mathlib.Data.List.Induction
import Mathlib.Data.List.Nodup
import Phrasebook.Proofs.Registry.LastWins
import Phrasebook.Proofs.Registry.Loading
import Phrasebook.Result

namespace Phrasebook.Registry

/-- The first of some definitions to repeat a name is `second`, and `first` has that name before. -/
def EarliestRepeat (definitions : List Template) (first second : Template) : Prop :=
  ∃ front rest, definitions = front ++ second :: rest ∧ (front.map Template.name).Nodup ∧
    first ∈ front ∧ first.name = second.name

namespace Table

/-- Of some definitions, in the order in which they are loaded, the map holds the last one of every
name. The names are listed once each, in the order of their first definitions, and map and list
agree on which names there are and on how many. -/
structure Merges (c : Table) (definitions : List Template) : Prop where
  get? : ∀ name, c.get? name = definitions.reverse.find? fun t => t.name == name
  names : c.names = (definitions.map Template.name).eraseDups
  names_nodup : c.names.Nodup
  mem_names : ∀ name, name ∈ c.names ↔ ∃ t ∈ definitions, t.name = name
  size : c.size = c.names.length
  contains : ∀ name, c.contains name = decide (name ∈ c.names)
  parameters? : ∀ name, c.parameters? name = (c.get? name).map Template.parameters

variable {c c' : Table} {t : Template} {ts : List Template} {seen : List String}

/-- A name is listed by its first definition; later ones leave the list as it is. -/
theorem names_insert_lastWins (hin : c.InStep) (hc : c.names = seen.eraseDups)
    (h : insert .lastWins c t = .ok c') : c'.names = (seen ++ [t.name]).eraseDups := by
  have hmem : t.name ∈ c.order ↔ t.name ∈ seen := by
    change t.name ∈ c.names ↔ _
    rw [hc, List.mem_eraseDups]
  rw [List.eraseDups_append, ← hc]
  by_cases hseen : t.name ∈ c.order
  · obtain ⟨first, hfirst, -⟩ := insert_reject_taken hin hseen
    have hnothing : [t.name].removeAll seen = [] := by simp [List.removeAll, hmem.1 hseen]
    simp only [insert, hfirst] at h
    cases h
    rw [hnothing]
    exact (List.append_nil _).symm
  · have hadded : [t.name].removeAll seen = [t.name] := by
      simp [List.removeAll, mt hmem.2 hseen]
    rw [insert_new hin hseen] at h
    cases h
    rw [hadded]
    rfl

theorem names_foldlM_lastWins (hin : c.InStep) (seen : List String) (hc : c.names = seen.eraseDups)
    (h : ts.foldlM (insert .lastWins) c = .ok c') :
    c'.names = (seen ++ ts.map Template.name).eraseDups := by
  induction ts generalizing c seen with
  | nil =>
    cases h
    rw [hc, List.map_nil, List.append_nil]
  | cons t ts ih =>
    rw [List.foldlM_cons] at h
    obtain ⟨c₁, hinsert, hrest⟩ := bind_eq_ok.1 h
    have hnames := names_insert_lastWins hin hc hinsert
    rw [ih (hin.insert hinsert) _ hnames hrest, List.append_assoc]
    rfl

/-- The last definition of every name is found, and the names are listed by their first ones. -/
theorem ofTemplates_merges (ts : List Template) :
    ∃ c, ofTemplates .lastWins ts = .ok c ∧ c.InStep ∧ c.Merges ts := by
  obtain ⟨c, hc, hget⟩ := ofTemplates_lastWins ts
  have hin : c.InStep := .ofTemplates hc
  have hnames : c.names = (ts.map Template.name).eraseDups :=
    names_foldlM_lastWins inStep_empty [] rfl hc
  have hcontains (name : String) : c.contains name = decide (name ∈ c.names) := by
    rw [Bool.eq_iff_iff, decide_eq_true_iff]
    exact hin.contains_iff
  refine ⟨c, hc, hin, ?_⟩
  exact
    { get? := hget
      names := hnames
      names_nodup := hin.nodup
      mem_names := fun name => by rw [hnames, List.mem_eraseDups, List.mem_map]
      size := hin.size_eq
      contains := hcontains
      parameters? := fun name => rfl }

/-- As long as no name is repeated it does not matter what would be done with one that is. -/
theorem ofTemplates_reject_nodup (hc : ofTemplates .lastWins ts = .ok c)
    (h : (ts.map Template.name).Nodup) : ofTemplates .reject ts = .ok c := by
  rw [← hc, (ofTemplates_distinct .lastWins h).1]
  exact (ofTemplates_distinct .reject h).1

/-- Templates of which one repeats a name are refused at the first one that does. -/
theorem ofTemplates_reject_repeated {first second : Template} (h : EarliestRepeat ts first second) :
    ofTemplates .reject ts = .error (.duplicate second.name first.location second.location) := by
  obtain ⟨front, rest, rfl, hdistinct, hfirst, hname⟩ := h
  have hfront := ofTemplates_eq_ofDistinct .reject hdistinct
  have hload := ofTemplates_eq_ok_iff.1 hfront
  have hget : (ofDistinct front hdistinct).get? second.name = some first := by
    rw [← hname]
    exact get?_of_mem (by rwa [templates_ofDistinct])
  have hinsert : insert .reject (ofDistinct front hdistinct).toTable second =
      .error (.duplicate second.name first.location second.location) := by
    simp [insert, hget]
  rw [ofTemplates, List.foldlM_append]
  rw [ofTemplates] at hload
  rw [hload]
  change (second :: rest).foldlM (insert .reject) (ofDistinct front hdistinct).toTable = _
  rw [List.foldlM_cons, hinsert]
  rfl

/-- Strict loading gives the same containers as replacing does, if no name is defined twice. -/
theorem ofTemplates_reject_eq_ok_iff (hc : ofTemplates .lastWins ts = .ok c) :
    ofTemplates .reject ts = .ok c' ↔ (ts.map Template.name).Nodup ∧ c' = c := by
  constructor
  · intro h
    have hload : Registry.ofTemplates .reject ts = .ok ⟨c', .ofTemplates h⟩ :=
      ofTemplates_eq_ok_iff.2 h
    have hnodup := nodup_of_ofTemplates hload
    exact ⟨hnodup, Except.ok.inj (h.symm.trans (ofTemplates_reject_nodup hc hnodup))⟩
  · rintro ⟨hnodup, rfl⟩
    exact ofTemplates_reject_nodup hc hnodup

end Table

variable {ts : List Template}

/-- If a name is repeated there is a first template to do so. The induction takes templates away
from the end, until no name is repeated before the last one. -/
theorem exists_earliestRepeat (h : ¬ (ts.map Template.name).Nodup) :
    ∃ first second, EarliestRepeat ts first second := by
  induction ts using List.reverseRecOn with
  | nil => exact absurd List.nodup_nil h
  | append_singleton ts t ih =>
    by_cases hfront : (ts.map Template.name).Nodup
    · have hmem : t.name ∈ ts.map Template.name := by
        by_contra hnew
        rw [List.map_append, List.map_singleton, ← List.concat_eq_append] at h
        exact h (List.Nodup.concat hnew hfront)
      obtain ⟨first, hfirst, hname⟩ := List.mem_map.1 hmem
      exact ⟨first, t, ts, [], rfl, hfront, hfirst, hname⟩
    · obtain ⟨first, second, front, rest, rfl, hrepeat⟩ := ih hfront
      exact ⟨first, second, front, rest ++ [t], by simp, hrepeat⟩

/-- Strict loading fails where a name is repeated for the first time. -/
theorem ofTemplates_reject_eq_error_iff {e : LoadError} :
    ofTemplates .reject ts = .error e ↔ ∃ first second, EarliestRepeat ts first second ∧
      e = .duplicate second.name first.location second.location := by
  rw [ofTemplates_eq_error_iff]
  constructor
  · intro h
    have hrepeated : ¬ (ts.map Template.name).Nodup := by
      intro hnodup
      cases h.symm.trans (Table.ofTemplates_distinct .reject hnodup).1
    obtain ⟨first, second, hrepeat⟩ := exists_earliestRepeat hrepeated
    have hfail := Table.ofTemplates_reject_repeated hrepeat
    exact ⟨first, second, hrepeat, Except.error.inj (h.symm.trans hfail)⟩
  · rintro ⟨first, second, hrepeat, rfl⟩
    exact Table.ofTemplates_reject_repeated hrepeat

/-- Files load if later definitions take over, or if no name is defined twice. -/
theorem exists_ofFiles_iff {policy : DuplicatePolicy} {fs : List SourceFile} :
    (∃ r, ofFiles policy fs = .ok r) ↔
      policy = .lastWins ∨ ((fs.flatMap SourceFile.templates).map Template.name).Nodup := by
  constructor
  · rintro ⟨r, hr⟩
    cases policy with
    | reject => exact .inr (nodup_of_ofTemplates hr)
    | lastWins => exact .inl rfl
  · rintro (rfl | hnodup)
    · obtain ⟨r, hr, -⟩ := ofTemplates_lastWins (fs.flatMap SourceFile.templates)
      exact ⟨r, hr⟩
    · exact ⟨_, ofTemplates_eq_ofDistinct policy hnodup⟩

/-- The containers of a registry are told by the definitions of its files in load order. Where later
definitions take over the map holds the last one of each name, and the list has the names in the
order of their first ones. Strict loading gives the same containers if no name is defined twice.
Otherwise it fails at the first template that repeats a name, with the place of the earlier
definition. -/
theorem ofFiles_merges_definitions (files : List SourceFile) :
    let definitions := files.flatMap SourceFile.templates
    (∃ c, Table.ofFiles .lastWins files = .ok c ∧ c.InStep ∧ c.Merges definitions ∧
      ∀ c', Table.ofFiles .reject files = .ok c' ↔
        (definitions.map Template.name).Nodup ∧ c' = c) ∧
    (∀ e, Table.ofFiles .reject files = .error e ↔ ∃ first second,
      EarliestRepeat definitions first second ∧
        e = .duplicate second.name first.location second.location) ∧
    ∀ policy, (ofFiles policy files).map toTable = Table.ofFiles policy files := by
  intro definitions
  obtain ⟨c, hc, hin, hmerges⟩ := Table.ofTemplates_merges definitions
  refine ⟨⟨c, hc, hin, hmerges, fun c' => Table.ofTemplates_reject_eq_ok_iff hc⟩, ?_, ?_⟩
  · intro e
    exact ofTemplates_eq_error_iff.symm.trans ofTemplates_reject_eq_error_iff
  · intro policy
    exact map_ofTemplates policy definitions

end Phrasebook.Registry
