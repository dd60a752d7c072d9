import Mathlib.Data.List.Basic
import Phrasebook.Registry

namespace Phrasebook.Registry

namespace Table

variable {policy : DuplicatePolicy} {c d : Table} {t : Template} {ts us : List Template}

/-- A template with a new name is put at the end, whatever is done with names that are taken. -/
theorem insert_new (hc : c.InStep) (h : t.name ∉ c.order) :
    insert policy c t = .ok (c.append t) := by
  have hnone : c.get? t.name = none := by
    have hcontains := mt hc.contains_iff.1 h
    simpa [contains] using hcontains
  simp [insert, hnone]

/-- A name that is taken is refused, with the place where it was taken. -/
theorem insert_reject_taken (hc : c.InStep) (h : t.name ∈ c.order) :
    ∃ first, c.get? t.name = some first ∧
      insert .reject c t = .error (.duplicate t.name first.location t.location) := by
  have hcontains := hc.contains_iff.2 h
  obtain ⟨first, hfirst⟩ := Option.isSome_iff_exists.1 hcontains
  exact ⟨first, hfirst, by simp [insert, hfirst]⟩

theorem templates_append (h : t.name ∉ c.order) :
    (c.append t).templates = c.templates ++ [t] := by
  have hold : c.order.filterMap (c.append t).get? = c.order.filterMap c.get? := by
    apply List.filterMap_congr
    intro name hname
    have hne : t.name ≠ name := by
      rintro rfl
      exact h hname
    rw [get?_append, if_neg hne]
  have hnew : (c.append t).get? t.name = some t := by rw [get?_append, if_pos rfl]
  change (c.order ++ [t.name]).filterMap (c.append t).get? = _
  rw [List.filterMap_append, hold, List.filterMap_cons_some hnew]
  rfl

/-- Templates with new and distinct names are put at the end. -/
theorem foldlM_insert_new (hc : c.InStep) (h : (c.order ++ ts.map Template.name).Nodup) :
    ts.foldlM (insert policy) c = .ok (ts.foldl append c) ∧
      (ts.foldl append c).templates = c.templates ++ ts := by
  induction ts generalizing c with
  | nil => exact ⟨rfl, (List.append_nil _).symm⟩
  | cons t ts ih =>
    have hnew : t.name ∉ c.order := by
      intro hmem
      exact (List.nodup_append.1 h).2.2 t.name hmem t.name (by simp) rfl
    have hrest : ((c.append t).order ++ ts.map Template.name).Nodup := by
      simpa [append] using h
    obtain ⟨hfold, htemplates⟩ := ih (hc.append hnew) hrest
    constructor
    · rw [List.foldlM_cons, insert_new hc hnew]
      exact hfold
    · rw [List.foldl_cons, htemplates, templates_append hnew, List.append_assoc]
      rfl

theorem ofTemplates_distinct (policy : DuplicatePolicy) (h : (ts.map Template.name).Nodup) :
    ofTemplates policy ts = .ok (ts.foldl append empty) ∧ (ts.foldl append empty).templates = ts :=
  foldlM_insert_new inStep_empty h

/-- Whether templates load strictly, and which name is in the way, is told by their names alone. -/
theorem foldlM_reject_alike (hc : c.InStep) (hd : d.InStep) (hseen : c.order = d.order)
    (hnames : ts.map Template.name = us.map Template.name) :
    (∃ name first second first' second',
      ts.foldlM (insert .reject) c = .error (.duplicate name first second) ∧
        us.foldlM (insert .reject) d = .error (.duplicate name first' second')) ∨
    ∃ c' d', ts.foldlM (insert .reject) c = .ok c' ∧ us.foldlM (insert .reject) d = .ok d' ∧
      c'.templates = c.templates ++ ts ∧ d'.templates = d.templates ++ us := by
  induction ts generalizing c d us with
  | nil =>
    obtain rfl : us = [] := List.map_eq_nil_iff.1 hnames.symm
    exact .inr ⟨c, d, rfl, rfl, (List.append_nil _).symm, (List.append_nil _).symm⟩
  | cons t ts ih =>
    obtain ⟨u, us, rfl, hname, hnames⟩ := List.map_eq_cons_iff.1 hnames.symm
    rw [List.foldlM_cons, List.foldlM_cons]
    by_cases hnew : t.name ∈ c.order
    · obtain ⟨first, -, hinsert⟩ := insert_reject_taken hc hnew
      obtain ⟨first', -, hinsert'⟩ := insert_reject_taken (t := u) hd (hname ▸ hseen ▸ hnew)
      rw [hinsert, hinsert', hname]
      exact .inl ⟨_, _, _, _, _, rfl, rfl⟩
    · have hnew' : u.name ∉ d.order := hname ▸ hseen ▸ hnew
      have hseen' : (c.append t).order = (d.append u).order := by simp [append, hseen, hname]
      rw [insert_new hc hnew, insert_new hd hnew']
      rcases ih (hc.append hnew) (hd.append hnew') hseen' hnames.symm with
        hfail | ⟨c', d', hc', hd', htemplates, htemplates'⟩
      · exact .inl hfail
      · refine .inr ⟨c', d', hc', hd', ?_, ?_⟩
        · rw [htemplates, templates_append hnew, List.append_assoc]
          rfl
        · rw [htemplates', templates_append hnew', List.append_assoc]
          rfl

end Table

section

variable {r : Registry} {ts us : List Template}

theorem map_name_templates (r : Registry) : r.templates.map Template.name = r.names := by
  have hnames : r.order.filterMap (fun name => (r.get? name).map Template.name) =
      r.order.filterMap some := by
    apply List.filterMap_congr
    intro name hname
    obtain ⟨t, ht⟩ := Option.isSome_iff_exists.1 (r.inStep.contains_iff.2 hname)
    simp [ht, name_of_get? ht]
  unfold Table.templates
  rw [List.map_filterMap, hnames, List.filterMap_some]
  rfl

theorem nodup_names (r : Registry) : (r.templates.map Template.name).Nodup := by
  rw [map_name_templates]
  exact r.inStep.nodup

/-- Looking a name up in the map is searching the templates for it. -/
theorem get?_eq_find? (r : Registry) (name : String) :
    r.get? name = r.templates.find? fun t => t.name == name := by
  cases hfind : r.templates.find? fun t => t.name == name with
  | none =>
    rw [get?_eq_none_iff, ← map_name_templates, List.mem_map]
    rintro ⟨t, ht, rfl⟩
    simpa using List.find?_eq_none.1 hfind t ht
  | some t =>
    have hname : t.name = name := by simpa using List.find?_some hfind
    rw [← hname]
    exact get?_of_mem (List.mem_of_find?_eq_some hfind)

/-- The registry of templates with distinct names. -/
def ofDistinct (ts : List Template) (h : (ts.map Template.name).Nodup) : Registry :=
  ⟨ts.foldl Table.append .empty, .ofTemplates (Table.ofTemplates_distinct .reject h).1⟩

theorem templates_ofDistinct (h : (ts.map Template.name).Nodup) :
    (ofDistinct ts h).templates = ts :=
  (Table.ofTemplates_distinct .reject h).2

theorem ofTemplates_eq_ofDistinct (policy : DuplicatePolicy) (h : (ts.map Template.name).Nodup) :
    ofTemplates policy ts = .ok (ofDistinct ts h) :=
  ofTemplates_eq_ok_iff.2 (Table.ofTemplates_distinct policy h).1

theorem ofTemplates_distinct (policy : DuplicatePolicy) (h : (ts.map Template.name).Nodup) :
    ∃ r : Registry, ofTemplates policy ts = .ok r ∧ r.templates = ts :=
  ⟨ofDistinct ts h, ofTemplates_eq_ofDistinct policy h, templates_ofDistinct h⟩

theorem ofTemplates_reject_alike (hnames : ts.map Template.name = us.map Template.name) :
    (∃ name first second first' second',
      ofTemplates .reject ts = .error (.duplicate name first second) ∧
        ofTemplates .reject us = .error (.duplicate name first' second')) ∨
    ∃ r s : Registry, ofTemplates .reject ts = .ok r ∧ ofTemplates .reject us = .ok s ∧
      r.templates = ts ∧ s.templates = us := by
  rcases Table.foldlM_reject_alike Table.inStep_empty Table.inStep_empty rfl hnames with
    ⟨name, first, second, first', second', hts, hus⟩ | ⟨c, d, hc, hd, htemplates, htemplates'⟩
  · exact .inl ⟨name, first, second, first', second', ofTemplates_eq_error_iff.2 hts,
      ofTemplates_eq_error_iff.2 hus⟩
  · exact .inr ⟨⟨c, .ofTemplates hc⟩, ⟨d, .ofTemplates hd⟩, ofTemplates_eq_ok_iff.2 hc,
      ofTemplates_eq_ok_iff.2 hd, htemplates, htemplates'⟩

/-- Strictly, only distinct names load. -/
theorem nodup_of_ofTemplates (h : ofTemplates .reject ts = .ok r) :
    (ts.map Template.name).Nodup := by
  rcases @ofTemplates_reject_alike ts ts rfl with
    ⟨_, _, _, _, _, herror, -⟩ | ⟨r', -, -, -, htemplates, -⟩
  · rw [h] at herror
    contradiction
  · rw [← htemplates]
    exact r'.nodup_names

end

end Phrasebook.Registry
