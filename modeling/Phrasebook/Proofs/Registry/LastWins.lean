import Phrasebook.Registry

namespace Phrasebook.Registry

namespace Table

/-- A template takes its name from any other, and leaves the rest as it is. -/
theorem insert_lastWins (c : Table) (t : Template) :
    ∃ c', insert .lastWins c t = .ok c' ∧
      ∀ name, c'.get? name = if t.name = name then some t else c.get? name := by
  cases h : c.get? t.name with
  | none => exact ⟨c.append t, by simp [insert, h], c.get?_append t⟩
  | some first => exact ⟨c.replace t, by simp [insert, h], c.get?_replace t⟩

theorem foldlM_lastWins (c : Table) (ts : List Template) :
    ∃ c', ts.foldlM (insert .lastWins) c = .ok c' ∧
      ∀ name, c'.get? name = (ts.reverse.find? fun t => t.name == name).or (c.get? name) := by
  induction ts generalizing c with
  | nil => exact ⟨c, rfl, fun name => rfl⟩
  | cons t ts ih =>
    obtain ⟨c₁, hinsert, hget⟩ := c.insert_lastWins t
    obtain ⟨c₂, hfold, hget'⟩ := ih c₁
    refine ⟨c₂, ?_, ?_⟩
    · rw [List.foldlM_cons, hinsert]
      exact hfold
    · intro name
      rw [hget', hget, List.reverse_cons, List.find?_append, Option.or_assoc]
      by_cases hname : t.name = name <;> simp [hname]

/-- Every name stands for its last definition. -/
theorem ofTemplates_lastWins (ts : List Template) :
    ∃ c, ofTemplates .lastWins ts = .ok c ∧
      ∀ name, c.get? name = ts.reverse.find? fun t => t.name == name := by
  obtain ⟨c, hc, hget⟩ := foldlM_lastWins empty ts
  refine ⟨c, hc, ?_⟩
  intro name
  rw [hget]
  exact Option.or_none

end Table

theorem ofTemplates_lastWins (ts : List Template) :
    ∃ r : Registry, ofTemplates .lastWins ts = .ok r ∧
      ∀ name, r.get? name = ts.reverse.find? fun t => t.name == name := by
  obtain ⟨c, hc, hget⟩ := Table.ofTemplates_lastWins ts
  exact ⟨⟨c, .ofTemplates hc⟩, ofTemplates_eq_ok_iff.2 hc, hget⟩

end Phrasebook.Registry
