import Phrasebook.Proofs.Evaluator.Unison
import Phrasebook.Proofs.Registry.Loading

namespace Phrasebook

variable {σ τ : Type}

/-- The lists of lines that rendering the body may have to choose from. -/
def Body.choices : Body → List (List Line)
  | .choice lines => [lines]
  | .conditional cases otherwise => (cases ++ [otherwise]).map Clause.lines

/-- No template has two lines to choose between. -/
def Registry.LeavesNoChoice (r : Registry) : Prop :=
  ∀ t ∈ r.templates, ∀ lines ∈ t.body.choices, lines.length ≤ 1

instance (r : Registry) : Decidable r.LeavesNoChoice :=
  inferInstanceAs (Decidable (∀ t ∈ r.templates, ∀ lines ∈ t.body.choices, lines.length ≤ 1))

namespace Frame

variable {m : Type → Type} [Monad m]

/-- The same place, where choices are made as before but the first line is taken every time. -/
def takesFirst (f : Frame m) : Frame m :=
  { f with pick := fun n => do let _ ← f.pick n; return 0 }

theorem renderReference_takesFirst (f : Frame m) (text : String) :
    f.takesFirst.renderReference text = f.renderReference text := by
  have harguments (texts : List String) :
      f.takesFirst.evalArguments texts = f.evalArguments texts :=
    rel_evalArguments (R := Correspondence.equality _) texts fun _ _ => rfl
  unfold renderReference
  split
  · rfl
  · rfl
  · rw [harguments]
    rfl

theorem renderSegments_takesFirst (f : Frame m) (ss : List Segment) :
    f.takesFirst.renderSegments ss = f.renderSegments ss := by
  apply rel_renderSegments (R := Correspondence.equality _)
  intro i _
  cases i with
  | expression text => rfl
  | reference text => exact f.renderReference_takesFirst text

variable [LawfulMonad m]

/-- With one line the first line is taken in any case. -/
theorem renderChoice_takesFirst (f : Frame m) {lines : List Line} (h : lines.length ≤ 1) :
    f.takesFirst.renderChoice lines = f.renderChoice lines := by
  match lines, h with
  | [], _ => rfl
  | [line], _ =>
    have hindex (index : Nat) : [line][min index 0]?.getD line = line := by
      rw [Nat.min_zero]
      rfl
    simp only [renderChoice, List.length_nil, hindex, renderSegments_takesFirst]
    apply ExceptT.ext
    simp [choose, takesFirst]

theorem renderBody_takesFirst (f : Frame m) {b : Body}
    (h : ∀ lines ∈ b.choices, lines.length ≤ 1) :
    f.takesFirst.renderBody b = f.renderBody b := by
  cases b with
  | choice lines => exact f.renderChoice_takesFirst (h lines List.mem_cons_self)
  | conditional cases otherwise =>
    change f.takesFirst.renderCases otherwise cases = f.renderCases otherwise cases
    unfold Body.choices at h
    induction cases with
    | nil => exact f.renderChoice_takesFirst (h _ List.mem_cons_self)
    | cons clause clauses ih =>
      simp only [List.cons_append, List.map_cons, List.forall_mem_cons] at h
      simp only [renderCases, f.renderChoice_takesFirst h.1, ih h.2]
      rfl

end Frame

namespace Library

/-- The same templates and functions with another picker. -/
def withPicker (l : Library σ) (q : Picker τ) : Library τ := ⟨l.registry, l.fallback, q⟩

section

variable (l : Library σ) (q : Picker τ) {c : CallStack} {enter : Enter (Process σ)}
  {enter' : Enter (Process τ)}
  (h : ∀ name scope,
    SameResult (.sameCalls σ τ) c (enter name scope).run (enter' name scope).run)

include h

/-- With any two pickers the steps of a rendering correspond, if what is picked does not count. -/
theorem frame_unison :
    (l.frame enter).takesFirst.Corresponds (unison (.sameCalls σ τ) c)
      ((l.withPicker q).frame enter').takesFirst where
  registry := rfl
  fallback := rfl
  pick n := by
    intro e f hcalls he
    exact ⟨0, _, _, rfl, rfl, hcalls, he⟩
  current := current_sameResult l (l.withPicker q) enter enter'
  enter := h

/-- A body that leaves no choice has one result, if the templates inside it do. Its conditions may
fail and render templates: they come to the same in both runs. -/
theorem renderBody_sameResult {b : Body} (hb : ∀ lines ∈ b.choices, lines.length ≤ 1) :
    SameResult (.sameCalls σ τ) c ((l.frame enter).renderBody b).run
      (((l.withPicker q).frame enter').renderBody b).run := by
  rw [← (l.frame enter).renderBody_takesFirst hb,
    ← ((l.withPicker q).frame enter').renderBody_takesFirst hb]
  exact (l.frame_unison q h).renderBody b

end

/-- A template that is looked up leaves no choice if none does. -/
theorem rel_get?_of_leavesNoChoice {r : Registry} (h : r.LeavesNoChoice) (name : String) :
    Option.Rel (fun t t' => t' = t ∧ ∀ lines ∈ t.body.choices, lines.length ≤ 1) (r.get? name)
      (r.get? name) := by
  cases hget : r.get? name with
  | none => exact .none
  | some t => exact .some ⟨rfl, h t (Registry.mem_of_get? hget)⟩

/-- The picker matters only where there is a choice. If no template has two lines to choose between,
any two pickers, in whatever states, give the same text or the same failure, on whatever call stack
the rendering starts. -/
theorem evaluate_same_with_any_picker (l : Library σ) (hsingle : l.registry.LeavesNoChoice)
    (q : Picker τ) (name : String) (scope : Value) (e : Evaluation σ) (f : Evaluation τ)
    (hcalls : e.calls = f.calls) :
    ∃ outcome e' f', (l.evaluate name scope).run e = some (outcome, e') ∧
      ((l.withPicker q).evaluate name scope).run f = some (outcome, f') ∧
      e'.calls = e.calls ∧ f'.calls = e.calls := by
  have hsame : SameResult (.sameCalls σ τ) e.calls (l.evaluate name scope).run
      ((l.withPicker q).evaluate name scope).run := by
    apply evaluate_sameResult l (l.withPicker q) (rel_get?_of_leavesNoChoice hsingle)
    rintro c enter enter' t _ ⟨rfl, hb⟩ h
    exact l.renderBody_sameResult q h hb
  obtain ⟨outcome, e', f', hrun, hrun', hcalls', he'⟩ := hsame e f hcalls.symm rfl
  exact ⟨outcome, e', f', hrun, hrun', he', hcalls'.trans he'⟩

/-- A guest list whose condition renders the guests and may fail, with one line in every body. -/
def guestList : Registry :=
  .ofDistinct
    [⟨"Guests", [], .conditional
        [⟨some "count(foreach(guests, layout)) > 1",
          [⟨[.expression "\x7bhumanize(guests, layout, ',')\x7d"], ⟨3, 1, 48, 1, none⟩⟩],
          ⟨2, 1, 9, 1, none⟩⟩]
        ⟨none, [⟨[.text "just ", .reference "[Guest(host)]"], ⟨5, 1, 95, 1, none⟩⟩],
          ⟨4, 1, 84, 1, none⟩⟩,
        ⟨1, 1, 0, 1, none⟩⟩,
      ⟨"Guest", ["name"], .choice [⟨[.block "```@{name}```"], ⟨7, 1, 129, 1, none⟩⟩],
        ⟨6, 1, 114, 1, none⟩⟩]
    (by decide)

/-- A picker that counts its choices and is always out of range, and one that takes the first. -/
theorem guestList_same_with_any_picker :
    let l : Library Nat := ⟨guestList, .standard, ⟨fun n made => (n + made, made + 1)⟩⟩
    let scope : Value := .mapping
      [("guests", .list [.text "Ann", .text "Bob"]), ("host", .text "Eve"),
        ("layout", .text "Guest")]
    l.registry.LeavesNoChoice ∧
    ∃ outcome e' f', (l.evaluate "Guests" scope).run (.start 7) = some (outcome, e') ∧
      ((l.withPicker (.fixed 0)).evaluate "Guests" scope).run (.start ()) = some (outcome, f') ∧
      e'.calls = .empty ∧ f'.calls = .empty := by
  intro l scope
  have hsingle : l.registry.LeavesNoChoice := by decide
  exact ⟨hsingle,
    l.evaluate_same_with_any_picker hsingle (.fixed 0) "Guests" scope (.start 7) (.start ()) rfl⟩

end Library

end Phrasebook
