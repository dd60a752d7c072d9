import Phrasebook.Text.Nesting

namespace Phrasebook.Text

variable {α : Type} {edge : α → Bool} {piece mid text : List α}

/-- The piece stands in the text, with an edge or nothing on either side of it. -/
def StandsIn (edge : α → Bool) (piece text : List α) : Prop :=
  ∃ front back, text = front ++ (piece ++ back) ∧ (∀ a ∈ front.getLast?, edge a) ∧
    ∀ a ∈ back.head?, edge a

namespace StandsIn

theorem refl (text : List α) : StandsIn edge text text := ⟨[], [], by simp, by simp, by simp⟩

theorem trans (h : StandsIn edge piece mid) (h' : StandsIn edge mid text) :
    StandsIn edge piece text := by
  obtain ⟨front, back, rfl, hfront, hback⟩ := h
  obtain ⟨front', back', rfl, hfront', hback'⟩ := h'
  refine ⟨front' ++ front, back ++ back', by simp only [List.append_assoc], ?_, ?_⟩
  · intro a ha
    rw [List.getLast?_append, Option.mem_def, Option.or_eq_some_iff] at ha
    rcases ha with ha | ⟨-, ha⟩
    · exact hfront a ha
    · exact hfront' a ha
  · intro a ha
    rw [List.head?_append, Option.mem_def, Option.or_eq_some_iff] at ha
    rcases ha with ha | ⟨-, ha⟩
    · exact hback a ha
    · exact hback' a ha

theorem mono {edge' : α → Bool} (hedge : ∀ a, edge a → edge' a) (h : StandsIn edge piece text) :
    StandsIn edge' piece text := by
  obtain ⟨front, back, rfl, hfront, hback⟩ := h
  exact ⟨front, back, rfl, fun a ha => hedge a (hfront a ha), fun a ha => hedge a (hback a ha)⟩

/-- More text in front that ends with an edge. -/
theorem behind (h : StandsIn edge piece text) (front : List α)
    (hfront : ∀ a ∈ front.getLast?, edge a) :
    StandsIn edge piece (front ++ text) :=
  h.trans ⟨front, [], by rw [List.append_nil], hfront, by simp⟩

/-- More text behind that begins with an edge. -/
theorem before (h : StandsIn edge piece text) (back : List α)
    (hback : ∀ a ∈ back.head?, edge a) :
    StandsIn edge piece (text ++ back) :=
  h.trans ⟨[], back, rfl, by simp, hback⟩

theorem behind_edge (h : StandsIn edge piece text) (front : List α) {a : α} (ha : edge a) :
    StandsIn edge piece (front ++ a :: text) := by
  rw [List.append_cons]
  exact h.behind _ (by simpa using ha)

theorem before_edge (h : StandsIn edge piece text) {a : α} (ha : edge a) (back : List α) :
    StandsIn edge piece (text ++ a :: back) :=
  h.before _ (by simpa using ha)

theorem enclosed (h : StandsIn edge piece text) (front : List α) {opening closing : α}
    (hopening : edge opening) (hclosing : edge closing) :
    StandsIn edge piece (front ++ opening :: text ++ [closing]) :=
  (h.behind_edge front hopening).before_edge hclosing []

end StandsIn

theorem standsIn_intercalate {separator : α} (hedge : edge separator) {parts : List (List α)}
    (h : piece ∈ parts) : StandsIn edge piece ([separator].intercalate parts) := by
  induction parts with
  | nil => cases h
  | cons part parts ih =>
    cases parts with
    | nil =>
      obtain rfl := List.mem_singleton.1 h
      rw [List.intercalate_singleton]
      exact .refl piece
    | cons next parts =>
      rw [List.intercalate_cons_cons, List.append_assoc]
      rcases List.mem_cons.1 h with rfl | h
      · exact (StandsIn.refl piece).before_edge hedge _
      · exact (ih h).behind_edge part hedge

/-- Nothing is lost where a text is cut but the separators. -/
theorem intercalate_splitFrom (separator : Char) (s : Nesting) (cs : List Char) :
    [separator].intercalate (splitFrom separator s cs) = cs := by
  induction cs generalizing s with
  | nil => rfl
  | cons c cs ih =>
    rw [splitFrom]
    split
    · rename_i hcut
      obtain ⟨-, rfl, -⟩ := hcut
      have hrest := ih s
      obtain ⟨part, parts, hparts⟩ := List.exists_cons_of_ne_nil (splitFrom_ne_nil c s cs)
      rw [hparts] at hrest ⊢
      rw [List.intercalate_cons_cons, hrest]
      rfl
    · have hrest := ih (s.next c)
      obtain ⟨part, parts, hparts⟩ :=
        List.exists_cons_of_ne_nil (splitFrom_ne_nil separator (s.next c) cs)
      rw [hparts] at hrest ⊢
      cases parts with
      | nil => simpa [extendFirst] using hrest
      | cons next parts => simpa [extendFirst] using hrest

theorem standsIn_splitTopLevel {edge : Char → Bool} {separator : Char} (hedge : edge separator)
    {piece cs : List Char} (h : piece ∈ splitTopLevel separator cs) : StandsIn edge piece cs := by
  have hstands := standsIn_intercalate hedge h
  unfold splitTopLevel at hstands
  rwa [intercalate_splitFrom] at hstands

section

variable {edge : Char → Bool} (hspace : ∀ c, isSpace c → edge c) (cs : List Char)

include hspace

theorem standsIn_trimStart : StandsIn edge (trimStart cs) cs := by
  have hsplit : cs = cs.takeWhile isSpace ++ trimStart cs := List.takeWhile_append_dropWhile.symm
  have hfront : ∀ c ∈ (cs.takeWhile isSpace).getLast?, edge c := by
    intro c hc
    exact hspace c (List.all_eq_true.1 List.all_takeWhile c (List.mem_of_getLast? hc))
  have hstands := (StandsIn.refl (trimStart cs)).behind _ hfront
  rwa [← hsplit] at hstands

theorem standsIn_trimEnd : StandsIn edge (trimEnd cs) cs := by
  have hsplit : cs = trimEnd cs ++ (cs.reverse.takeWhile isSpace).reverse := by
    unfold trimEnd
    rw [← List.reverse_append, List.takeWhile_append_dropWhile, List.reverse_reverse]
  have hback : ∀ c ∈ (cs.reverse.takeWhile isSpace).reverse.head?, edge c := by
    intro c hc
    have hmem : c ∈ cs.reverse.takeWhile isSpace :=
      List.mem_reverse.1 (List.mem_of_head? hc)
    exact hspace c (List.all_eq_true.1 List.all_takeWhile c hmem)
  have hstands := (StandsIn.refl (trimEnd cs)).before _ hback
  rwa [← hsplit] at hstands

theorem standsIn_trim : StandsIn edge (trim cs) cs :=
  (standsIn_trimEnd hspace (trimStart cs)).trans (standsIn_trimStart hspace cs)

end

end Phrasebook.Text
