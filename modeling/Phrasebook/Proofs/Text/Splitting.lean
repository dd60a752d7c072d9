import Phrasebook.Proofs.Text.Balanced
import Phrasebook.Proofs.Text.Pieces

namespace Phrasebook.Text

/-- Where the reader is behind some characters. -/
def Nesting.after (s : Nesting) (cs : List Char) : Nesting := cs.foldl next s

/-- Parts into which a text may be cut: with separators between them they are the text, none of
them can be cut again, and brackets and quotes that are opened in a part are closed in it, save in
the last. -/
structure IsSplitting (separator : Char) (cs : List Char) (parts : List (List Char)) : Prop where
  ne_nil : parts ≠ []
  joined : [separator].intercalate parts = cs
  whole : ∀ part ∈ parts, splitTopLevel separator part = [part]
  closed : ∀ part ∈ parts.dropLast, Nesting.top.after part = .top

section

variable {separator c : Char} {s : Nesting} {cs part rest : List Char}
  {parts : List (List Char)}

theorem extendFirst_eq_singleton_iff (hne : parts ≠ []) :
    extendFirst c parts = [c :: cs] ↔ parts = [cs] := by
  obtain ⟨part, parts, rfl⟩ := List.exists_cons_of_ne_nil hne
  simp [extendFirst]

/-- A text is left whole if there is no cut at its first character nor behind it. -/
theorem splitFrom_cons_whole_iff :
    splitFrom separator s (c :: cs) = [c :: cs] ↔
      ¬ (s = .top ∧ c = separator ∧ isNestingMark c = false) ∧
        splitFrom separator (s.next c) cs = [cs] := by
  rw [splitFrom]
  split
  · rename_i hcut
    exact iff_of_false (by simp) fun h => h.1 hcut
  · rename_i hkept
    rw [extendFirst_eq_singleton_iff (splitFrom_ne_nil separator _ cs)]
    simp [hkept]

/-- A text that is left whole stays in one piece in front of any other. -/
theorem splitFrom_append (h : splitFrom separator s part = [part]) (rest : List Char) :
    splitFrom separator s (part ++ rest) =
      part.foldr extendFirst (splitFrom separator (s.after part) rest) := by
  induction part generalizing s with
  | nil => rfl
  | cons c part ih =>
    obtain ⟨hkept, hpart⟩ := splitFrom_cons_whole_iff.1 h
    rw [List.cons_append, splitFrom, if_neg hkept, ih hpart]
    rfl

/-- Behind a part that closes what it opens the text is cut, and read anew. -/
theorem splitFrom_cut (hmark : isNestingMark separator = false)
    (hpart : splitFrom separator s part = [part]) (hclosed : s.after part = .top) :
    splitFrom separator s (part ++ separator :: rest) = part :: splitTopLevel separator rest := by
  have hcut : splitFrom separator .top (separator :: rest) =
      [] :: splitTopLevel separator rest := by
    rw [splitFrom, if_pos ⟨rfl, rfl, hmark⟩, splitTopLevel]
  rw [splitFrom_append hpart, hclosed, hcut, foldr_extendFirst, List.append_nil]

/-- A text is left whole, or there is a first cut in it. -/
theorem whole_or_cut (separator : Char) (s : Nesting) (cs : List Char) :
    splitFrom separator s cs = [cs] ∨ ∃ part rest, isNestingMark separator = false ∧
      cs = part ++ separator :: rest ∧ splitFrom separator s part = [part] ∧
        s.after part = .top := by
  induction cs generalizing s with
  | nil => exact .inl rfl
  | cons c cs ih =>
    by_cases hcut : s = .top ∧ c = separator ∧ isNestingMark c = false
    · obtain ⟨rfl, rfl, hmark⟩ := hcut
      exact .inr ⟨[], cs, hmark, rfl, rfl, rfl⟩
    · rcases ih (s.next c) with hwhole | ⟨part, rest, hmark, rfl, hpart, hclosed⟩
      · exact .inl (splitFrom_cons_whole_iff.2 ⟨hcut, hwhole⟩)
      · exact .inr ⟨c :: part, rest, hmark, rfl, splitFrom_cons_whole_iff.2 ⟨hcut, hpart⟩, hclosed⟩

theorem isSplitting_singleton_iff :
    IsSplitting separator cs [part] ↔ part = cs ∧ splitTopLevel separator part = [part] := by
  constructor
  · intro h
    exact ⟨by simpa using h.joined, h.whole part List.mem_cons_self⟩
  · rintro ⟨rfl, hwhole⟩
    exact ⟨by simp, by simp, by simpa using hwhole, by simp⟩

theorem isSplitting_cons_iff (hne : parts ≠ []) :
    IsSplitting separator cs (part :: parts) ↔ ∃ rest, cs = part ++ separator :: rest ∧
      splitTopLevel separator part = [part] ∧ Nesting.top.after part = .top ∧
        IsSplitting separator rest parts := by
  have hjoin : [separator].intercalate (part :: parts) =
      part ++ separator :: [separator].intercalate parts := by
    obtain ⟨next, parts, rfl⟩ := List.exists_cons_of_ne_nil hne
    rw [List.intercalate_cons_cons, List.append_assoc, List.singleton_append]
  constructor
  · intro h
    obtain ⟨hpart, hwhole⟩ := List.forall_mem_cons.1 h.whole
    have hclosed := h.closed
    rw [List.dropLast_cons_of_ne_nil hne, List.forall_mem_cons] at hclosed
    refine ⟨_, ?_, hpart, hclosed.1, ⟨hne, rfl, hwhole, hclosed.2⟩⟩
    rw [← h.joined, hjoin]
  · rintro ⟨rest, rfl, hpart, hclosed, h⟩
    refine ⟨List.cons_ne_nil _ _, ?_, List.forall_mem_cons.2 ⟨hpart, h.whole⟩, ?_⟩
    · rw [hjoin, h.joined]
    · rw [List.dropLast_cons_of_ne_nil hne, List.forall_mem_cons]
      exact ⟨hclosed, h.closed⟩

end

/-- The parts that are cut are a way to cut the text. The recursion is on what the first cut leaves. -/
theorem isSplitting_splitTopLevel (separator : Char) (cs : List Char) :
    IsSplitting separator cs (splitTopLevel separator cs) := by
  rcases whole_or_cut separator .top cs with hwhole | ⟨part, rest, hmark, hcs, hpart, hclosed⟩
  · have hone : splitTopLevel separator cs = [cs] := hwhole
    rw [hone]
    exact isSplitting_singleton_iff.2 ⟨rfl, hone⟩
  · have hsplit : splitTopLevel separator cs = part :: splitTopLevel separator rest := by
      rw [hcs]
      exact splitFrom_cut hmark hpart hclosed
    rw [hsplit]
    exact (isSplitting_cons_iff (splitFrom_ne_nil separator .top rest)).2
      ⟨rest, hcs, hpart, hclosed, isSplitting_splitTopLevel separator rest⟩
termination_by cs.length
decreasing_by
  rw [hcs, List.length_append, List.length_cons]
  omega

/-- There is only one way to cut a text, if the separator may be cut at. -/
theorem IsSplitting.eq_splitTopLevel {separator : Char} (hmark : isNestingMark separator = false)
    {cs : List Char} {parts : List (List Char)} (h : IsSplitting separator cs parts) :
    parts = splitTopLevel separator cs := by
  induction parts generalizing cs with
  | nil => exact absurd rfl h.ne_nil
  | cons part parts ih =>
    cases parts with
    | nil =>
      obtain ⟨rfl, hwhole⟩ := isSplitting_singleton_iff.1 h
      exact hwhole.symm
    | cons next parts =>
      obtain ⟨rest, rfl, hpart, hclosed, hrest⟩ :=
        (isSplitting_cons_iff (List.cons_ne_nil next parts)).1 h
      rw [ih hrest]
      exact (splitFrom_cut hmark hpart hclosed).symm

/-- Nothing is cut at a bracket or a quote. -/
theorem splitTopLevel_mark {separator : Char} (hmark : isNestingMark separator = true)
    (cs : List Char) : splitTopLevel separator cs = [cs] := by
  rcases whole_or_cut separator .top cs with hwhole | ⟨part, rest, hplain, -⟩
  · exact hwhole
  · rw [hmark] at hplain
    contradiction

/-- Every text, also with brackets and quotes that do not match, is cut into parts that lose nothing
and cannot be cut again. It is the only way to do so, or the separator is itself a bracket or a quote
and the text stays whole. -/
theorem splitTopLevel_only_splitting (separator : Char) (cs : List Char) :
    IsSplitting separator cs (splitTopLevel separator cs) ∧
      (isNestingMark separator = false →
        ∀ parts, IsSplitting separator cs parts → parts = splitTopLevel separator cs) ∧
      (isNestingMark separator = true → splitTopLevel separator cs = [cs]) :=
  ⟨isSplitting_splitTopLevel separator cs, fun hmark _ h => h.eq_splitTopLevel hmark,
    fun hmark => splitTopLevel_mark hmark cs⟩

/-- A closing bracket too many, brackets in a string and a string that stays open. -/
theorem splitTopLevel_unbalanced :
    let cs := "x), f(y, '(,'), \"z, w)".toList
    let parts := ["x)", " f(y, '(,')", " \"z, w)"].map String.toList
    isNestingMark ',' = false ∧ IsSplitting ',' cs parts ∧ splitTopLevel ',' cs = parts ∧
      isNestingMark ')' = true ∧ splitTopLevel ')' cs = [cs] := by
  intro cs parts
  have hparts : IsSplitting ',' cs parts :=
    ⟨by decide, by decide +kernel, by decide +kernel, by decide +kernel⟩
  have hcomma := (splitTopLevel_only_splitting ',' cs).2.1 (by decide) parts hparts
  exact ⟨by decide, hparts, hcomma.symm, by decide,
    (splitTopLevel_only_splitting ')' cs).2.2 (by decide)⟩

end Phrasebook.Text
