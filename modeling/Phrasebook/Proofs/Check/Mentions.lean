import Phrasebook.Check
import Phrasebook.Proofs.Evaluator.Variables
import Phrasebook.Proofs.Expression.Edges
import Phrasebook.Proofs.Expression.Extent
import Phrasebook.Proofs.Expression.Writing

namespace Phrasebook

namespace Check

open Text

/-- A character that no word goes on with. -/
def endsWord (c : Char) : Bool := isWordEdge (some c)

theorem isWordEdge_iff {o : Option Char} : isWordEdge o ↔ ∀ c ∈ o, endsWord c := by
  cases o with
  | none => simp [isWordEdge]
  | some c => simp [endsWord]

/-- White space outside ASCII. -/
def spaceRanges : List (Nat × Nat) :=
  [(133, 133), (160, 160), (5760, 5760), (8192, 8202), (8232, 8233), (8239, 8239), (8287, 8287),
    (12288, 12288)]

theorem exists_spaceRange {c : Char} (h : isSpace c) (hc : 128 ≤ c.toNat) :
    ∃ s ∈ spaceRanges, s.1 ≤ c.toNat ∧ c.toNat ≤ s.2 := by
  simp only [isSpace, Bool.or_eq_true, Bool.and_eq_true, decide_eq_true_eq] at h
  simp only [spaceRanges, List.mem_cons, List.not_mem_nil, or_false, exists_eq_or_imp,
    exists_eq_left]
  omega

/-- No white space is among the letters and digits of any script. -/
theorem letterRanges_disjoint :
    ∀ r ∈ letterRanges.toList, ∀ s ∈ spaceRanges, r.2 < s.1 ∨ s.2 < r.1 := by
  decide +kernel

theorem isLetterOrDigit_of_isSpace {c : Char} (h : isSpace c) : isLetterOrDigit c = false := by
  rw [Bool.eq_false_iff]
  intro hletter
  unfold isLetterOrDigit at hletter
  split at hletter
  · have hname : Expr.continuesName c := by simp [Expr.continuesName, hletter]
    have hspace := Expr.isSpace_of_continuesName hname
    rw [h] at hspace
    contradiction
  · rename_i hc
    obtain ⟨s, hs, hle, hge⟩ := exists_spaceRange h (by omega)
    obtain ⟨r, hr, hin⟩ := Array.any_eq_true'.1 hletter
    simp only [Bool.and_eq_true, decide_eq_true_eq] at hin
    have hdisjoint := letterRanges_disjoint r (Array.mem_toList_iff.2 hr) s hs
    omega

theorem endsWord_of_isSpace {c : Char} (h : isSpace c) : endsWord c := by
  have hletter := isLetterOrDigit_of_isSpace h
  have hne : c ≠ '_' := by
    rintro rfl
    contradiction
  simp [endsWord, isWordEdge, hletter, hne]

theorem endsWord_of_separates {c : Char} (h : Expr.separates c) : endsWord c := by
  unfold Expr.separates at h
  rcases (Bool.or_eq_true _ _).mp h with hgap | hmark
  · exact endsWord_of_isSpace (isSpace_of_isGap hgap)
  · have hall : Expr.marks.all endsWord := by decide
    exact List.all_eq_true.1 hall c (List.contains_iff_mem.1 hmark)

theorem endsWord_of_continuesName {c : Char} (h : Expr.continuesName c) : endsWord c = false := by
  have hrange := Expr.range_of_continuesName h
  simp only [Expr.continuesName, Bool.or_eq_true, decide_eq_true_eq] at h
  rcases h with h | rfl
  · have hletter := isLetterOrDigit_of_isAlphanum h (by omega)
    simp [endsWord, isWordEdge, hletter]
  · decide

theorem endsWord_of_isName {name : String} (h : IsName name) :
    name ≠ "" ∧ ∀ c ∈ name.toList, endsWord c = false := by
  obtain ⟨c, cs, hname, hc, hcs⟩ := h
  constructor
  · rintro rfl
    cases hname
  · intro d hd
    rw [hname] at hd
    rcases List.mem_cons.1 hd with rfl | hd
    · exact endsWord_of_continuesName (Word.continuesName_of_startsName hc)
    · exact endsWord_of_continuesName (hcs d hd)

section

variable {name back cs : List Char} {before : Option Char} {c : Char}

/-- Where the name occurs, the search notes whether it stands alone, and goes on behind it. -/
theorem mentionsFrom_append (hname : name ≠ []) (back : List Char) :
    mentionsFrom name before (name ++ back) =
      (isWordEdge before && isWordEdge back.head? || mentionsFrom name name.getLast? back) := by
  obtain ⟨c, cs, rfl⟩ := List.exists_cons_of_ne_nil hname
  rw [List.cons_append, mentionsFrom, if_pos (by simp)]
  simp

theorem mentionsFrom_cons (h : ¬ name <+: c :: cs) :
    mentionsFrom name before (c :: cs) = mentionsFrom name (some c) cs := by
  rw [mentionsFrom, if_neg (by simpa using h)]

/-- What the search finds: the name between two edges of words, with `before` in front of the
text. -/
def Found (name : List Char) (before : Option Char) (cs : List Char) : Prop :=
  ∃ front back, cs = front ++ (name ++ back) ∧ isWordEdge (front.getLast?.or before) ∧
    isWordEdge back.head?

/-- What stands in front of the text no longer counts behind something. -/
theorem getLast?_or_of_append (hname : name ≠ []) (front : List Char) :
    (name ++ front).getLast?.or before = front.getLast?.or name.getLast? := by
  rw [List.getLast?_append, Option.or_assoc]
  congr 1
  rw [List.getLast?_eq_some_getLast hname, Option.some_or]

theorem Found.behind {passed : List Char} (hpassed : passed ≠ [])
    (h : Found name passed.getLast? cs) : Found name before (passed ++ cs) := by
  obtain ⟨front, back, rfl, hfront, hback⟩ := h
  refine ⟨passed ++ front, back, by simp, ?_, hback⟩
  rwa [getLast?_or_of_append hpassed]

/-- A whole word does not overlap with an occurrence further left, so the search may go on behind
that one. -/
theorem found_append_iff (hname : name ≠ []) (hword : ∀ c ∈ name, endsWord c = false) :
    Found name before (name ++ back) ↔
      isWordEdge before ∧ isWordEdge back.head? ∨ Found name name.getLast? back := by
  constructor
  · rintro ⟨front, back', heq, hfront, hback⟩
    rcases List.append_eq_append_iff.1 heq with ⟨more, rfl, hmore⟩ | ⟨more, hoverlap, hmore⟩
    · right
      refine ⟨more, back', hmore, ?_, hback⟩
      rwa [getLast?_or_of_append hname] at hfront
    · rcases List.eq_nil_or_concat front with rfl | ⟨front, c, rfl⟩
      · left
        obtain rfl : back = back' := List.append_cancel_left heq
        exact ⟨hfront, hback⟩
      · -- The occurrence starts inside the name further left, and so behind a character of it.
        have hc : endsWord c = false := hword c (by simp [hoverlap])
        have hedge : endsWord c := by simpa [endsWord] using hfront
        rw [hc] at hedge
        contradiction
  · rintro (⟨hbefore, hback⟩ | h)
    · exact ⟨[], back, rfl, hbefore, hback⟩
    · exact h.behind hname

theorem found_cons_iff (h : ¬ name <+: c :: cs) :
    Found name before (c :: cs) ↔ Found name (some c) cs := by
  constructor
  · rintro ⟨front, back, heq, hfront, hback⟩
    cases front with
    | nil => exact absurd ⟨back, heq.symm⟩ h
    | cons d front =>
      obtain ⟨rfl, rfl⟩ := List.cons.inj heq
      refine ⟨front, back, rfl, ?_, hback⟩
      rw [← List.singleton_append, getLast?_or_of_append (List.cons_ne_nil c [])] at hfront
      exact hfront
  · exact fun h => Found.behind (List.cons_ne_nil c []) h

theorem not_found_nil (hname : name ≠ []) : ¬ Found name before [] := by
  rintro ⟨front, back, heq, -, -⟩
  have hall : front = [] ∧ name = [] ∧ back = [] := by simpa using heq
  exact hname hall.2.1

theorem mentionsFrom_iff (hname : name ≠ []) (hword : ∀ c ∈ name, endsWord c = false)
    (before : Option Char) (cs : List Char) :
    mentionsFrom name before cs ↔ Found name before cs := by
  by_cases h : name <+: cs
  · obtain ⟨back, hback⟩ := h
    have hmore := mentionsFrom_iff hname hword name.getLast? back
    rw [← hback, mentionsFrom_append hname, found_append_iff hname hword, Bool.or_eq_true,
      Bool.and_eq_true, hmore]
  · cases cs with
    | nil => simp [mentionsFrom, hname, not_found_nil hname]
    | cons c cs =>
      rw [mentionsFrom_cons h, found_cons_iff h]
      exact mentionsFrom_iff hname hword (some c) cs
termination_by cs.length
decreasing_by
  · have hpos := List.length_pos_iff.2 hname
    rw [← hback, List.length_append]
    omega
  · simp

/-- The search finds the names that stand in a text as whole words. -/
theorem mentions_iff {text name : String} (hname : name ≠ "")
    (hword : ∀ c ∈ name.toList, endsWord c = false) :
    mentions text name ↔ StandsIn endsWord name.toList text.toList := by
  unfold mentions
  rw [mentionsFrom_iff (by simpa using hname) hword none]
  simp only [Found, StandsIn, Option.or_none, isWordEdge_iff]

end

theorem standsIn_beforeClosing {cs inside : List Char}
    (h : Reference.beforeClosing cs = some inside) : StandsIn endsWord inside cs := by
  unfold Reference.beforeClosing at h
  split at h
  · rename_i front hreverse
    cases h
    have htrimmed : trimEnd cs = front.reverse ++ [')'] := by
      rw [← List.reverse_reverse (trimEnd cs), hreverse, List.reverse_cons]
    have hinside : StandsIn endsWord front.reverse (trimEnd cs) := by
      rw [htrimmed]
      exact (StandsIn.refl _).before_edge (by decide) []
    exact hinside.trans (standsIn_trimEnd (fun _ => endsWord_of_isSpace) cs)
  · contradiction

theorem standsIn_argumentTexts {cs : List Char} {argument : String}
    (h : argument ∈ Reference.argumentTexts cs) : StandsIn endsWord argument.toList cs := by
  unfold Reference.argumentTexts at h
  split at h
  · cases h
  · obtain ⟨part, hpart, rfl⟩ := List.mem_map.1 h
    rw [String.toList_ofList]
    have htrim : StandsIn endsWord (Text.trim part) part :=
      standsIn_trim (fun _ => endsWord_of_isSpace) part
    exact htrim.trans (standsIn_splitTopLevel (by decide) hpart)

theorem arguments_of_ofName {cs : List Char} {arguments : Option (List String)} {r : Reference}
    (h : Reference.ofName cs arguments = .ok r) : r.arguments = arguments := by
  unfold Reference.ofName at h
  split at h
  · cases h
    rfl
  · cases h

/-- Arguments are what stands in the brackets of a reference. -/
theorem arguments_of_ofTrimmed {cs : List Char} {r : Reference}
    (h : Reference.ofTrimmed cs = .ok r) : r.arguments = none ∨
      ∃ name rest inside, cs = name ++ '(' :: rest ∧
        Reference.beforeClosing rest = some inside ∧
          r.arguments = some (Reference.argumentTexts inside) := by
  have hsplit : cs.takeWhile (fun c => c != '(') ++ cs.dropWhile (fun c => c != '(') = cs :=
    List.takeWhile_append_dropWhile
  have hopening := List.head?_dropWhile_not (fun c => c != '(') cs
  unfold Reference.ofTrimmed at h
  dsimp only at h
  split at h
  · exact .inl (arguments_of_ofName h)
  · rename_i c rest hrest
    rw [hrest] at hsplit hopening
    obtain rfl : c = '(' := by simpa using hopening
    split at h
    · cases h
    · split at h
      · cases h
      · rename_i inside hinside
        exact .inr ⟨_, rest, inside, hsplit.symm, hinside, arguments_of_ofName h⟩

/-- The arguments of a reference stand between its brackets and commas. -/
theorem standsIn_reference {text : String} {r : Reference} (h : Reference.parse text = .ok r)
    {argument : String} (hargument : argument ∈ r.arguments.getD []) :
    StandsIn endsWord argument.toList text.toList := by
  have htrim : StandsIn endsWord (Text.trim text.toList) text.toList :=
    standsIn_trim (fun _ => endsWord_of_isSpace) text.toList
  refine StandsIn.trans ?_ htrim
  -- The white space around a reference, its brackets and its commas are all edges of words.
  rcases arguments_of_ofTrimmed h with hnone | ⟨name, rest, inside, hcs, hinside, hsome⟩
  · rw [hnone] at hargument
    cases hargument
  · rw [hsome] at hargument
    rw [hcs]
    have hstands := (standsIn_argumentTexts hargument).trans (standsIn_beforeClosing hinside)
    exact hstands.behind_edge name (by decide)

/-- The text of an island, without the brackets of a reference. -/
def islandText : Island → String
  | .expression text => text
  | .reference text => text

theorem standsIn_islandText {i : Island} {text : String} (h : text ∈ i.expressions) :
    StandsIn endsWord text.toList (islandText i).toList := by
  cases i with
  | expression inner =>
    obtain rfl := List.mem_singleton.1 h
    exact .refl _
  | reference inner =>
    rw [Island.expressions] at h
    split at h
    · rename_i r hparse
      exact standsIn_reference hparse h
    · cases h

theorem standsIn_ofBody (body : List Char) :
    StandsIn endsWord (islandText (Island.ofBody body)).toList body := by
  unfold Island.ofBody
  split
  · rename_i rest
    split
    · rename_i inner hreverse
      have hrest : rest = inner.reverse ++ [']'] := by
        rw [← List.reverse_reverse rest, hreverse, List.reverse_cons]
      rw [islandText, String.toList_ofList, hrest]
      exact (StandsIn.refl _).enclosed [] (by decide) (by decide)
    · rw [islandText, String.toList_ofList]
      exact .refl _
  · rw [islandText, String.toList_ofList]
    exact .refl _

theorem standsIn_ofBlock {cs body : List Char} (h : .island body ∈ BlockPart.ofBlock cs) :
    StandsIn endsWord body cs := by
  obtain ⟨front, back, hparts⟩ := List.append_of_mem h
  have hsource := BlockPart.flatMap_source_ofBlock cs
  rw [hparts, List.flatMap_append, List.flatMap_cons, BlockPart.source] at hsource
  have hbehind : StandsIn endsWord body (body ++ '\x7d' :: back.flatMap BlockPart.source) :=
    (StandsIn.refl body).before_edge (by decide) _
  have hopening : endsWord '\x7b' := by decide
  have hstands := hbehind.behind_edge (front.flatMap BlockPart.source ++ ['@']) hopening
  rw [← hsource]
  simpa using hstands

theorem standsIn_segment {s : Segment} {i : Island} (hi : i ∈ s.islands) :
    StandsIn endsWord (islandText i).toList s.inner.toList := by
  cases s with
  | text raw => cases hi
  | expression raw | reference raw =>
    obtain rfl := List.mem_singleton.1 hi
    exact .refl _
  | block raw =>
    rw [Segment.islands_block] at hi
    obtain ⟨part, hpart, hisland⟩ := List.mem_filterMap.1 hi
    cases part with
    | char c => cases hisland
    | island body =>
      cases hisland
      exact (standsIn_ofBody body).trans (standsIn_ofBlock hpart)

/-- Texts that are each followed by a space stand between edges. -/
theorem standsIn_join {pieces : List String} {piece : String} (h : piece ∈ pieces) :
    StandsIn endsWord piece.toList (String.join (pieces.map (· ++ " "))).toList := by
  induction pieces with
  | nil => cases h
  | cons first pieces ih =>
    have hspace : " ".toList = [' '] := rfl
    rw [List.map_cons, String.join_cons, String.toList_append, String.toList_append, hspace,
      List.append_assoc]
    rcases List.mem_cons.1 h with rfl | h
    · exact (StandsIn.refl _).before_edge (by decide) _
    · exact (ih h).behind_edge first.toList (by decide)

/-- A test that is not empty is a condition. -/
theorem mem_conditions {b : Body} {text : String} (h : text ∈ b.tests) (hne : text ≠ "") :
    text ∈ b.conditions := by
  cases b with
  | choice lines => cases h
  | conditional cases otherwise =>
    obtain ⟨clause, hclause, rfl⟩ := List.mem_map.1 h
    refine List.mem_filterMap.2 ⟨clause, hclause, ?_⟩
    unfold Clause.test at hne ⊢
    cases hcondition : clause.condition with
    | none => simp [hcondition] at hne
    | some condition => rfl

theorem standsIn_mentionedText {t : Template} {text : String} (htext : text ∈ t.expressions)
    (hne : text ≠ "") : StandsIn endsWord text.toList (mentionedText t).toList := by
  rcases List.mem_append.1 htext with htest | hline
  · exact standsIn_join (List.mem_append_left _ (mem_conditions htest hne))
  · obtain ⟨line, hline, htext⟩ := List.mem_flatMap.1 hline
    obtain ⟨i, hi, htext⟩ := List.mem_flatMap.1 htext
    obtain ⟨s, hs, hi⟩ := List.mem_flatMap.1 hi
    refine .trans (standsIn_islandText htext) (.trans (standsIn_segment hi) (standsIn_join ?_))
    refine List.mem_append_right _ (List.mem_flatMap.2 ⟨line, hline, ?_⟩)
    refine List.mem_filterMap.2 ⟨s, hs, ?_⟩
    cases s with
    | text raw => cases hi
    | _ => rfl

end Check

namespace Template

/-- Whatever a template looks up it mentions. -/
theorem mentions_of_lookups {t : Template} {x : String} (hx : x ∈ t.lookups) :
    Check.mentions (Check.mentionedText t) x := by
  obtain ⟨text, htext, hx⟩ := List.mem_flatMap.1 hx
  obtain ⟨e, he, hx⟩ := Expr.of_mem_lookups hx
  have hne : text ≠ "" := by
    rintro rfl
    cases he
  have hname := (Expr.isName_of_read he hx).1
  obtain ⟨hfirst, hword⟩ := Check.endsWord_of_isName hname
  apply (Check.mentions_iff hfirst hword).2
  exact ((Expr.standsIn_of_read he hx).mono fun _ => Check.endsWord_of_separates).trans
    (Check.standsIn_mentionedText htext hne)

end Template

end Phrasebook
