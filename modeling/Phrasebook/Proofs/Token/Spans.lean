import Phrasebook.Proofs.Expression.Extent
import Phrasebook.Proofs.Token.Step
import Phrasebook.Reference
import Phrasebook.Template

namespace Phrasebook

namespace Text

theorem mem_splitOn {separator c : Char} {cs : List Char} (h : c ∈ cs) :
    c = separator ∨ ∃ part ∈ splitOn separator cs, c ∈ part := by
  induction cs with
  | nil => contradiction
  | cons d cs ih =>
    rw [splitOn]
    by_cases hd : d = separator
    · rw [if_pos hd]
      rcases List.mem_cons.1 h with rfl | h
      · exact .inl hd
      · rcases ih h with hc | ⟨part, hpart, hc⟩
        · exact .inl hc
        · exact .inr ⟨part, List.mem_cons_of_mem _ hpart, hc⟩
    · rw [if_neg hd]
      generalize splitOn separator cs = parts at ih
      cases parts with
      | nil =>
        rcases List.mem_cons.1 h with rfl | h
        · exact .inr ⟨[c], List.mem_cons_self, List.mem_cons_self⟩
        · rcases ih h with hc | ⟨part, hpart, -⟩
          · exact .inl hc
          · contradiction
      | cons first parts =>
        rcases List.mem_cons.1 h with rfl | h
        · exact .inr ⟨c :: first, List.mem_cons_self, List.mem_cons_self⟩
        · rcases ih h with hc | ⟨part, hpart, hc⟩
          · exact .inl hc
          · rcases List.mem_cons.1 hpart with rfl | hpart
            · exact .inr ⟨d :: part, List.mem_cons_self, List.mem_cons_of_mem _ hc⟩
            · exact .inr ⟨part, List.mem_cons_of_mem _ hpart, hc⟩

theorem mem_dropWhile {p : Char → Bool} {c : Char} {cs : List Char} (hc : c ∈ cs)
    (hp : p c = false) : c ∈ cs.dropWhile p := by
  rw [← List.takeWhile_append_dropWhile (p := p) (l := cs), List.mem_append] at hc
  rcases hc with hc | hc
  · have hall := List.all_eq_true.1 List.all_takeWhile c hc
    rw [hp] at hall
    contradiction
  · exact hc

theorem mem_trim {c : Char} {cs : List Char} (hc : c ∈ cs) (hspace : isSpace c = false) :
    c ∈ trim cs := by
  unfold trim trimEnd trimStart
  rw [List.mem_reverse]
  refine mem_dropWhile ?_ hspace
  rw [List.mem_reverse]
  exact mem_dropWhile hc hspace

theorem mem_intercalate {c : Char} {parts : List (List Char)} (h : c ∈ [','].intercalate parts) :
    c = ',' ∨ ∃ part ∈ parts, c ∈ part := by
  induction parts with
  | nil => contradiction
  | cons part parts ih =>
    cases parts with
    | nil =>
      rw [List.intercalate_singleton] at h
      exact .inr ⟨part, List.mem_cons_self, h⟩
    | cons part' parts =>
      rw [List.intercalate_cons_cons, List.mem_append, List.mem_append] at h
      rcases h with (h | h) | h
      · exact .inr ⟨part, List.mem_cons_self, h⟩
      · exact .inl (by simpa using h)
      · rcases ih h with hc | ⟨part, hpart, hc⟩
        · exact .inl hc
        · exact .inr ⟨part, List.mem_cons_of_mem _ hpart, hc⟩

theorem mem_intercalate_head {c : Char} {part : List Char} {parts : List (List Char)}
    (h : c ∈ part) : c ∈ [','].intercalate (part :: parts) := by
  cases parts with
  | nil =>
    rw [List.intercalate_singleton]
    exact h
  | cons part' parts =>
    rw [List.intercalate_cons_cons, List.append_assoc]
    exact List.mem_append_left _ h

theorem balanced_intercalate {parts : List (List Char)} (h : ∀ part ∈ parts, Balanced false part) :
    Balanced true ([','].intercalate parts) := by
  induction parts with
  | nil => exact .nil
  | cons part parts ih =>
    rw [List.forall_mem_cons] at h
    cases parts with
    | nil =>
      rw [List.intercalate_singleton]
      exact h.1.with_commas
    | cons part' parts =>
      rw [List.intercalate_cons_cons, List.append_assoc]
      exact h.1.with_commas.append (balanced_comma (ih h.2))

end Text

namespace Name

/-- The characters of a template's name. -/
def IsNameChar (c : Char) : Prop := c = '.' ∨ c = '-' ∨ Expr.continuesName c

theorem isNameChar_of_mem {cs : List Char} (h : isTemplateNameChars cs) :
    ∀ c ∈ cs, IsNameChar c := by
  intro c hc
  have hsplit : c = '.' ∨ ∃ part ∈ Text.splitOn '.' cs, c ∈ part := Text.mem_splitOn hc
  rcases hsplit with hdot | ⟨part, hpart, hc⟩
  · exact .inl hdot
  have hpart : isIdentifierChars part = true := List.all_eq_true.1 h part hpart
  cases part with
  | nil => contradiction
  | cons d ds =>
    rw [isIdentifierChars, Bool.and_eq_true, List.all_eq_true] at hpart
    have hcontinues : continuesIdentifier c = true := by
      rcases List.mem_cons.1 hc with rfl | hc
      · have hstarts := hpart.1
        simp only [startsIdentifier, Bool.or_eq_true] at hstarts
        simp only [continuesIdentifier, Bool.or_eq_true]
        exact .inl hstarts
      · exact hpart.2 c hc
    simp only [continuesIdentifier, Bool.or_eq_true, decide_eq_true_eq] at hcontinues
    rcases hcontinues with hcontinues | hhyphen
    · refine .inr (.inr ?_)
      simpa [Expr.continuesName] using hcontinues
    · exact .inr (.inl hhyphen)

theorem ne_nil_of_isTemplateNameChars {cs : List Char} (h : isTemplateNameChars cs) : cs ≠ [] := by
  rintro rfl
  contradiction

theorem IsNameChar.plain {c : Char} (h : IsNameChar c) :
    (Text.isNestingMark c = false ∧ c ≠ ',') ∧ Text.isSpace c = false := by
  rcases h with rfl | rfl | h
  · decide
  · decide
  · exact ⟨Word.isNestingMark_of_continuesName h, Expr.isSpace_of_continuesName h⟩

end Name

theorem Text.isLineEnd_of_not_isSpace {c : Char} (h : isSpace c = false) : isLineEnd c = false := by
  cases hend : isLineEnd c with
  | false => rfl
  | true =>
    have hspace : isSpace c = true := isSpace_of_isGap (by simp [isGap, hend])
    rw [h] at hspace
    contradiction

namespace Reference

open Text

theorem trim_solid {c : Char} {cs : List Char} (hc : isSpace c = false)
    (hends : Expr.EndsSolid (c :: cs)) : trim (c :: cs) = c :: cs := by
  have htrim : trim ([] ++ c :: cs ++ []) = c :: cs :=
    Expr.trim_between (by simp) (by simp) rfl hc hends
  simpa using htrim

theorem beforeClosing_close (inside : List Char) :
    beforeClosing (inside ++ [')']) = some inside := by
  have htrim : trimEnd (inside ++ [')']) = inside ++ [')'] := by
    rw [trimEnd, List.reverse_append, List.reverse_singleton, List.singleton_append,
      List.dropWhile_cons_of_neg (by decide)]
    simp
  unfold beforeClosing
  rw [htrim, List.reverse_append, List.reverse_singleton, List.singleton_append]
  simp

theorem parse_call {name inside : List Char} (hname : Name.isTemplateNameChars name) :
    parse (String.ofList (name ++ '(' :: (inside ++ [')']))) =
      .ok ⟨String.ofList name, some (argumentTexts inside)⟩ := by
  have hchars := Name.isNameChar_of_mem hname
  have hne : ∀ c ∈ name, (c != '(') = true := by
    intro c hc
    have hmark := (hchars c hc).plain.1.1
    rw [bne_iff_ne]
    rintro rfl
    contradiction
  have htake : (name ++ '(' :: (inside ++ [')'])).takeWhile (fun c => c != '(') = name := by
    rw [List.takeWhile_append_of_pos hne, List.takeWhile_cons_of_neg (by decide), List.append_nil]
  have hdrop : (name ++ '(' :: (inside ++ [')'])).dropWhile (fun c => c != '(') =
      '(' :: (inside ++ [')']) := by
    rw [List.dropWhile_append_of_pos hne, List.dropWhile_cons_of_neg (by decide)]
  obtain ⟨c, cs, rfl⟩ := List.exists_cons_of_ne_nil (Name.ne_nil_of_isTemplateNameChars hname)
  have hc : isSpace c = false := (hchars c List.mem_cons_self).plain.2
  have hname' : trim (c :: cs) = c :: cs := by
    have hlast := (hchars _ (List.getLast_mem (List.cons_ne_nil c cs))).plain.2
    exact trim_solid hc ⟨_, _, (List.dropLast_concat_getLast (List.cons_ne_nil c cs)).symm, hlast⟩
  have htext : trim (c :: cs ++ '(' :: (inside ++ [')'])) = c :: cs ++ '(' :: (inside ++ [')']) :=
    trim_solid hc ⟨c :: cs ++ '(' :: inside, ')', by simp, rfl⟩
  unfold parse ofTrimmed
  rw [String.toList_ofList, htext, htake, hdrop]
  simp [hname', ofName, hname, beforeClosing_close]

theorem argumentTexts_intercalate {arguments : List (List Char)} (hne : arguments ≠ [])
    (h : ∀ e ∈ arguments, Balanced false e ∧ ∃ c ∈ e, isSpace c = false) :
    argumentTexts ([','].intercalate arguments) =
      arguments.map fun e => String.ofList (trim e) := by
  have hsome : trim ([','].intercalate arguments) ≠ [] := by
    obtain ⟨e, es, rfl⟩ := List.exists_cons_of_ne_nil hne
    obtain ⟨-, c, hc, hspace⟩ := h e List.mem_cons_self
    exact List.ne_nil_of_mem (mem_trim (mem_intercalate_head hc) hspace)
  rw [argumentTexts, if_neg hsome, splitTopLevel_intercalate hne fun e he => (h e he).1]

end Reference

/-- Delimiters of the right width are what is taken off. -/
theorem Segment.stripDelimiters_between {front back : List Char} {width : Nat}
    (hfront : Text.byteLength front = width) (hback : Text.byteLength back = width)
    (inside : List Char) :
    stripDelimiters width (String.ofList (front ++ (inside ++ back))) = String.ofList inside := by
  unfold stripDelimiters
  have hdrop : Text.dropBytes width (front ++ (inside ++ back)) = some (inside ++ back) := by
    rw [← hfront]
    exact Text.dropBytes_append front (inside ++ back)
  have hdropEnd : Text.dropBytesEnd width (inside ++ back) = some inside := by
    rw [← hback]
    exact Text.dropBytesEnd_append inside back
  rw [String.toList_ofList, hdrop, Option.bind_some, hdropEnd]

theorem Segment.stripDelimiters_enclosed {opening closing : Char} (hopening : opening.utf8Size = 1)
    (hclosing : closing.utf8Size = 1) (inside : List Char) :
    stripDelimiters 1 (String.ofList (opening :: (inside ++ [closing]))) =
      String.ofList inside := by
  have hfront : Text.byteLength [opening] = 1 := by simp [hopening]
  have hback : Text.byteLength [closing] = 1 := by simp [hclosing]
  exact stripDelimiters_between hfront hback inside

namespace Token

open Text

/-- In front of a line's content the character opens a span, which is taken whole. -/
structure Opens (kind : TokenKind) (opening closing : Char) : Prop where
  pair : (opening, closing) ∈ pairs
  blank : isBlank opening = false
  step (cs : List Char) : step (.line true true) opening cs =
    wholeSpan kind (closingAfter opening closing 0 .outside cs)

theorem opens_expression : Opens .expression '\x7b' '\x7d' where
  pair := by decide
  blank := rfl
  step cs := by simp [step, stepLine, isBlank, newlineMore, keyword?, stepContent, fence]

theorem opens_reference : Opens .reference '[' ']' where
  pair := by decide
  blank := rfl
  step cs := by simp [step, stepLine, isBlank, newlineMore, keyword?, stepContent, fence]

/-- Wherever the line stands, it is a dash and a token of the kind with the text, and the scanner
goes on behind it inside the line. -/
def IsSpanLine (line : String) (kind : TokenKind) (text : String) : Prop :=
  ∀ (p : Position) (rest : List Char), scan .between p (line.toList ++ rest) =
    (scan (.line false false) (p.after line.toList) rest).map fun ts =>
      ⟨.dash, "-", .ofPosition p 1⟩ ::
        ⟨kind, text, .ofPosition (p.after ['-', ' ']) (byteLength text.toList)⟩ :: ts

/-- Behind the dash of a line the blank is dropped and its content starts. -/
theorem scan_dash {c : Char} (hc : isBlank c = false) (p : Position) (cs : List Char) :
    scan .between p ('-' :: ' ' :: c :: cs) =
      (scan (.line true true) (p.after ['-', ' ']) (c :: cs)).map
        (⟨.dash, "-", .ofPosition p 1⟩ :: ·) := by
  have hdash : step .between '-' (' ' :: c :: cs) = .ok ⟨.token .dash, 0, .line true true⟩ := rfl
  have hrun : runLength isBlank (c :: cs) = 0 := by simp [runLength, hc]
  have hblank : step (.line true true) ' ' (c :: cs) = .ok ⟨.nothing, 0, .line true true⟩ := by
    rw [← hrun]
    rfl
  rw [scan_of_token hdash, List.drop_zero, List.take_zero, scan_of_nothing hblank, List.drop_zero,
    List.take_zero]
  rfl

/-- One step that takes the same characters whatever stands behind them makes a line of a span. -/
theorem isSpanLine_of_step {kind : TokenKind} {c : Char} {cs : List Char} (hc : isBlank c = false)
    (h : ∀ rest, step (.line true true) c (cs ++ rest) =
      .ok ⟨.token kind, cs.length, .line false false⟩) :
    IsSpanLine (String.ofList ('-' :: ' ' :: c :: cs)) kind (String.ofList (c :: cs)) := by
  intro p rest
  have hbehind : (p.after ['-', ' ']).after (c :: cs) = p.after ('-' :: ' ' :: c :: cs) := rfl
  rw [String.toList_ofList, String.toList_ofList, List.cons_append, List.cons_append,
    List.cons_append, scan_dash hc, scan_of_token (h rest), List.take_left, List.drop_left, hbehind]
  cases scan (.line false false) (p.after ('-' :: ' ' :: c :: cs)) rest <;> rfl

theorem isSpanLine_of_closing {kind : TokenKind} {opening closing : Char} {inside : List Char}
    (hopens : Opens kind opening closing)
    (h : closingAfter opening closing 0 .outside (inside ++ [closing]) = some (inside.length + 1)) :
    IsSpanLine (String.ofList ('-' :: ' ' :: opening :: (inside ++ [closing]))) kind
      (String.ofList (opening :: (inside ++ [closing]))) := by
  refine isSpanLine_of_step hopens.blank fun rest => ?_
  rw [hopens.step, closingAfter_append h, List.length_append]
  rfl

theorem braced_eq (e : String) :
    "\x7b" ++ e ++ "\x7d" = String.ofList ('\x7b' :: (e.toList ++ ['\x7d'])) :=
  String.toList_inj.1 (by simp)

theorem bracketed_eq (text : String) :
    "[" ++ text ++ "]" = String.ofList ('[' :: (text.toList ++ [']'])) :=
  String.toList_inj.1 (by simp)

theorem isSpanLine_expression {e : String} {tree : Expr} (h : Expr.read e.toList = .ok tree)
    (hline : ∀ c ∈ e.toList, isLineEnd c = false) :
    IsSpanLine ("- \x7b" ++ e ++ "\x7d") .expression ("\x7b" ++ e ++ "\x7d") := by
  have hspan := isSpanLine_of_closing opens_expression
    ((Expr.balanced_of_read h).closingAfter_eq opens_expression.pair hline)
  have hsource : String.ofList ('-' :: ' ' :: '\x7b' :: (e.toList ++ ['\x7d'])) =
      "- \x7b" ++ e ++ "\x7d" :=
    String.toList_inj.1 (by simp)
  rwa [← braced_eq, hsource] at hspan

theorem inner_expression (e : String) : (Segment.expression ("\x7b" ++ e ++ "\x7d")).inner = e := by
  rw [Segment.inner, braced_eq, Segment.stripDelimiters_enclosed rfl rfl, String.ofList_toList]

theorem isSpanLine_of_closing_reference {text : String}
    (h : closingAfter '[' ']' 0 .outside (text.toList ++ [']']) = some (text.toList.length + 1)) :
    IsSpanLine ("- [" ++ text ++ "]") .reference ("[" ++ text ++ "]") := by
  have hspan := isSpanLine_of_closing opens_reference h
  have hsource : String.ofList ('-' :: ' ' :: '[' :: (text.toList ++ [']'])) =
      "- [" ++ text ++ "]" :=
    String.toList_inj.1 (by simp)
  rwa [← bracketed_eq, hsource] at hspan

/-- An argument of a reference: a text on one line that is read as an expression. -/
def IsArgument (e : String) : Prop :=
  (∃ tree, Expr.read e.toList = .ok tree) ∧ ∀ c ∈ e.toList, isLineEnd c = false

theorem balanced_call {name : List Char} {arguments : List (List Char)}
    (hname : Name.isTemplateNameChars name) (h : ∀ e ∈ arguments, Balanced false e) :
    Balanced false (name ++ '(' :: ([','].intercalate arguments ++ [')'])) := by
  have hplain : Balanced false name :=
    balanced_of_plain fun c hc => (Name.isNameChar_of_mem hname c hc).plain.1
  exact hplain.append (.enclosed (by decide) (balanced_intercalate h) .nil)

theorem isLineEnd_call {name : List Char} {arguments : List (List Char)}
    (hname : Name.isTemplateNameChars name)
    (h : ∀ e ∈ arguments, ∀ c ∈ e, isLineEnd c = false) :
    ∀ c ∈ name ++ '(' :: ([','].intercalate arguments ++ [')']), isLineEnd c = false := by
  intro c hc
  rw [List.mem_append, List.mem_cons, List.mem_append, List.mem_singleton] at hc
  rcases hc with hc | rfl | hc | rfl
  · exact isLineEnd_of_not_isSpace (Name.isNameChar_of_mem hname c hc).plain.2
  · rfl
  · rcases mem_intercalate hc with rfl | ⟨e, he, hc⟩
    · rfl
    · exact h e he c hc
  · rfl

/-- The text of a reference with arguments, without the brackets around it. -/
def callText (name : String) (arguments : List String) : String :=
  name ++ "(" ++ ",".intercalate arguments ++ ")"

theorem toList_callText (name : String) (arguments : List String) :
    (callText name arguments).toList =
      name.toList ++ '(' :: ([','].intercalate (arguments.map String.toList) ++ [')']) := by
  simp [callText, String.toList_intercalate]

theorem isSpanLine_reference {name : String} {arguments : List String}
    (hname : Name.isTemplateName name) (h : ∀ e ∈ arguments, IsArgument e) :
    IsSpanLine ("- [" ++ callText name arguments ++ "]") .reference
      ("[" ++ callText name arguments ++ "]") := by
  have hbalanced : ∀ e ∈ arguments.map String.toList, Balanced false e := by
    intro cs hcs
    obtain ⟨e, he, rfl⟩ := List.mem_map.1 hcs
    obtain ⟨⟨tree, htree⟩, -⟩ := h e he
    exact Expr.balanced_of_read htree
  have hline : ∀ cs ∈ arguments.map String.toList, ∀ c ∈ cs, isLineEnd c = false := by
    intro cs hcs
    obtain ⟨e, he, rfl⟩ := List.mem_map.1 hcs
    exact (h e he).2
  apply isSpanLine_of_closing_reference
  rw [toList_callText]
  exact (balanced_call hname hbalanced).closingAfter_eq opens_reference.pair
    (isLineEnd_call hname hline)

theorem inner_reference (text : String) :
    (Segment.reference ("[" ++ text ++ "]")).inner = text := by
  rw [Segment.inner, bracketed_eq, Segment.stripDelimiters_enclosed rfl rfl, String.ofList_toList]

theorem parse_callText {name : String} {arguments : List String} (hname : Name.isTemplateName name)
    (hne : arguments ≠ []) (h : ∀ e ∈ arguments, IsArgument e) :
    Reference.parse (callText name arguments) =
      .ok ⟨name, some (arguments.map fun e => String.ofList (trim e.toList))⟩ := by
  have htexts : ∀ cs ∈ arguments.map String.toList,
      Balanced false cs ∧ ∃ c ∈ cs, isSpace c = false := by
    intro cs hcs
    obtain ⟨e, he, rfl⟩ := List.mem_map.1 hcs
    obtain ⟨⟨tree, htree⟩, -⟩ := h e he
    exact ⟨Expr.balanced_of_read htree, (Expr.trim_of_read htree).2.1⟩
  have hne' : arguments.map String.toList ≠ [] := by simpa using hne
  have htext : callText name arguments = String.ofList
      (name.toList ++ '(' :: ([','].intercalate (arguments.map String.toList) ++ [')'])) := by
    rw [← toList_callText, String.ofList_toList]
  rw [htext, Reference.parse_call hname, Reference.argumentTexts_intercalate hne' htexts,
    String.ofList_toList, List.map_map]
  rfl

theorem isBlank_of_mem {gap cs : List Char} (hgap : ∀ c ∈ gap, isGap c) (hsubset : gap ⊆ cs)
    (hline : ∀ c ∈ cs, isLineEnd c = false) : ∀ c ∈ gap, isBlank c := by
  intro c hc
  have hc' := hgap c hc
  rw [isGap, hline c (hsubset hc), Bool.or_false] at hc'
  exact hc'

/-- Trimming takes the blanks around an argument off, and it is still read as the same. -/
theorem trim_argument {e : String} (h : IsArgument e) :
    (∃ gap gap', e.toList = gap ++ trim e.toList ++ gap' ∧ (∀ c ∈ gap, isBlank c) ∧
      ∀ c ∈ gap', isBlank c) ∧ Expr.read (trim e.toList) = Expr.read e.toList := by
  obtain ⟨⟨tree, htree⟩, hline⟩ := h
  obtain ⟨⟨gap, gap', hsplit, hgap, hgap'⟩, -, hread⟩ := Expr.trim_of_read htree
  have hsubset : gap ⊆ e.toList := by
    intro c hc
    rw [hsplit]
    simp [hc]
  have hsubset' : gap' ⊆ e.toList := by
    intro c hc
    rw [hsplit]
    simp [hc]
  refine ⟨⟨gap, gap', hsplit, ?_, ?_⟩, hread.trans htree.symm⟩
  · exact isBlank_of_mem hgap hsubset hline
  · exact isBlank_of_mem hgap' hsubset' hline

/-- The scanner, the reader of expressions and the reader of references agree on where an expression
on one line ends, by itself or as one of the arguments of a reference. -/
theorem spans_agree :
    (∀ (e : String) (tree : Expr), Expr.read e.toList = .ok tree →
      (∀ c ∈ e.toList, isLineEnd c = false) →
      IsSpanLine ("- \x7b" ++ e ++ "\x7d") .expression ("\x7b" ++ e ++ "\x7d") ∧
        (Segment.expression ("\x7b" ++ e ++ "\x7d")).inner = e) ∧
    ∀ (name : String) (arguments : List String), Name.isTemplateName name → arguments ≠ [] →
      (∀ e ∈ arguments, IsArgument e) →
      IsSpanLine ("- [" ++ callText name arguments ++ "]") .reference
          ("[" ++ callText name arguments ++ "]") ∧
        Reference.parse (Segment.reference ("[" ++ callText name arguments ++ "]")).inner =
          .ok ⟨name, some (arguments.map fun e => String.ofList (trim e.toList))⟩ ∧
        ∀ e ∈ arguments, (∃ gap gap', e.toList = gap ++ trim e.toList ++ gap' ∧
          (∀ c ∈ gap, isBlank c) ∧ ∀ c ∈ gap', isBlank c) ∧
          Expr.read (trim e.toList) = Expr.read e.toList := by
  constructor
  · intro e tree h hline
    exact ⟨isSpanLine_expression h hline, inner_expression e⟩
  · intro name arguments hname hne h
    refine ⟨isSpanLine_reference hname h, ?_, fun e he => trim_argument (h e he)⟩
    rw [inner_reference]
    exact parse_callText hname hne h

theorem isArgument_of_isOk {e : String} (h : (Expr.read e.toList).isOk)
    (hline : e.toList.all (fun c => !isLineEnd c) = true) : IsArgument e := by
  refine ⟨?_, fun c hc => by simpa using List.all_eq_true.1 hline c hc⟩
  cases hread : Expr.read e.toList with
  | ok tree => exact ⟨tree, rfl⟩
  | error =>
    rw [hread] at h
    contradiction

/-- Brackets and commas in strings, and lists in calls, do not end what they stand in. -/
theorem spans_agree_on_nested :
    let call := " f([1, \"],)\"], x[0]) "
    (∀ e ∈ [call, "'\x7d'"], IsArgument e) ∧
    (ofSource ("- \x7b" ++ call ++ "\x7d")).map (fun ts => ts.map Token.kind) =
      .ok [.dash, .expression, .endOfInput] ∧
    Reference.parse (Segment.reference ("[" ++ callText "My.Name" [call, "'\x7d'"] ++ "]")).inner =
      .ok ⟨"My.Name", some ["f([1, \"],)\"], x[0])", "'\x7d'"]⟩ := by
  intro call
  have hcall : IsArgument call := isArgument_of_isOk (by decide +kernel) (by decide)
  have hbrace : IsArgument "'\x7d'" := isArgument_of_isOk (by decide +kernel) (by decide)
  have harguments : ∀ e ∈ [call, "'\x7d'"], IsArgument e :=
    List.forall_mem_cons.2 ⟨hcall, List.forall_mem_singleton.2 hbrace⟩
  obtain ⟨tree, htree⟩ := hcall.1
  have hline := (spans_agree.1 call tree htree hcall.2).1 .start []
  have hreference :=
    (spans_agree.2 "My.Name" [call, "'\x7d'"] (by decide) (by decide) harguments).2.1
  refine ⟨harguments, ?_, ?_⟩
  · rw [List.append_nil, scan] at hline
    unfold ofSource
    rw [hline]
    rfl
  · have htrim : [call, "'\x7d'"].map (fun e => String.ofList (trim e.toList)) =
        ["f([1, \"],)\"], x[0])", "'\x7d'"] := by decide +kernel
    rw [hreference, htrim]

end Token

end Phrasebook
