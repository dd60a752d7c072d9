import Mathlib.Control.Monad.Basic
import Phrasebook.Proofs.Template.Recognition
import Phrasebook.Proofs.Token.LineEnds

namespace Phrasebook

/-- The same segment of a source whose lines end with two bytes: only a block has line ends. -/
def Segment.crlf : Segment → Segment
  | .block raw => .block (String.ofList (Text.crlf raw.toList))
  | s => s

def Line.crlf (l : Line) : Line := ⟨l.segments.map Segment.crlf, l.location.crlf⟩

def Clause.crlf (c : Clause) : Clause := ⟨c.condition, c.lines.map Line.crlf, c.location.crlf⟩

def Body.crlf : Body → Body
  | .choice lines => .choice (lines.map Line.crlf)
  | .conditional cases otherwise => .conditional (cases.map Clause.crlf) otherwise.crlf

def Template.crlf (t : Template) : Template := ⟨t.name, t.parameters, t.body.crlf, t.location.crlf⟩

def SourceFile.crlf (f : SourceFile) : SourceFile := ⟨f.templates.map Template.crlf, f.sourceName⟩

namespace Token

theorem crlf_of_other {t : Token} (hnewline : t.kind ≠ .newline) (hblock : t.kind ≠ .block) :
    t.crlf = ⟨t.kind, t.text, t.location.crlf⟩ := by
  rw [crlf, if_neg (not_or.2 ⟨hnewline, hblock⟩)]

theorem peek_crlf (ts : List Token) : peek (ts.map crlf) = (peek ts).crlf := by
  cases ts <;> rfl

theorem nextKind_crlf (ts : List Token) : nextKind (ts.map crlf) = nextKind ts := by
  rw [nextKind, peek_crlf, crlf_kind, nextKind]

end Token

namespace Template

variable {α : Type}

/-- What is read, and the tokens behind it, when lines end with two bytes. -/
def onRest {β : Type} (f : α → β) : α × List Token → β × List Token :=
  Prod.map f (List.map Token.crlf)

theorem toldAlike_peek {fault fault' : ParseFault} (hmessage : fault'.message = fault.message)
    (hexpected : fault'.expected = fault.expected) (ts : List Token) :
    ParseError.ToldAlike ⟨fault, (Token.peek ts).location⟩
      ⟨fault', (Token.peek (ts.map Token.crlf)).location⟩ := by
  rw [Token.peek_crlf]
  exact ⟨hmessage, hexpected, Token.crlf_location_line _, Token.crlf_location_column _⟩

theorem refuse_crlf (ts : List Token) (wanted : List TokenKind) :
    (refuse ts wanted).ToldAlike (refuse (ts.map Token.crlf) wanted) := by
  refine toldAlike_peek ?_ ?_ ts
  · rw [Token.peek_crlf, Token.crlf_kind]
    rfl
  · rfl

theorem expect_crlf (kind : TokenKind) (ts : List Token) :
    Alike (onRest Token.crlf) (expect kind ts) (expect kind (ts.map Token.crlf)) := by
  cases ts with
  | nil => exact .error (refuse_crlf [] [kind])
  | cons t ts =>
    rw [List.map_cons, expect, expect, Token.crlf_kind]
    split
    · exact .ok (t, ts)
    · exact .error (refuse_crlf (t :: ts) [kind])

theorem kind_of_expect {kind : TokenKind} {ts : List Token} {r : Token × List Token}
    (h : expect kind ts = .ok r) : r.1.kind = kind :=
  (Rule.terminal_iff.1 (Grammar.expect_eq_ok_iff.1 h)).2

theorem atLineEnd_crlf (ts : List Token) : atLineEnd (ts.map Token.crlf) = atLineEnd ts := by
  rw [atLineEnd, Token.nextKind_crlf, atLineEnd]

theorem afterNewline_crlf (ts : List Token) :
    afterNewline (ts.map Token.crlf) = (afterNewline ts).map Token.crlf := by
  cases ts with
  | nil => rfl
  | cons t ts =>
    rw [List.map_cons, afterNewline, afterNewline, Token.crlf_kind]
    split <;> rfl

theorem endLine_crlf (ts : List Token) :
    Alike (List.map Token.crlf) (endLine ts) (endLine (ts.map Token.crlf)) := by
  rw [endLine, endLine, atLineEnd_crlf, afterNewline_crlf]
  split
  · exact .ok _
  · exact .error (refuse_crlf ts [.newline])

theorem text_crlf {t : Token} (h : t.kind = .identifier) : t.crlf.text = t.text := by
  rw [Token.crlf_of_other] <;> simp [h]

theorem nameTail_crlf (first : String) (ts : List Token) :
    Alike (onRest id) (nameTail first ts) (nameTail first (ts.map Token.crlf)) := by
  fun_induction nameTail first ts with
  | case1 first => exact .ok (first, [])
  | case2 first t hdot =>
    rw [List.map_cons, List.map_nil, nameTail, Token.crlf_kind, if_pos hdot]
    exact .error (refuse_crlf [] [.identifier])
  | case3 first t hdot =>
    rw [List.map_cons, List.map_nil, nameTail, Token.crlf_kind, if_neg hdot]
    exact .ok (first, [t])
  | case4 first t u ts hdot hname ih =>
    rw [List.map_cons, List.map_cons, nameTail, Token.crlf_kind, if_pos hdot, Token.crlf_kind,
      if_pos hname, text_crlf hname]
    exact ih
  | case5 first t u ts hdot hname =>
    rw [List.map_cons, List.map_cons, nameTail, Token.crlf_kind, if_pos hdot, Token.crlf_kind,
      if_neg hname]
    exact .error (refuse_crlf (u :: ts) [.identifier])
  | case6 first t u ts hdot =>
    rw [List.map_cons, List.map_cons, nameTail, Token.crlf_kind, if_neg hdot]
    exact .ok (first, t :: u :: ts)

theorem readName_crlf (ts : List Token) :
    Alike (onRest id) (readName ts) (readName (ts.map Token.crlf)) := by
  refine (expect_crlf .identifier ts).bind fun r h => ?_
  change Alike _ _ (nameTail r.1.crlf.text _)
  rw [text_crlf (kind_of_expect h)]
  exact nameTail_crlf r.1.text r.2

theorem parameterTail_crlf (ts : List Token) :
    Alike (onRest id) (parameterTail ts) (parameterTail (ts.map Token.crlf)) := by
  fun_induction parameterTail ts with
  | case1 => exact .error (refuse_crlf [] [.closeParen])
  | case2 t hcomma =>
    rw [List.map_cons, List.map_nil, parameterTail, Token.crlf_kind, if_pos hcomma]
    exact .error (refuse_crlf [] [.identifier])
  | case3 t hcomma hclose =>
    rw [List.map_cons, List.map_nil, parameterTail, Token.crlf_kind, if_neg hcomma, if_pos hclose]
    exact .ok ([], [])
  | case4 t hcomma hclose =>
    rw [List.map_cons, List.map_nil, parameterTail, Token.crlf_kind, if_neg hcomma, if_neg hclose]
    exact .error (refuse_crlf [t] [.closeParen])
  | case5 t u ts hcomma hname ih =>
    rw [List.map_cons, List.map_cons, parameterTail, Token.crlf_kind, if_pos hcomma,
      Token.crlf_kind, if_pos hname]
    refine ih.bind fun r _ => ?_
    rw [text_crlf hname]
    exact .ok (u.text :: r.1, r.2)
  | case6 t u ts hcomma hname =>
    rw [List.map_cons, List.map_cons, parameterTail, Token.crlf_kind, if_pos hcomma,
      Token.crlf_kind, if_neg hname]
    exact .error (refuse_crlf (u :: ts) [.identifier])
  | case7 t u ts hcomma hclose =>
    rw [List.map_cons, List.map_cons, parameterTail, Token.crlf_kind, if_neg hcomma,
      if_pos hclose]
    exact .ok ([], u :: ts)
  | case8 t u ts hcomma hclose =>
    rw [List.map_cons, List.map_cons, parameterTail, Token.crlf_kind, if_neg hcomma,
      if_neg hclose]
    exact .error (refuse_crlf (t :: u :: ts) [.closeParen])

theorem readParameters_crlf (ts : List Token) :
    Alike (onRest id) (readParameters ts) (readParameters (ts.map Token.crlf)) := by
  rw [readParameters, readParameters, Token.nextKind_crlf]
  split
  · refine (expect_crlf .openParen ts).bind fun opening _ => ?_
    refine (expect_crlf .identifier opening.2).bind fun first hfirst => ?_
    refine (parameterTail_crlf first.2).bind fun more _ => ?_
    change Alike _ _ (Except.ok (first.1.crlf.text :: _, _))
    rw [text_crlf (kind_of_expect hfirst)]
    exact .ok (first.1.text :: more.1, more.2)
  · exact .ok ([], ts)

theorem startsClause_crlf (keyword : TokenKind) (ts : List Token) :
    startsClause keyword (ts.map Token.crlf) = startsClause keyword ts := by
  match ts with
  | [] => rfl
  | [t] => rfl
  | t :: u :: ts =>
    rw [List.map_cons, List.map_cons, startsClause, startsClause, Token.crlf_kind, Token.crlf_kind]

theorem startsLine_crlf (ts : List Token) : startsLine (ts.map Token.crlf) = startsLine ts := by
  rw [startsLine, startsLine, Token.nextKind_crlf, startsClause_crlf, startsClause_crlf]

/-- Line ends are never joined to a text: the tokens of a line's content are no newlines. -/
theorem segments_crlf {ts : List Token} (h : ∀ t ∈ ts, t.kind.isContent) (pending : String) :
    segments pending (ts.map Token.crlf) = (segments pending ts).map Segment.crlf := by
  induction ts generalizing pending with
  | nil =>
    rw [List.map_nil, segments]
    split <;> rfl
  | cons t ts ih =>
    rw [List.forall_mem_cons] at h
    rw [List.map_cons, segments, segments, Token.crlf_kind, ih h.2, ih h.2]
    by_cases hblock : t.kind = .block
    · have htext : t.crlf.text = String.ofList (Text.crlf t.text.toList) := by
        rw [Token.crlf, if_pos (.inr hblock)]
      rw [hblock, htext]
      dsimp only
      split <;> rfl
    · have htext : t.crlf.text = t.text := by
        rw [Token.crlf_of_other _ hblock]
        intro hnewline
        rw [hnewline] at h
        exact absurd h.1 (by decide)
      rw [htext]
      cases hkind : t.kind with
      | block => exact absurd hkind hblock
      | expression | reference =>
        dsimp only
        split <;> rfl
      | _ => rfl

theorem content_crlf (ts : List Token) :
    content (ts.map Token.crlf) = (content ts).map Token.crlf := by
  rw [content, List.takeWhile_map]
  simp [content, Function.comp_def]

theorem afterContent_crlf (ts : List Token) :
    afterContent (ts.map Token.crlf) = (afterContent ts).map Token.crlf := by
  rw [afterContent, List.dropWhile_map]
  simp [afterContent, Function.comp_def]

theorem skipBlanks_crlf (ts : List Token) :
    skipBlanks (ts.map Token.crlf) = (skipBlanks ts).map Token.crlf := by
  rw [skipBlanks, List.dropWhile_map]
  simp [skipBlanks, Function.comp_def]

theorem location_crlf_of_dash {t : Token} (h : t.kind = .dash) :
    t.crlf.location = t.location.crlf := by
  rw [Token.crlf_of_other] <;> simp [h]

theorem kind_of_startsLine {t : Token} {ts : List Token} (h : startsLine (t :: ts)) :
    t.kind = .dash := by
  simp only [startsLine, Bool.and_eq_true, decide_eq_true_eq] at h
  exact h.1.1

theorem kind_of_startsClause {keyword : TokenKind} {t : Token} {ts : List Token}
    (h : startsClause keyword (t :: ts)) : t.kind = .dash := by
  cases ts with
  | nil => cases h
  | cons u ts =>
    simp only [startsClause, Bool.and_eq_true, decide_eq_true_eq] at h
    exact h.1

theorem isContent_of_mem_content {ts : List Token} : ∀ t ∈ content ts, t.kind.isContent :=
  List.all_eq_true.1 List.all_takeWhile

theorem readLines_crlf (ts : List Token) :
    Alike (onRest (List.map Line.crlf)) (readLines ts) (readLines (ts.map Token.crlf)) := by
  fun_induction readLines ts with
  | case1 =>
    rw [List.map_nil, readLines]
    exact .ok ([], [])
  | case2 dash ts hstarts hend more rest heq ih =>
    rw [heq] at ih
    rw [List.map_cons, readLines, ← List.map_cons, startsLine_crlf, if_pos hstarts,
      afterContent_crlf, atLineEnd_crlf, if_pos hend, afterNewline_crlf, ih.eq_ok, content_crlf,
      segments_crlf isContent_of_mem_content, location_crlf_of_dash (kind_of_startsLine hstarts)]
    exact .ok (⟨segments "" (content ts), dash.location⟩ :: more, rest)
  | case3 dash ts hstarts hend e heq ih =>
    rw [heq] at ih
    obtain ⟨e', he', htold⟩ := ih.exists_error
    rw [List.map_cons, readLines, ← List.map_cons, startsLine_crlf, if_pos hstarts,
      afterContent_crlf, atLineEnd_crlf, if_pos hend, afterNewline_crlf, he']
    exact .error htold
  | case4 dash ts hstarts hend =>
    rw [List.map_cons, readLines, ← List.map_cons, startsLine_crlf, if_pos hstarts,
      afterContent_crlf, atLineEnd_crlf, if_neg hend]
    exact .error (refuse_crlf (afterContent ts) lineWants)
  | case5 dash ts hstarts =>
    rw [List.map_cons, readLines, ← List.map_cons, startsLine_crlf, if_neg hstarts]
    exact .ok ([], dash :: ts)

theorem readBodyLines_crlf (ts : List Token) :
    Alike (onRest (List.map Line.crlf)) (readBodyLines ts) (readBodyLines (ts.map Token.crlf)) := by
  have hlines := readLines_crlf ts
  rw [readBodyLines, readBodyLines]
  generalize readLines ts = read, readLines (ts.map Token.crlf) = read' at hlines
  cases hlines with
  | error h => exact .error h
  | ok r =>
    obtain ⟨lines, rest⟩ := r
    cases lines with
    | nil => exact .error (toldAlike_peek (by rfl) (by rfl) rest)
    | cons line lines => exact .ok (line :: lines, rest)

theorem readCondition_crlf (ts : List Token) :
    Alike (onRest id) (readCondition ts) (readCondition (ts.map Token.crlf)) := by
  refine (expect_crlf .expression ts).bind fun r hcondition => ?_
  have htext : r.1.crlf.text = r.1.text := by
    rw [Token.crlf_of_other] <;> simp [kind_of_expect hcondition]
  change Alike _ _ (endLine (skipBlanks (r.2.map Token.crlf)) >>= _)
  rw [skipBlanks_crlf]
  refine (endLine_crlf _).bind fun rest _ => ?_
  change Alike _ _ (Except.ok ((Segment.expression r.1.crlf.text).inner, _))
  rw [htext]
  exact .ok ((Segment.expression r.1.text).inner, rest)

/-- A case is read in three steps, and the other cases behind it. -/
theorem readCases_case {dash keyword : Token} {ts : List Token}
    (h : startsClause .caseKeyword (dash :: keyword :: ts)) :
    readCases (dash :: keyword :: ts) = do
      let (condition, mid) ← readCondition ts
      let (lines, mid) ← readBodyLines mid
      let (more, rest) ← readCases mid
      return (⟨some condition, lines, dash.location⟩ :: more, rest) := by
  rw [readCases, if_pos h]
  split
  · rename_i e hcondition
    rw [hcondition]
    rfl
  · rename_i condition mid hcondition
    rw [hcondition]
    change _ = readBodyLines mid >>= _
    split
    · rename_i e hlines
      rw [hlines]
      rfl
    · rename_i lines mid' hlines
      rw [hlines]
      change _ = readCases mid' >>= _
      split
      · rename_i e hmore
        rw [hmore]
        rfl
      · rename_i more rest hmore
        rw [hmore]
        rfl

theorem readCases_crlf (ts : List Token) :
    Alike (onRest (List.map Clause.crlf)) (readCases ts) (readCases (ts.map Token.crlf)) := by
  by_cases hstarts : startsClause .caseKeyword ts = true
  · obtain ⟨dash, keyword, tail, hts, hdash, -⟩ := Grammar.startsClause_iff.1 hstarts
    have hstarts' := startsClause_crlf .caseKeyword ts
    rw [hstarts, hts] at hstarts'
    rw [hts] at hstarts ⊢
    rw [readCases_case hstarts, List.map_cons, List.map_cons, readCases_case hstarts']
    refine (readCondition_crlf tail).bind fun condition hcondition => ?_
    refine (readBodyLines_crlf condition.2).bind fun lines hlines => ?_
    refine (readCases_crlf lines.2).bind fun more _ => ?_
    rw [location_crlf_of_dash hdash]
    exact .ok (⟨some condition.1, lines.1, dash.location⟩ :: more.1, more.2)
  · have hstop : startsClause .caseKeyword ts = false := by simpa using hstarts
    rw [Grammar.readCases_stop hstop, Grammar.readCases_stop (by rw [startsClause_crlf, hstop])]
    exact .ok ([], ts)
termination_by ts.length
decreasing_by
  have := length_of_readCondition hcondition
  have := length_of_readBodyLines hlines
  rw [hts, List.length_cons, List.length_cons]
  omega

theorem readDefault_crlf (ts : List Token) :
    Alike (onRest Clause.crlf) (readDefault ts) (readDefault (ts.map Token.crlf)) := by
  match ts with
  | [] => exact .error (toldAlike_peek (by rfl) (by rfl) [])
  | [t] => exact .error (toldAlike_peek (by rfl) (by rfl) [t])
  | dash :: keyword :: ts =>
    have hstarts' := startsClause_crlf .defaultKeyword (dash :: keyword :: ts)
    rw [List.map_cons, List.map_cons] at hstarts' ⊢
    rw [readDefault, readDefault, hstarts']
    split
    · rename_i hstarts
      rw [skipBlanks_crlf]
      refine (endLine_crlf (skipBlanks ts)).bind fun mid _ => ?_
      refine (readBodyLines_crlf mid).bind fun lines _ => ?_
      rw [location_crlf_of_dash (kind_of_startsClause hstarts)]
      exact .ok ((⟨none, lines.1, dash.location⟩ : Clause), lines.2)
    · exact .error (toldAlike_peek (by rfl) (by rfl) (dash :: keyword :: ts))

theorem readBody_crlf (ts : List Token) :
    Alike (onRest Body.crlf) (readBody ts) (readBody (ts.map Token.crlf)) := by
  rw [readBody, readBody, startsClause_crlf]
  split
  · refine (readCases_crlf ts).bind fun cases _ => ?_
    refine (readDefault_crlf cases.2).bind fun otherwise _ => ?_
    exact .ok (Body.conditional cases.1 otherwise.1, otherwise.2)
  · refine (readBodyLines_crlf ts).bind fun lines _ => ?_
    exact .ok (Body.choice lines.1, lines.2)

theorem readDefinition_crlf (location : Location) (ts : List Token) :
    Alike (onRest Template.crlf) (readDefinition location ts)
      (readDefinition location.crlf (ts.map Token.crlf)) := by
  refine (readName_crlf ts).bind fun name _ => ?_
  refine (readParameters_crlf name.2).bind fun parameters _ => ?_
  refine (endLine_crlf parameters.2).bind fun mid _ => ?_
  refine (readBody_crlf mid).bind fun body _ => ?_
  exact .ok ((⟨name.1, parameters.1, body.1, location⟩ : Template), body.2)

/-- A definition is read, and the paragraphs behind it. -/
theorem readAll_hash {t : Token} (h : t.kind = .hash) (ts : List Token) :
    readAll (t :: ts) = do
      let (template, rest) ← readDefinition t.location ts
      let more ← readAll rest
      return template :: more := by
  rw [readAll, h]
  dsimp only
  split
  · rename_i e hdefinition
    rw [hdefinition]
    rfl
  · rename_i template rest hdefinition
    rw [hdefinition]
    change _ = readAll rest >>= _
    split
    · rename_i e hmore
      rw [hmore]
      rfl
    · rename_i more hmore
      rw [hmore]
      rfl

theorem readAll_crlf (ts : List Token) :
    Alike (List.map Template.crlf) (readAll ts) (readAll (ts.map Token.crlf)) := by
  match ts with
  | [] =>
    rw [List.map_nil, readAll]
    exact .ok []
  | t :: ts =>
    rw [List.map_cons]
    by_cases hhash : t.kind = .hash
    · rw [readAll_hash hhash, readAll_hash ((Token.crlf_kind t).trans hhash)]
      have hlocation : t.crlf.location = t.location.crlf := by
        rw [Token.crlf_of_other] <;> simp [hhash]
      rw [hlocation]
      refine (readDefinition_crlf t.location ts).bind fun template hdefinition => ?_
      refine (readAll_crlf template.2).bind fun more _ => ?_
      exact .ok (template.1 :: more)
    · have hrefuse := refuse_crlf (t :: ts) [.hash, .newline]
      rw [readAll, readAll, Token.crlf_kind]
      cases hkind : t.kind with
      | hash => exact absurd hkind hhash
      | newline => exact readAll_crlf ts
      | endOfInput => exact .ok []
      | _ => exact .error hrefuse
termination_by ts.length
decreasing_by
  · have := length_of_readDefinition hdefinition
    change template.2.length < ts.length + 1
    omega
  · simp

end Template

namespace SourceFile

/-- Line ends do not matter. A source without carriage returns is accepted or rejected just as it is
with one in front of every line feed. The file that is read is the same, but for the line ends in
blocks and for byte offsets; an error has the same words for the same line and column. -/
theorem parse_withReturns {source : String} (h : '\r' ∉ source.toList) :
    Alike crlf (parse source) (parse (Text.withReturns source)) := by
  refine (Token.ofSource_withReturns h).bind fun ts _ => ?_
  refine (Template.readAll_crlf ts).bind fun templates _ => ?_
  exact .ok (⟨templates, none⟩ : SourceFile)

/-- A comment, a backslash at the end of a line, and a block over two lines with a blank behind. -/
theorem parse_block_withReturns :
    let source := "> note\n# T(x)\n- a\\\n- ```b\n@{x}``` \n"
    '\r' ∉ source.toList ∧
      parse source = .ok ⟨[⟨"T", ["x"], .choice
        [⟨[.text "a\\"], ⟨3, 1, 14, 1, none⟩⟩,
          ⟨[.block "```b\n@{x}```", .text " "], ⟨4, 1, 19, 1, none⟩⟩],
        ⟨2, 1, 7, 1, none⟩⟩], none⟩ ∧
      parse (Text.withReturns source) = .ok ⟨[⟨"T", ["x"], .choice
        [⟨[.text "a\\"], ⟨3, 1, 16, 1, none⟩⟩,
          ⟨[.block "```b\r\n@{x}```", .text " "], ⟨4, 1, 22, 1, none⟩⟩],
        ⟨2, 1, 8, 1, none⟩⟩], none⟩ := by
  intro source
  have hreturn : '\r' ∉ source.toList := by decide
  have hread : parse source = .ok ⟨[⟨"T", ["x"], .choice
      [⟨[.text "a\\"], ⟨3, 1, 14, 1, none⟩⟩,
        ⟨[.block "```b\n@{x}```", .text " "], ⟨4, 1, 19, 1, none⟩⟩],
      ⟨2, 1, 7, 1, none⟩⟩], none⟩ := by decide +kernel
  have hsame := parse_withReturns hreturn
  rw [hread] at hsame
  exact ⟨hreturn, hread, hsame.eq_ok⟩

end SourceFile

end Phrasebook
