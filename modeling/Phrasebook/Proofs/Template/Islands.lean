import Mathlib.Data.List.TakeDrop
import Phrasebook.Proofs.Evaluator.Exchange
import Phrasebook.Proofs.Template.Blocks
import Phrasebook.Proofs.Template.Recognition
import Phrasebook.Proofs.Token.Concatenation
import Phrasebook.Proofs.Token.Spans

namespace Phrasebook

namespace Template

/-- Wherever the line stands and however it ends, it is read as the line of this one segment, in
front of the lines that follow. -/
def ReadsAs (line : String) (s : Segment) : Prop :=
  ∀ (p : Position) (rest : List Char) (ts : List Token),
    Token.scan (.line false false) (p.after line.toList) rest = .ok ts → atLineEnd ts →
      let dash : Token := ⟨.dash, "-", .ofPosition p 1⟩
      ∃ t : Token, Token.scan .between p (line.toList ++ rest) = .ok (dash :: t :: ts) ∧
        readLines (dash :: t :: ts) = (readLines (afterNewline ts)).map fun (more, ts') =>
          (⟨[s], dash.location⟩ :: more, ts')

theorem readsAs_of_isSpanLine {line text : String} {kind : TokenKind} {s : Segment}
    (h : Token.IsSpanLine line kind text) (hkind : kind.isContent)
    (hs : ∀ location, segments "" [⟨kind, text, location⟩] = [s]) : ReadsAs line s := by
  intro p rest ts hts hend dash
  let t : Token := ⟨kind, text, .ofPosition (p.after ['-', ' ']) (Text.byteLength text.toList)⟩
  refine ⟨t, ?_, ?_⟩
  · rw [h p rest, hts]
    rfl
  have hused : ∀ u ∈ [t], u.kind.isContent := List.forall_mem_singleton.2 hkind
  obtain ⟨hcontent, hafter⟩ := Grammar.content_append hused hend
  have hstart : startsLine (dash :: ([t] ++ ts)) := (Grammar.startsLine_append rfl hused hend).1
  rw [List.singleton_append] at hcontent hafter hstart
  rw [readLines, if_pos hstart, hafter, if_pos hend, hcontent, hs]
  cases readLines (afterNewline ts) <;> rfl

end Template

namespace Token

open Text

/-- No fence reaches over a character that is none of its own. -/
theorem beforeFence_append {c : Char} {inside : List Char} (hc : c ∉ fence)
    (h : ¬ fence <:+: inside) (rest : List Char) :
    beforeFence (inside ++ c :: rest) = (beforeFence (c :: rest)).map (· + inside.length) := by
  induction inside with
  | nil => simp
  | cons d inside ih =>
    rw [List.infix_cons_iff, not_or] at h
    have hfence : ¬ fence <+: d :: (inside ++ c :: rest) := by
      intro hfront
      have hwhole : (d :: inside) ++ [c] <+: d :: (inside ++ c :: rest) := ⟨rest, by simp⟩
      rcases List.prefix_or_prefix_of_prefix hfront hwhole with hshort | hlong
      · rcases List.prefix_concat_iff.1 hshort with heq | hinside
        · exact hc (by simp [heq])
        · exact h.1 hinside
      · exact hc (hlong.mem (by simp))
    rw [List.cons_append, beforeFence, if_neg (by rwa [List.isPrefixOf_iff_prefix]), ih h.2,
      map_add_map_add]
    rfl

/-- An island without a fence stands whole in front of the next fence. -/
theorem beforeFence_island {body : List Char} (h : ¬ fence <:+: body) (rest : List Char) :
    beforeFence ((BlockPart.island body).source ++ (fence ++ rest)) = some (body.length + 3) := by
  have hsource : (BlockPart.island body).source ++ (fence ++ rest) =
      '@' :: '\x7b' :: (body ++ '\x7d' :: (fence ++ rest)) := by simp [BlockPart.source]
  have hfront (cs : List Char) :
      beforeFence ('@' :: '\x7b' :: cs) = (beforeFence cs).map (· + 2) := by
    cases hcs : beforeFence cs <;> simp [beforeFence, fence, hcs]
  have hclose : beforeFence ('\x7d' :: (fence ++ rest)) = some 1 := rfl
  rw [hsource, hfront, beforeFence_append (by decide) h, hclose, map_add_map_add, Option.map_some,
    Option.some.injEq]
  omega

/-- A block that holds one island and nothing else. -/
def islandBlock (body : String) : String := "```@\x7b" ++ body ++ "\x7d```"

theorem islandBlock_eq (body : String) : islandBlock body =
    String.ofList (fence ++ ((BlockPart.island body.toList).source ++ fence)) :=
  String.toList_inj.1 (by simp [islandBlock, BlockPart.source, fence])

theorem inner_islandBlock (body : String) :
    (Segment.block (islandBlock body)).inner =
      String.ofList (BlockPart.island body.toList).source := by
  have hwidth : byteLength fence = 3 := rfl
  rw [Segment.inner, islandBlock_eq]
  exact Segment.stripDelimiters_between hwidth hwidth _

theorem isSpanLine_islandBlock {body : String} (h : ¬ fence <:+: body.toList) :
    IsSpanLine ("- " ++ islandBlock body) .block (islandBlock body) := by
  have hline : "- " ++ islandBlock body = String.ofList ('-' :: ' ' ::
      (fence ++ ((BlockPart.island body.toList).source ++ fence))) := by
    rw [islandBlock_eq]
    exact String.toList_inj.1 (by simp)
  rw [hline, islandBlock_eq]
  generalize body.toList = body at h
  have hfence : fence ++ ((BlockPart.island body).source ++ fence) =
      '\x60' :: '\x60' :: '\x60' :: ((BlockPart.island body).source ++ fence) := rfl
  have hstep (cs : List Char) : step (.line true true) '\x60' ('\x60' :: '\x60' :: cs) =
      wholeSpan .block ((beforeFence cs).map (· + 5)) := rfl
  have hlength : ('\x60' :: '\x60' :: ((BlockPart.island body).source ++ fence)).length =
      body.length + 8 := by
    simp [BlockPart.source, fence]
  rw [hfence]
  refine isSpanLine_of_step rfl fun rest => ?_
  rw [List.cons_append, List.cons_append, hstep, List.append_assoc, beforeFence_island h, hlength]
  rfl

/-- The text in brackets is one token behind the dash of a line, a reference. -/
def IsReferenceText (text : String) : Prop :=
  (ofSource ("- [" ++ text ++ "]")).map (fun ts => ts.map fun t => (t.kind, t.text)) =
    .ok [(.dash, "-"), (.reference, "[" ++ text ++ "]"), (.endOfInput, "")]

/-- The token is the whole text just if the bracket behind the text is the one that closes it. -/
theorem isReferenceText_iff {text : String} : IsReferenceText text ↔
    closingAfter '[' ']' 0 .outside (text.toList ++ [']']) = some (text.toList.length + 1) := by
  constructor
  · intro h
    have hchars : ("- [" ++ text ++ "]").toList = '-' :: ' ' :: '[' :: (text.toList ++ [']']) := by
      simp
    unfold IsReferenceText ofSource at h
    rw [hchars, scan_dash rfl] at h
    generalize hcs : text.toList ++ [']'] = cs at h ⊢
    cases hscan : scan (.line true true) (Position.start.after ['-', ' ']) ('[' :: cs) with
    | error e =>
      rw [hscan] at h
      contradiction
    | ok ts =>
      obtain ⟨s, ts', hstep, -, rfl⟩ := exists_step_of_scan hscan
      rw [opens_reference.step] at hstep
      cases hn : closingAfter '[' ']' 0 .outside cs with
      | none =>
        rw [hn] at hstep
        contradiction
      | some n =>
        rw [hn] at hstep
        cases hstep
        rw [hscan] at h
        have htext : String.ofList ('[' :: cs.take n) = "[" ++ text ++ "]" :=
          (Prod.mk.inj (List.cons.inj (List.cons.inj (Except.ok.inj h)).2).1).2
        rw [bracketed_eq, hcs] at htext
        have htake : cs.take n = cs := (List.cons.inj (String.ofList_injective htext)).2
        have hge : cs.length ≤ n := (List.take_eq_self_iff cs).1 htake
        have hle : n ≤ cs.length := closingAfter_le hn
        rw [Nat.le_antisymm hle hge, ← hcs, List.length_append]
        rfl
  · intro h
    have hline := isSpanLine_of_closing_reference h .start []
    rw [List.append_nil, scan] at hline
    unfold IsReferenceText ofSource
    rw [hline]
    rfl

end Token

/-- A text that is an island has no other parts. -/
theorem BlockPart.ofBlock_island {body : List Char} (hne : body ≠ [])
    (h : ∀ c ∈ body, Island.isBrace c = false) :
    ofBlock (island body).source = [island body] := by
  have hbody := bodyAt?_island ⟨hne, h⟩ []
  rw [List.append_nil, source_island] at hbody
  rw [source_island, ofBlock, hbody]
  simp [ofBlock]

/-- A block that is one island renders as the island does. -/
theorem Frame.renderSegment_block {m : Type → Type} [Monad m] [LawfulMonad m] (f : Frame m)
    {raw : String} {body : List Char}
    (hraw : BlockPart.ofBlock (Segment.block raw).inner.toList = [.island body]) :
    f.renderSegment (.block raw) = f.renderIsland (Island.ofBody body) := by
  rw [renderSegment, hraw]
  simp [renderParts]

theorem Island.ofBody_expression {body : List Char}
    (h : ¬ (body.head? = some '[' ∧ body.getLast? = some ']')) :
    ofBody body = .expression (String.ofList body) := by
  refine ofBody_unbracketed ?_
  rintro inside rfl
  exact h ⟨rfl, by simp [List.getLast?_cons]⟩

theorem Island.ofBody_reference (text : String) :
    ofBody ("[" ++ text ++ "]").toList = .reference text := by
  have hbody : ("[" ++ text ++ "]").toList = '[' :: (text.toList ++ [']']) := by simp
  rw [hbody, ofBody_bracketed, String.ofList_toList]

/-- The segment stays, or it is the first of two and becomes the other one. -/
def Segment.Replaced (s s' a b : Segment) : Prop := a = b ∨ a = s ∧ b = s'

namespace Template

/-- The lines are read as one segment each, and it makes no difference which of the two stands at
any place of any template: all renderings end with the same text or the same failure, and leave the
evaluator in the same state. -/
def LinesAgree (line line' : String) : Prop :=
  ∃ s s', ReadsAs line s ∧ ReadsAs line' s' ∧
    ∀ r r' : Registry, Registry.Exchanged (Segment.Replaced s s') r r' →
      ∀ (σ : Type) (fallback : Functions) (picker : Picker σ) (name : String) (scope : Value)
        (e : Evaluation σ), ∃ outcome e',
          ((⟨r, fallback, picker⟩ : Library σ).evaluate name scope).run e = some (outcome, e') ∧
          ((⟨r', fallback, picker⟩ : Library σ).evaluate name scope).run e = some (outcome, e')

/-- A text that can be an island: it has no brace, and neither a line nor a block ends in it. -/
structure IsIslandText (text : String) : Prop where
  braces : ∀ c ∈ text.toList, Island.isBrace c = false
  line : ∀ c ∈ text.toList, Text.isLineEnd c = false
  fence : ¬ Token.fence <:+: text.toList

theorem isIslandText_of_all {text : String}
    (h : text.toList.all (fun c => !Island.isBrace c && !Text.isLineEnd c) = true)
    (hfence : ¬ Token.fence <:+: text.toList) : IsIslandText text := by
  have hplain : ∀ c ∈ text.toList, Island.isBrace c = false ∧ Text.isLineEnd c = false := by
    simpa using h
  exact ⟨fun c hc => (hplain c hc).1, fun c hc => (hplain c hc).2, hfence⟩

theorem IsIslandText.bracketed {text : String} (h : IsIslandText text) :
    IsIslandText ("[" ++ text ++ "]") := by
  have hchars : ("[" ++ text ++ "]").toList = '[' :: (text.toList ++ [']']) := by simp
  constructor <;> rw [hchars]
  · exact List.forall_mem_cons.2 ⟨rfl, List.forall_mem_append.2 ⟨h.braces, by simp [Island.isBrace]⟩⟩
  · exact List.forall_mem_cons.2 ⟨rfl, List.forall_mem_append.2 ⟨h.line, by simp [Text.isLineEnd]⟩⟩
  · intro hfence
    rcases List.infix_cons_iff.1 hfence with hfront | hfence
    · simp [Token.fence] at hfront
    rcases List.infix_concat_iff.1 hfence with hback | hinside
    · obtain ⟨front, hback⟩ := hback
      have hlast := congrArg List.getLast? hback
      simp [Token.fence] at hlast
    · exact h.fence hinside

/-- A line that renders as an island does agrees with the block of this island. -/
theorem linesAgree_block {line text body : String} {kind : TokenKind} {s : Segment}
    (hspan : Token.IsSpanLine line kind text) (hkind : kind.isContent)
    (hs : ∀ location, segments "" [⟨kind, text, location⟩] = [s]) (hne : body ≠ "")
    (hbody : IsIslandText body)
    (hrender : ∀ (m : Type → Type) [Monad m] (f : Frame m),
      f.renderSegment s = f.renderIsland (Island.ofBody body.toList)) :
    LinesAgree line ("- " ++ Token.islandBlock body) := by
  have hblock : ReadsAs ("- " ++ Token.islandBlock body) (.block (Token.islandBlock body)) :=
    readsAs_of_isSpanLine (Token.isSpanLine_islandBlock hbody.fence) rfl fun _ => rfl
  have hparts : BlockPart.ofBlock (Segment.block (Token.islandBlock body)).inner.toList =
      [.island body.toList] := by
    rw [Token.inner_islandBlock, String.toList_ofList]
    exact BlockPart.ofBlock_island (by simpa using hne) hbody.braces
  refine ⟨s, _, readsAs_of_isSpanLine hspan hkind hs, hblock, ?_⟩
  intro r r' hr σ fallback picker name scope e
  refine Library.evaluate_exchanged ?_ hr fallback picker name scope e
  rintro a b (rfl | ⟨rfl, rfl⟩) m _ _ f
  · rfl
  · rw [hrender, f.renderSegment_block hparts]

/-- An expression or a reference may be written in a line or as the only island of a block: wherever
the line stands, all renderings are the same. -/
theorem line_agrees_with_block :
    (∀ (e : String) (tree : Expr), Expr.read e.toList = .ok tree → IsIslandText e →
      ¬ (e.toList.head? = some '[' ∧ e.toList.getLast? = some ']') →
        LinesAgree ("- \x7b" ++ e ++ "\x7d") ("- " ++ Token.islandBlock e)) ∧
    ∀ text : String, Token.IsReferenceText text → IsIslandText text →
      LinesAgree ("- [" ++ text ++ "]") ("- " ++ Token.islandBlock ("[" ++ text ++ "]")) := by
  constructor
  · intro e tree hread he hends
    have hspan := Token.isSpanLine_expression hread he.line
    have hne : e ≠ "" := by
      rintro rfl
      obtain ⟨-, ⟨c, hc, -⟩, -⟩ := Expr.trim_of_read hread
      simp at hc
    refine linesAgree_block (s := .expression ("\x7b" ++ e ++ "\x7d")) hspan rfl (fun _ => rfl) hne
      he fun m _ f => ?_
    rw [Frame.renderSegment, Token.inner_expression, Island.ofBody_expression hends,
      String.ofList_toList]
    rfl
  · intro text hreference htext
    have hspan := Token.isSpanLine_of_closing_reference (Token.isReferenceText_iff.1 hreference)
    have hne : "[" ++ text ++ "]" ≠ "" := by
      intro h
      simpa using congrArg String.toList h
    refine linesAgree_block (s := .reference ("[" ++ text ++ "]")) hspan rfl (fun _ => rfl) hne
      htext.bracketed fun m _ f => ?_
    rw [Frame.renderSegment, Token.inner_reference, Island.ofBody_reference]
    rfl

/-- A list in front of an operator, with brackets and backticks in strings, and a reference with
brackets in the strings of its arguments. -/
theorem line_agrees_with_block_quoted :
    let e := "[']', x[0]] == '``['"
    let text := "Menu(dish[']'], \"[``\")"
    (Expr.read e.toList).isOk ∧ IsIslandText e ∧
      ¬ (e.toList.head? = some '[' ∧ e.toList.getLast? = some ']') ∧
      LinesAgree ("- \x7b" ++ e ++ "\x7d") ("- " ++ Token.islandBlock e) ∧
    Token.IsReferenceText text ∧ IsIslandText text ∧
      LinesAgree ("- [" ++ text ++ "]") ("- " ++ Token.islandBlock ("[" ++ text ++ "]")) := by
  intro e text
  have hok : (Expr.read e.toList).isOk := by decide +kernel
  have he : IsIslandText e := isIslandText_of_all (by decide +kernel) (by decide +kernel)
  have hends : ¬ (e.toList.head? = some '[' ∧ e.toList.getLast? = some ']') := by decide +kernel
  have hreference : Token.IsReferenceText text := Token.isReferenceText_iff.2 (by decide +kernel)
  have htext : IsIslandText text := isIslandText_of_all (by decide +kernel) (by decide +kernel)
  obtain ⟨⟨tree, hread⟩, -⟩ := Token.isArgument_of_isOk hok (by decide)
  exact ⟨hok, he, hends, line_agrees_with_block.1 e tree hread he hends, hreference, htext,
    line_agrees_with_block.2 text hreference htext⟩

end Template

end Phrasebook
