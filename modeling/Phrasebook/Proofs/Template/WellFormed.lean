import Mathlib.Data.List.Chain
import Phrasebook.Proofs.Template.Parameters
import Phrasebook.Proofs.Token.Spans

namespace Phrasebook

/-- The raw text is the inner one with its delimiters, all on one line. -/
def Text.Encloses (opening closing raw inner : String) : Prop :=
  raw = opening ++ inner ++ closing ∧ ∀ c ∈ raw.toList, Text.isLineEnd c = false

namespace Segment

def isText : Segment → Bool
  | text _ => true
  | _ => false

/-- A text is not empty and stays on its line; any other segment stands between its delimiters. -/
def WellFormed (s : Segment) : Prop :=
  match s with
  | text raw => raw ≠ "" ∧ '\n' ∉ raw.toList
  | expression raw => Text.Encloses "\x7b" "\x7d" raw s.inner
  | reference raw => Text.Encloses "[" "]" raw s.inner
  | block raw =>
    raw = String.ofList Token.fence ++ s.inner ++ String.ofList Token.fence ∧
      ¬ Token.fence <:+: s.inner.toList

end Segment

/-- Two texts are never next to each other. -/
structure Line.WellFormed (l : Line) : Prop where
  segments : ∀ s ∈ l.segments, s.WellFormed
  joined : l.segments.IsChain fun s s' => ¬ (s.isText ∧ s'.isText)

/-- A case has lines, and the tokens have its condition in braces. -/
structure Clause.IsCase (tokens : List Token) (clause : Clause) : Prop where
  lines : clause.lines ≠ []
  condition : ∃ condition, clause.condition = some condition ∧
    ∃ t ∈ tokens, t.kind = .expression ∧ Text.Encloses "\x7b" "\x7d" t.text condition

structure Clause.IsDefault (clause : Clause) : Prop where
  lines : clause.lines ≠ []
  condition : clause.condition = none

def Body.WellFormed (tokens : List Token) : Body → Prop
  | .choice lines => lines ≠ []
  | .conditional cases otherwise =>
    cases ≠ [] ∧ (∀ clause ∈ cases, clause.IsCase tokens) ∧ otherwise.IsDefault

theorem Clause.IsCase.mono {tokens tokens' : List Token} {clause : Clause}
    (h : clause.IsCase tokens) (hsub : tokens ⊆ tokens') : clause.IsCase tokens' := by
  obtain ⟨condition, hcondition, t, ht, hkind, htext⟩ := h.condition
  exact ⟨h.lines, condition, hcondition, t, hsub ht, hkind, htext⟩

theorem Body.WellFormed.mono {tokens tokens' : List Token} {b : Body} (h : b.WellFormed tokens)
    (hsub : tokens ⊆ tokens') : b.WellFormed tokens' := by
  cases b with
  | choice lines => exact h
  | conditional cases otherwise =>
    obtain ⟨hne, hcases, hotherwise⟩ := h
    exact ⟨hne, fun clause hclause => (hcases clause hclause).mono hsub, hotherwise⟩

/-- The template has the shape that rendering relies on. -/
structure Template.WellFormed (tokens : List Token) (t : Template) : Prop where
  name : Name.isTemplateName t.name
  parameters : ∀ p ∈ t.parameters, Name.isIdentifier p
  body : t.body.WellFormed tokens
  lines : ∀ line ∈ t.body.allLines, line.WellFormed

namespace Text

variable {separator : Char}

theorem splitOn_of_not_mem {part : List Char} (h : separator ∉ part) :
    splitOn separator part = [part] := by
  induction part with
  | nil => rfl
  | cons c part ih =>
    rw [List.mem_cons, not_or] at h
    rw [splitOn, if_neg (Ne.symm h.1), ih h.2]
    rfl

theorem splitOn_append {part : List Char} (h : separator ∉ part) (cs : List Char) :
    splitOn separator (part ++ separator :: cs) = part :: splitOn separator cs := by
  induction part with
  | nil => rw [List.nil_append, splitOn, if_pos rfl]
  | cons c part ih =>
    rw [List.mem_cons, not_or] at h
    rw [List.cons_append, splitOn, if_neg (Ne.symm h.1), ih h.2]
    rfl

/-- What is joined by a separator comes apart there again. -/
theorem splitOn_intercalate {parts : List (List Char)} (hne : parts ≠ [])
    (h : ∀ part ∈ parts, separator ∉ part) :
    splitOn separator ([separator].intercalate parts) = parts := by
  induction parts with
  | nil => contradiction
  | cons part parts ih =>
    rw [List.forall_mem_cons] at h
    cases parts with
    | nil => simpa using splitOn_of_not_mem h.1
    | cons next parts =>
      have hmore := ih (List.cons_ne_nil next parts) h.2
      have hsplit : [separator].intercalate (part :: next :: parts) =
          part ++ separator :: [separator].intercalate (next :: parts) := by simp
      rw [hsplit, splitOn_append h.1, hmore]

end Text

namespace Name

theorem isTemplateName_intercalate {names : List String} (hne : names ≠ [])
    (h : ∀ name ∈ names, isIdentifier name) : isTemplateName (".".intercalate names) := by
  have hparts : ∀ part ∈ names.map String.toList, isIdentifierChars part := by
    intro part hpart
    obtain ⟨name, hname, rfl⟩ := List.mem_map.1 hpart
    exact h name hname
  have hsplit : Text.splitOn '.' (['.'].intercalate (names.map String.toList)) =
      names.map String.toList :=
    Text.splitOn_intercalate (by simpa using hne) fun part hpart =>
      not_mem_of_isIdentifierChars (hparts part hpart) (by decide)
  unfold isTemplateName isTemplateNameChars
  rw [String.toList_intercalate]
  have hall : (names.map String.toList).all isIdentifierChars := List.all_eq_true.2 hparts
  rw [← hsplit] at hall
  exact hall

end Name

namespace Token

theorem Shaped.encloses_expression {t : Token} (h : t.Shaped) (hkind : t.kind = .expression) :
    Text.Encloses "\x7b" "\x7d" t.text (Segment.expression t.text).inner := by
  unfold Shaped at h
  rw [hkind] at h
  obtain ⟨inside, hinside, hline⟩ := h
  have htext : t.text = "\x7b" ++ String.ofList inside ++ "\x7d" := by
    rw [braced_eq, String.toList_ofList, ← hinside, String.ofList_toList]
  refine ⟨?_, hline⟩
  rw [htext, inner_expression]

theorem Shaped.encloses_reference {t : Token} (h : t.Shaped) (hkind : t.kind = .reference) :
    Text.Encloses "[" "]" t.text (Segment.reference t.text).inner := by
  unfold Shaped at h
  rw [hkind] at h
  obtain ⟨inside, hinside, hline⟩ := h
  have htext : t.text = "[" ++ String.ofList inside ++ "]" := by
    rw [bracketed_eq, String.toList_ofList, ← hinside, String.ofList_toList]
  refine ⟨?_, hline⟩
  rw [htext, inner_reference]

theorem Shaped.wellFormed_block {t : Token} (h : t.Shaped) (hkind : t.kind = .block) :
    (Segment.block t.text).WellFormed := by
  unfold Shaped at h
  rw [hkind] at h
  obtain ⟨inside, hinside, hfence⟩ := h
  have htext : t.text = String.ofList (fence ++ (inside ++ fence)) := by
    rw [← hinside, String.ofList_toList]
  have hinner : (Segment.block t.text).inner = String.ofList inside := by
    have hwidth : Text.byteLength fence = 3 := rfl
    rw [htext]
    exact Segment.stripDelimiters_between hwidth hwidth inside
  unfold Segment.WellFormed
  rw [hinner]
  constructor
  · rw [htext]
    exact String.toList_inj.1 (by simp)
  · rw [String.toList_ofList]
    exact hfence

end Token

namespace Grammar

open Rule

variable {ts rest : List Token}

theorem isText_of_segment? {t : Token} {s : Segment} (h : segment? t = some s) :
    s.isText = false := by
  unfold segment? at h
  split at h
  all_goals cases h
  all_goals rfl

theorem wellFormed_of_segment? {t : Token} {s : Segment} (ht : t.Shaped)
    (h : segment? t = some s) : s.WellFormed := by
  unfold segment? at h
  split at h
  · rename_i hkind
    cases h
    exact ht.encloses_expression hkind
  · rename_i hkind
    cases h
    exact ht.encloses_reference hkind
  · rename_i hkind
    cases h
    exact ht.wellFormed_block hkind
  · cases h

theorem plainSegments_eq (run : List Token) :
    plainSegments run = [] ∨
      ∃ text, text ≠ "" ∧ text = String.join (run.map Token.text) ∧
        plainSegments run = [.text text] := by
  unfold plainSegments
  by_cases hempty : String.join (run.map Token.text) = ""
  · exact .inl (if_pos hempty)
  · exact .inr ⟨_, hempty, rfl, if_neg hempty⟩

theorem wellFormed_of_plainSegments {run : List Token} (hrun : ∀ t ∈ run, t.kind.isPlain)
    (hshaped : ∀ t ∈ run, t.Shaped) : ∀ s ∈ plainSegments run, s.WellFormed := by
  rcases plainSegments_eq run with hnone | ⟨text, hne, htext, hone⟩
  · simp [hnone]
  · have hline : '\n' ∉ text.toList := by
      rw [htext, String.toList_join, List.mem_flatMap]
      rintro ⟨part, hpart, hmem⟩
      obtain ⟨t, ht, rfl⟩ := List.mem_map.1 hpart
      exact (hshaped t ht).of_plain (hrun t ht) hmem
    intro s hs
    rw [hone, List.mem_singleton] at hs
    subst hs
    exact ⟨hne, hline⟩

theorem Joined.wellFormed {ss : List Segment} (h : Joined ts ss) (hshaped : ∀ t ∈ ts, t.Shaped) :
    ∀ s ∈ ss, s.WellFormed := by
  induction h with
  | nil => simp
  | plain hne hrun hnext h ih =>
    rw [List.forall_mem_append] at hshaped ⊢
    exact ⟨wellFormed_of_plainSegments hrun hshaped.1, ih hshaped.2⟩
  | island hs h ih =>
    rw [List.forall_mem_cons] at hshaped ⊢
    exact ⟨wellFormed_of_segment? hshaped.1 hs, ih hshaped.2⟩

/-- The segments start with a text only if the tokens start with a plain one. -/
theorem Joined.head_isText {ss : List Segment} (h : Joined ts ss)
    (hnext : ∀ t ∈ ts.head?, t.kind.isPlain = false) : ∀ s ∈ ss.head?, s.isText = false := by
  cases h with
  | nil => simp
  | island hs h => simpa using isText_of_segment? hs
  | @plain run ts ss hne hrun =>
    obtain ⟨t, run, rfl⟩ := List.exists_cons_of_ne_nil hne
    have hplain := hrun t List.mem_cons_self
    have hhead : t.kind.isPlain = false := hnext t rfl
    rw [hplain] at hhead
    contradiction

theorem Joined.isChain {ss : List Segment} (h : Joined ts ss) :
    ss.IsChain fun s s' => ¬ (s.isText ∧ s'.isText) := by
  induction h with
  | nil => exact .nil
  | island hs h ih =>
    refine List.isChain_cons.2 ⟨?_, ih⟩
    rintro s' - ⟨htext, -⟩
    rw [isText_of_segment? hs] at htext
    contradiction
  | @plain run ts ss hne hrun hnext h ih =>
    rcases plainSegments_eq run with hnone | ⟨text, -, -, hone⟩
    · rwa [hnone]
    · rw [hone]
      refine List.isChain_cons.2 ⟨?_, ih⟩
      rintro s' hs' ⟨-, htext⟩
      rw [h.head_isText hnext s' hs'] at htext
      contradiction

theorem wellFormed_of_line {l : Line} (h : line ts l rest) (hshaped : ∀ t ∈ ts, t.Shaped) :
    l.WellFormed := by
  obtain ⟨dash, used, mid, ss, rfl, -, -, hjoined, -, rfl⟩ := line_iff.1 h
  have hused : ∀ t ∈ used, t.Shaped := fun t ht => hshaped t (by simp [ht])
  exact ⟨hjoined.wellFormed hused, hjoined.isChain⟩

/-- Several lines are some. -/
theorem wellFormed_of_lines {ls : List Line} (h : lines ts ls rest) (hshaped : ∀ t ∈ ts, t.Shaped) :
    ls ≠ [] ∧ ∀ l ∈ ls, l.WellFormed := by
  obtain ⟨hne, hmany⟩ := many1_iff.1 h
  refine ⟨hne, fun l hl => ?_⟩
  obtain ⟨start, mid, hstart, hline⟩ := Template.exists_suffix_of_many line_byKinds hmany hl
  exact wellFormed_of_line hline fun t ht => hshaped t (hstart.subset ht)

theorem isCase_of_caseRule {clause : Clause} (h : caseRule ts clause rest)
    (hshaped : ∀ t ∈ ts, t.Shaped) :
    clause.IsCase ts ∧ ∀ l ∈ clause.lines, l.WellFormed := by
  obtain ⟨dash, keyword, tail, condition, mid, ls, rfl, -, -, hcondition, hlines, rfl⟩ :=
    caseRule_iff.1 h
  have hmid := Template.suffix_of_readCondition hcondition
  have htail : ∀ t ∈ tail, t ∈ dash :: keyword :: tail := fun t ht => by simp [ht]
  obtain ⟨hne, hwell⟩ := wellFormed_of_lines hlines fun t ht => hshaped t (htail t (hmid.subset ht))
  obtain ⟨t, _, _, _, ht, -, -, rfl⟩ := readCondition_eq_ok_iff.1 hcondition
  obtain ⟨rfl, hkind⟩ := terminal_iff.1 ht
  have hmem : t ∈ dash :: keyword :: t :: _ := htail t List.mem_cons_self
  exact ⟨⟨hne, _, rfl, t, hmem, hkind, (hshaped t hmem).encloses_expression hkind⟩, hwell⟩

theorem isDefault_of_defaultRule {clause : Clause} (h : defaultRule ts clause rest)
    (hshaped : ∀ t ∈ ts, t.Shaped) :
    clause.IsDefault ∧ ∀ l ∈ clause.lines, l.WellFormed := by
  obtain ⟨dash, keyword, tail, mid, ls, rfl, -, -, hend, hlines, rfl⟩ := defaultRule_iff.1 h
  have hmid : mid <:+ tail :=
    (Template.suffix_of_endLine hend).trans (Template.skipBlanks_suffix tail)
  obtain ⟨hne, hwell⟩ := wellFormed_of_lines hlines fun t ht =>
    hshaped t (by simp [hmid.subset ht])
  exact ⟨⟨hne, rfl⟩, hwell⟩

/-- The cases and the default of a body are among its tokens. -/
theorem wellFormed_of_body {b : Body} (h : body ts b rest) (hshaped : ∀ t ∈ ts, t.Shaped) :
    b.WellFormed ts ∧ ∀ l ∈ b.allLines, l.WellFormed := by
  rcases body_iff.1 h with ⟨ls, hlines, rfl⟩ | ⟨cases, mid, otherwise, hne, hcases, hdefault, rfl⟩
  · exact wellFormed_of_lines hlines hshaped
  · have hmid : mid <:+ ts := Template.suffix_of_byKinds caseRule_byKinds.many hcases
    obtain ⟨hotherwise, hlast⟩ :=
      isDefault_of_defaultRule hdefault fun t ht => hshaped t (hmid.subset ht)
    have hall : ∀ clause ∈ cases, clause.IsCase ts ∧ ∀ l ∈ clause.lines, l.WellFormed := by
      intro clause hclause
      obtain ⟨start, mid', hstart, hcase⟩ :=
        Template.exists_suffix_of_many caseRule_byKinds hcases hclause
      obtain ⟨hclause, hlines⟩ :=
        isCase_of_caseRule hcase fun t ht => hshaped t (hstart.subset ht)
      exact ⟨hclause.mono hstart.subset, hlines⟩
    refine ⟨⟨hne, fun clause hclause => (hall clause hclause).1, hotherwise⟩, fun l hl => ?_⟩
    obtain ⟨clause, hclause, hl⟩ := List.mem_flatMap.1 hl
    rcases List.mem_append.1 hclause with hclause | hclause
    · exact (hall clause hclause).2 l hl
    · rw [List.mem_singleton.1 hclause] at hl
      exact hlast l hl

theorem isTemplateName_of_name {n : String} (h : name ts n rest) (hshaped : ∀ t ∈ ts, t.Shaped) :
    Name.isTemplateName n := by
  obtain ⟨_, mid, more, ⟨first, hfirst, rfl⟩, hmore, rfl⟩ := h
  obtain ⟨rfl, hkind⟩ := terminal_iff.1 hfirst
  apply Name.isTemplateName_intercalate (List.cons_ne_nil _ _)
  rw [List.forall_mem_cons]
  refine ⟨(hshaped first List.mem_cons_self).isIdentifier hkind, fun name hname => ?_⟩
  obtain ⟨t, ht, rfl⟩ := List.mem_map.1 hname
  have hseparated : ByKinds (terminal .dot *> terminal .identifier) :=
    (ByKinds.terminal (by decide)).seqRight (.terminal (by decide))
  obtain ⟨start, mid', hstart, hrule⟩ := Template.exists_suffix_of_many hseparated hmore ht
  obtain ⟨dot, rfl, -, hkind⟩ := separated_iff.1 hrule
  have hmem : t ∈ mid := hstart.subset (by simp)
  exact (hshaped t (List.mem_cons_of_mem first hmem)).isIdentifier hkind

theorem wellFormed_of_definition {t : Template} (h : definition ts t rest)
    (hshaped : ∀ t ∈ ts, t.Shaped) : t.WellFormed ts := by
  obtain ⟨hash, tail, rfl, hhash⟩ := head_of_definition h
  obtain ⟨n, mid, ps, mid₁, mid₂, b, hname, hps, hnewline, hbody, rfl⟩ :=
    (definition_iff hhash).1 h
  rw [List.forall_mem_cons] at hshaped
  have hmid : mid <:+ tail := Template.suffix_of_byKinds name_byKinds hname
  have hmid₁ : mid₁ <:+ mid := Template.suffix_of_byKinds parameters_byKinds hps
  have hmid₂ : mid₂ <:+ mid₁ := Template.suffix_of_byKinds newline_byKinds hnewline
  have hsub : mid₂ ⊆ tail := (hmid₂.trans (hmid₁.trans hmid)).subset
  obtain ⟨hwell, hlines⟩ := wellFormed_of_body hbody fun t ht => hshaped.2 t (hsub ht)
  refine ⟨isTemplateName_of_name hname hshaped.2, fun p hp => ?_, ?_, hlines⟩
  · obtain ⟨token, htoken, hkind, rfl⟩ := Template.hasIdentifier_of_parameters hps hp
    exact (hshaped.2 token (hmid.subset htoken)).isIdentifier hkind
  · exact hwell.mono fun t ht => List.mem_cons_of_mem hash (hsub ht)

end Grammar

/-- The templates of an accepted source are well formed, and their conditions are tokens of it. -/
theorem SourceFile.wellFormed_of_parse {source : String} {file : SourceFile}
    (h : parse source = .ok file) :
    ∃ tokens, Token.ofSource source = .ok tokens ∧ ∀ t ∈ file.templates, t.WellFormed tokens := by
  obtain ⟨tokens, htokens, h⟩ := bind_eq_ok.1 h
  obtain ⟨templates, htemplates, h⟩ := bind_eq_ok.1 h
  cases h
  have hshaped : ∀ token ∈ tokens, token.Shaped := Token.shaped_of_scan htokens
  refine ⟨tokens, htokens, fun t ht => ?_⟩
  obtain ⟨start, rest, hstart, hdefinition⟩ := Template.exists_definition_of_readAll htemplates ht
  have hwell : t.WellFormed start :=
    Grammar.wellFormed_of_definition hdefinition fun token htoken =>
      hshaped token (hstart.subset htoken)
  exact ⟨hwell.name, hwell.parameters, hwell.body.mono hstart.subset, hwell.lines⟩

/-- A template with a condition, and with a block and a reference in one line. -/
def stock : SourceFile where
  templates :=
    [⟨"T.a", ["n"], .conditional
        [⟨some "n > 0",
          [⟨[.text "has ", .block "```@\x7bn\x7d```", .text " ", .reference "[U]"],
            ⟨3, 1, 25, 1, none⟩⟩],
          ⟨2, 1, 9, 1, none⟩⟩]
        ⟨none, [⟨[.text "none"], ⟨5, 1, 57, 1, none⟩⟩], ⟨4, 1, 46, 1, none⟩⟩,
      ⟨1, 1, 0, 1, none⟩⟩]
  sourceName := none

theorem SourceFile.stock_wellFormed :
    let source :=
      "# T.a(n)\n- CASE: \x7bn > 0\x7d\n- has ```@\x7bn\x7d``` [U]\n- DEFAULT:\n- none\n"
    parse source = .ok stock ∧
      ∃ tokens, Token.ofSource source = .ok tokens ∧
        ∀ t ∈ stock.templates, t.WellFormed tokens := by
  intro source
  have hparse : parse source = .ok stock := by decide +kernel
  exact ⟨hparse, wellFormed_of_parse hparse⟩

end Phrasebook
