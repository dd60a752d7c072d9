import Phrasebook.Proofs.Template.Acceptance
import Phrasebook.Proofs.Token.Concatenation

namespace Phrasebook

def Line.relocate (f : Location → Location) (l : Line) : Line := { l with location := f l.location }

def Clause.relocate (f : Location → Location) (c : Clause) : Clause :=
  ⟨c.condition, c.lines.map (Line.relocate f), f c.location⟩

def Body.relocate (f : Location → Location) : Body → Body
  | .choice lines => .choice (lines.map (Line.relocate f))
  | .conditional cases otherwise =>
    .conditional (cases.map (Clause.relocate f)) (otherwise.relocate f)

/-- The same template with every location in it changed. -/
def Template.relocate (f : Location → Location) (t : Template) : Template :=
  ⟨t.name, t.parameters, t.body.relocate f, f t.location⟩

@[simp] theorem Token.relocate_kind (f : Location → Location) (t : Token) :
    (t.relocate f).kind = t.kind := rfl

@[simp] theorem Token.relocate_text (f : Location → Location) (t : Token) :
    (t.relocate f).text = t.text := rfl

@[simp] theorem Token.relocate_location (f : Location → Location) (t : Token) :
    (t.relocate f).location = f t.location := rfl

theorem Token.relocate_id : Token.relocate id = id := rfl

theorem Line.relocate_id : Line.relocate id = id := rfl

theorem Clause.relocate_id : Clause.relocate id = id := by
  funext c
  simp [Clause.relocate, Line.relocate_id]

theorem Body.relocate_id : Body.relocate id = id := by
  funext b
  cases b <;> simp [Body.relocate, Line.relocate_id, Clause.relocate_id]

theorem Template.relocate_id : Template.relocate id = id := by
  funext t
  simp [Template.relocate, Body.relocate_id]

theorem Line.relocate_relocate (f g : Location → Location) (l : Line) :
    (l.relocate f).relocate g = l.relocate (g ∘ f) := rfl

theorem Clause.relocate_relocate (f g : Location → Location) (c : Clause) :
    (c.relocate f).relocate g = c.relocate (g ∘ f) := by
  simp [Clause.relocate, Line.relocate_relocate]

theorem Body.relocate_relocate (f g : Location → Location) (b : Body) :
    (b.relocate f).relocate g = b.relocate (g ∘ f) := by
  cases b <;> simp [Body.relocate, Line.relocate_relocate, Clause.relocate_relocate]

theorem Template.relocate_relocate (f g : Location → Location) (t : Template) :
    (t.relocate f).relocate g = t.relocate (g ∘ f) := by
  simp [Template.relocate, Body.relocate_relocate]

@[simp] theorem Template.relocate_name (f : Location → Location) (t : Template) :
    (t.relocate f).name = t.name := rfl

namespace Rule

variable {α β : Type} {f : Location → Location} {S : α → α → Prop} {T : β → β → Prop}

/-- The relation that a function is. -/
def Graph (v : α → α) (a b : α) : Prop := b = v a

/-- The relation of functions that take related values to related values. -/
def Along (S : α → α → Prop) (T : β → β → Prop) (g h : α → β) : Prop :=
  ∀ ⦃a b⦄, S a b → T (g a) (h b)

/-- The rule takes tokens from the front, none of which is the end of the input. It derives a
related value from the same tokens at other places, in front of any rest that is at its end if the
first is. -/
def Carries (f : Location → Location) (S : α → α → Prop) (r : Rule α) : Prop :=
  ∀ ⦃ts a rest⦄, r ts a rest → ∃ used, ts = used ++ rest ∧ (∀ t ∈ used, t.kind ≠ .endOfInput) ∧
    ∀ rest', (Token.nextKind rest = .endOfInput → Token.nextKind rest' = .endOfInput) →
      ∃ b, S a b ∧ r (used.map (.relocate f) ++ rest') b rest'

/-- The rule takes at least one token, and with the end of a line it is done whatever follows. -/
def Closes (f : Location → Location) (S : α → α → Prop) (r : Rule α) : Prop :=
  ∀ ⦃ts a rest⦄, r ts a rest → ∃ used, ts = used ++ rest ∧ (∀ t ∈ used, t.kind ≠ .endOfInput) ∧
    used ≠ [] ∧
    ∀ rest', (Token.nextKind rest = .endOfInput → Token.nextKind rest' = .endOfInput) ∨
        Token.EndLine used →
      ∃ b, S a b ∧ r (used.map (.relocate f) ++ rest') b rest'

theorem Closes.carries {r : Rule α} (h : Closes f S r) : Carries f S r := by
  intro ts a rest hr
  obtain ⟨used, hts, hused, -, hmove⟩ := h hr
  exact ⟨used, hts, hused, fun rest' hend => hmove rest' (.inl hend)⟩

/-- Behind tokens of which none is the end of the input, only the rest can be at its end. -/
theorem end_of_append {used rest rest' : List Token} (hused : ∀ t ∈ used, t.kind ≠ .endOfInput)
    (hend : Token.nextKind rest = .endOfInput → Token.nextKind rest' = .endOfInput) :
    Token.nextKind (used ++ rest) = .endOfInput →
      Token.nextKind (used.map (.relocate f) ++ rest') = .endOfInput := by
  cases used with
  | nil => exact hend
  | cons t used => exact fun h => absurd h (hused t List.mem_cons_self)

theorem not_end_of_append {used rest : List Token} (hused : ∀ t ∈ used, t.kind ≠ .endOfInput)
    (hne : used ≠ []) : Token.nextKind (used ++ rest) ≠ .endOfInput := by
  obtain ⟨t, used, rfl⟩ := List.exists_cons_of_ne_nil hne
  exact hused t List.mem_cons_self

theorem endLine_of_append {before used : List Token} (hne : used ≠ [])
    (h : Token.EndLine (before ++ used)) : Token.EndLine used := by
  obtain ⟨front, last, heq, hlast⟩ := h
  have hsplit : used.dropLast ++ [used.getLast hne] = used := List.dropLast_concat_getLast hne
  rw [← hsplit, ← List.append_assoc] at heq
  obtain ⟨-, rfl⟩ := List.append_singleton_inj.1 heq
  exact ⟨_, _, hsplit.symm, hlast⟩

theorem carries_pure {a : α} (h : S a a) : Carries f S (pure a) := by
  rintro ts _ _ ⟨rfl, rfl⟩
  exact ⟨[], rfl, by simp, fun rest' _ => ⟨a, h, rfl, rfl⟩⟩

theorem Carries.map {r : Rule α} {g : α → β} (h : Carries f S r) (hg : Along S T g g) :
    Carries f T (g <$> r) := by
  rintro ts _ rest ⟨a, hr, rfl⟩
  obtain ⟨used, rfl, hused, hmove⟩ := h hr
  refine ⟨used, rfl, hused, fun rest' hend => ?_⟩
  obtain ⟨b, hab, hb⟩ := hmove rest' hend
  exact ⟨g b, hg hab, b, hb, rfl⟩

theorem Closes.map {r : Rule α} {g : α → β} (h : Closes f S r) (hg : Along S T g g) :
    Closes f T (g <$> r) := by
  rintro ts _ rest ⟨a, hr, rfl⟩
  obtain ⟨used, rfl, hused, hne, hmove⟩ := h hr
  refine ⟨used, rfl, hused, hne, fun rest' hend => ?_⟩
  obtain ⟨b, hab, hb⟩ := hmove rest' hend
  exact ⟨g b, hg hab, b, hb, rfl⟩

theorem Carries.seq {r : Rule (α → β)} {s : Rule α} (hr : Carries f (Along S T) r)
    (hs : Carries f S s) : Carries f T (r <*> s) := by
  rintro ts _ rest ⟨g, mid, a, hg, ha, rfl⟩
  obtain ⟨before, rfl, hbefore, hmove⟩ := hr hg
  obtain ⟨used, rfl, hused, hmove'⟩ := hs ha
  refine ⟨before ++ used, (List.append_assoc ..).symm,
    List.forall_mem_append.2 ⟨hbefore, hused⟩, ?_⟩
  intro rest' hend
  obtain ⟨b, hab, hb⟩ := hmove' rest' hend
  obtain ⟨h, hgh, hh⟩ := hmove _ (end_of_append hused hend)
  rw [List.map_append, List.append_assoc]
  exact ⟨h b, hgh hab, h, _, b, hh, hb, rfl⟩

/-- What follows takes a token, so what comes first has no end of the input behind it. -/
theorem Carries.closes_seq {r : Rule (α → β)} {s : Rule α} (hr : Carries f (Along S T) r)
    (hs : Closes f S s) : Closes f T (r <*> s) := by
  rintro ts _ rest ⟨g, mid, a, hg, ha, rfl⟩
  obtain ⟨before, rfl, hbefore, hmove⟩ := hr hg
  obtain ⟨used, rfl, hused, hne, hmove'⟩ := hs ha
  refine ⟨before ++ used, (List.append_assoc ..).symm, List.forall_mem_append.2 ⟨hbefore, hused⟩,
    List.append_ne_nil_of_right_ne_nil _ hne, ?_⟩
  intro rest' hend
  obtain ⟨b, hab, hb⟩ := hmove' rest' (hend.imp_right (endLine_of_append hne))
  obtain ⟨h, hgh, hh⟩ := hmove (used.map (.relocate f) ++ rest')
    fun hmid => absurd hmid (not_end_of_append hused hne)
  rw [List.map_append, List.append_assoc]
  exact ⟨h b, hgh hab, h, _, b, hh, hb, rfl⟩

theorem Carries.seqLeft {r : Rule α} {s : Rule β} (hr : Carries f S r) (hs : Carries f T s) :
    Carries f S (r <* s) := by
  rw [seqLeft_eq_seq]
  exact Carries.seq (hr.map (by intro a b hab _ _ _; exact hab)) hs

theorem Carries.seqRight {r : Rule α} {s : Rule β} (hr : Carries f S r) (hs : Carries f T s) :
    Carries f T (r *> s) := by
  rw [seqRight_eq_seq]
  exact Carries.seq (hr.map (by intro _ _ _ _ _ hab; exact hab)) hs

theorem Carries.orElse {r s : Rule α} (hr : Carries f S r) (hs : Carries f S s) :
    Carries f S (r <|> s) := by
  rintro ts a rest (ha | ha)
  · obtain ⟨used, hts, hused, hmove⟩ := hr ha
    exact ⟨used, hts, hused, fun rest' hend => (hmove rest' hend).imp fun _ h => ⟨h.1, .inl h.2⟩⟩
  · obtain ⟨used, hts, hused, hmove⟩ := hs ha
    exact ⟨used, hts, hused, fun rest' hend => (hmove rest' hend).imp fun _ h => ⟨h.1, .inr h.2⟩⟩

theorem Closes.orElse {r s : Rule α} (hr : Closes f S r) (hs : Closes f S s) :
    Closes f S (r <|> s) := by
  rintro ts a rest (ha | ha)
  · obtain ⟨used, hts, hused, hne, hmove⟩ := hr ha
    exact ⟨used, hts, hused, hne,
      fun rest' hend => (hmove rest' hend).imp fun _ h => ⟨h.1, .inl h.2⟩⟩
  · obtain ⟨used, hts, hused, hne, hmove⟩ := hs ha
    exact ⟨used, hts, hused, hne,
      fun rest' hend => (hmove rest' hend).imp fun _ h => ⟨h.1, .inr h.2⟩⟩

theorem closes_terminal {kind : TokenKind} (hkind : kind ≠ .endOfInput) :
    Closes f (Graph (.relocate f)) (terminal kind) := by
  rintro ts t rest ⟨rfl⟩
  exact ⟨[t], rfl, by simpa using hkind, List.cons_ne_nil t [], fun rest' _ => ⟨_, rfl, ⟨rfl⟩⟩⟩

theorem atEnd_iff {ts rest : List Token} {a : Unit} :
    atEnd ts a rest ↔ Token.nextKind ts = .endOfInput ∧ ts = rest := by
  cases ts <;> simp [atEnd, Token.nextKind, Token.peek, Token.endAt]

theorem carries_atEnd : Carries f Eq atEnd := by
  intro ts a rest h
  obtain ⟨hend, rfl⟩ := atEnd_iff.1 h
  exact ⟨[], rfl, by simp, fun rest' hrest => ⟨a, rfl, atEnd_iff.2 ⟨hrest hend, rfl⟩⟩⟩

theorem Carries.many {r : Rule α} {v : α → α} (h : Carries f (Graph v) r) :
    Carries f (Graph (List.map v)) (many r) := by
  intro ts as rest hmany
  induction hmany with
  | nil => exact ⟨[], rfl, by simp, fun rest' _ => ⟨[], rfl, .nil⟩⟩
  | cons ha _ ih =>
    obtain ⟨used, rfl, hused, hmove'⟩ := ih
    obtain ⟨before, rfl, hbefore, hmove⟩ := h ha
    refine ⟨before ++ used, (List.append_assoc ..).symm,
      List.forall_mem_append.2 ⟨hbefore, hused⟩, fun rest' hend => ?_⟩
    obtain ⟨_, rfl, hbs⟩ := hmove' rest' hend
    obtain ⟨_, rfl, hb⟩ := hmove _ (end_of_append hused hend)
    rw [List.map_append, List.append_assoc]
    exact ⟨_, rfl, .cons hb hbs⟩

/-- The last round closes them all. -/
theorem Closes.many {r : Rule α} {v : α → α} (h : Closes f (Graph v) r) {ts rest : List Token}
    {as : List α} (hmany : many r ts as rest) : ∃ used, ts = used ++ rest ∧
      (∀ t ∈ used, t.kind ≠ .endOfInput) ∧ (as ≠ [] → used ≠ []) ∧
      ∀ rest', (Token.nextKind rest = .endOfInput → Token.nextKind rest' = .endOfInput) ∨
          (used ≠ [] → Token.EndLine used) →
        many r (used.map (.relocate f) ++ rest') (as.map v) rest' := by
  induction hmany with
  | nil => exact ⟨[], rfl, by simp, by simp, fun rest' _ => .nil⟩
  | cons ha _ ih =>
    obtain ⟨used, rfl, hused, -, hmove'⟩ := ih
    obtain ⟨before, rfl, hbefore, hne, hmove⟩ := h ha
    have hall : before ++ used ≠ [] := List.append_ne_nil_of_left_ne_nil hne _
    refine ⟨before ++ used, (List.append_assoc ..).symm,
      List.forall_mem_append.2 ⟨hbefore, hused⟩, fun _ => hall, fun rest' hend => ?_⟩
    have hend := hend.imp_right fun h => h hall
    rw [List.map_append, List.append_assoc]
    by_cases hnil : used = []
    · subst hnil
      rw [List.append_nil] at hend
      obtain ⟨_, rfl, hb⟩ := hmove rest' hend
      exact .cons hb (hmove' rest' (.inr fun hne => absurd rfl hne))
    · obtain ⟨_, rfl, hb⟩ := hmove (used.map (.relocate f) ++ rest')
        (.inl fun hmid => absurd hmid (not_end_of_append hused hnil))
      exact .cons hb (hmove' rest' (hend.imp_right fun h _ => endLine_of_append hnil h))

theorem Closes.many1 {r : Rule α} {v : α → α} (h : Closes f (Graph v) r) :
    Closes f (Graph (List.map v)) (many1 r) := by
  intro ts as rest hmany
  obtain ⟨hne, hmany⟩ := many1_iff.1 hmany
  obtain ⟨used, hts, hused, htakes, hmove⟩ := h.many hmany
  refine ⟨used, hts, hused, htakes hne, fun rest' hend => ⟨_, rfl, many1_iff.2 ⟨?_, ?_⟩⟩⟩
  · simpa using hne
  · exact hmove rest' (hend.imp_right fun h _ => h)

theorem many_append {r : Rule α} {ts mid rest : List Token} {as bs : List α}
    (has : many r ts as mid) (hbs : many r mid bs rest) : many r ts (as ++ bs) rest := by
  induction has with
  | nil => exact hbs
  | cons h _ ih => exact .cons h (ih hbs)

end Rule

namespace Grammar

open Rule

variable {f : Location → Location}

theorem carries_terminal {kind : TokenKind} (hkind : kind ≠ .endOfInput) :
    Carries f (Graph (.relocate f)) (terminal kind) := (closes_terminal hkind).carries

theorem carries_newline : Carries f Eq newline :=
  ((carries_terminal (by decide)).map fun _ _ _ => rfl).orElse carries_atEnd

theorem carries_separated {kind : TokenKind} (hkind : kind ≠ .endOfInput) :
    Carries f (Graph (.relocate f)) (terminal kind *> terminal .identifier) :=
  (carries_terminal hkind).seqRight (carries_terminal (by decide))

theorem map_text (ts : List Token) :
    (ts.map (Token.relocate f)).map Token.text = ts.map Token.text := by
  simp [Function.comp_def]

theorem carries_name : Carries f Eq name := by
  refine ((carries_terminal (by decide)).map ?_).seq (carries_separated (by decide)).many
  rintro first _ rfl more _ rfl
  simp only [map_text, Token.relocate_text]

theorem carries_parameters : Carries f Eq parameters := by
  refine ((((carries_separated (by decide)).map ?_).seq
    (carries_separated (by decide)).many).seqLeft (carries_terminal (by decide))).orElse
      (carries_pure rfl)
  rintro first _ rfl more _ rfl
  simp only [map_text, Token.relocate_text]

theorem carries_blanks : Carries f (Graph (List.map (.relocate f))) blanks :=
  (carries_terminal (by decide)).many

/-- The segments of tokens do not tell where these stand. -/
theorem joined_relocate {ts : List Token} {ss : List Segment} (h : Joined ts ss) :
    Joined (ts.map (.relocate f)) ss := by
  induction h with
  | nil => exact .nil
  | @plain run ts ss hne hrun hnext h ih =>
    have hrun' : ∀ t ∈ run.map (Token.relocate f), t.kind.isPlain := by simpa using hrun
    have hplain := Joined.plain (by simpa using hne) hrun' (by simpa using hnext) ih
    rw [plainSegments, map_text] at hplain
    rw [List.map_append]
    exact hplain
  | island hs h ih => exact .island hs ih

theorem closes_line : Closes f (Graph (.relocate f)) line := by
  intro ts l rest h
  obtain ⟨dash, content, mid, ss, rfl, hdash, hcontent, hss, hnewline, rfl⟩ := line_iff.1 h
  have hmove {mid' rest' : List Token} (hnewline' : newline mid' () rest') :
      line ((dash :: content).map (.relocate f) ++ mid') ⟨ss, f dash.location⟩ rest' :=
    line_iff.2 ⟨dash.relocate f, content.map (.relocate f), mid', ss, rfl, hdash,
      by simpa using hcontent, joined_relocate hss, hnewline', rfl⟩
  have hfront : ∀ t ∈ dash :: content, t.kind = .dash ∨ t.kind.isContent :=
    List.forall_mem_cons.2 ⟨.inl hdash, fun t ht => .inr (hcontent t ht)⟩
  have hnot {kind : TokenKind} (hkind : kind ≠ .dash ∧ kind.isContent = false) :
      ∀ t ∈ dash :: content, t.kind ≠ kind := by
    rintro t ht rfl
    rcases hfront t ht with h | h
    · exact hkind.1 h
    · rw [hkind.2] at h
      contradiction
  rcases hnewline with ⟨t, ht, -⟩ | hend
  · obtain ⟨rfl, hkind⟩ := terminal_iff.1 ht
    refine ⟨dash :: content ++ [t], by simp, ?_, by simp, fun rest' _ => ⟨_, rfl, ?_⟩⟩
    · rw [List.forall_mem_append]
      exact ⟨hnot (by decide), by simp [hkind]⟩
    · rw [List.map_append, List.append_assoc]
      exact hmove (.inl ⟨_, .intro hkind, rfl⟩)
  · obtain ⟨hkind, rfl⟩ := atEnd_iff.1 hend
    refine ⟨dash :: content, rfl, hnot (by decide), List.cons_ne_nil _ _, fun rest' hrest => ?_⟩
    refine ⟨_, rfl, hmove (.inr (atEnd_iff.2 ⟨?_, rfl⟩))⟩
    rcases hrest with hrest | ⟨front, last, heq, hlast⟩
    · exact hrest hkind
    · have hmem : last ∈ dash :: content := heq ▸ List.mem_append_right _ List.mem_cons_self
      exact absurd hlast (hnot (by decide) last hmem)

theorem closes_lines : Closes f (Graph (List.map (.relocate f))) lines := closes_line.many1

theorem closes_caseRule : Closes f (Graph (.relocate f)) caseRule := by
  refine ((((((carries_terminal (by decide)).map ?_).seqLeft (carries_terminal (by decide))).seq
    (carries_terminal (by decide))).seqLeft carries_blanks).seqLeft carries_newline).closes_seq
      closes_lines
  rintro dash _ rfl condition _ rfl ls _ rfl
  rfl

theorem closes_defaultRule : Closes f (Graph (.relocate f)) defaultRule := by
  refine (((((carries_terminal (by decide)).map ?_).seqLeft (carries_terminal (by decide))).seqLeft
    carries_blanks).seqLeft carries_newline).closes_seq closes_lines
  rintro dash _ rfl ls _ rfl
  rfl

theorem closes_body : Closes f (Graph (.relocate f)) body := by
  refine (closes_lines.map ?_).orElse
    ((closes_caseRule.many1.carries.map ?_).closes_seq closes_defaultRule)
  · rintro ls _ rfl
    rfl
  · rintro cases _ rfl otherwise _ rfl
    rfl

theorem closes_definition : Closes f (Graph (.relocate f)) definition := by
  refine (((((carries_terminal (by decide)).map ?_).seq carries_name).seq
    carries_parameters).seqLeft carries_newline).closes_seq closes_body
  rintro hash _ rfl name _ rfl parameters _ rfl b _ rfl
  rfl

/-- A paragraph that takes tokens. -/
def piece : Rule (Option Template) :=
  (fun _ => none) <$> terminal .newline <|> some <$> definition

theorem closes_piece : Closes f (Graph (Option.map (.relocate f))) piece := by
  refine ((closes_terminal (by decide)).map ?_).orElse (closes_definition.map ?_)
  · rintro t _ rfl
    rfl
  · rintro t _ rfl
    rfl

/-- What paragraphs derive, pieces do: a paragraph that takes no tokens holds no template. -/
theorem pieces_of_paragraphs {ts rest : List Token} {ps : List (Option Template)}
    (h : many paragraph ts ps rest) :
    ∃ qs, many piece ts qs rest ∧ qs.filterMap id = ps.filterMap id := by
  induction h with
  | nil => exact ⟨[], .nil, rfl⟩
  | cons hp _ ih =>
    obtain ⟨qs, hqs, heq⟩ := ih
    rcases hp with ⟨_, ht | hend, rfl⟩ | hdefinition
    · obtain ⟨t, ht, -⟩ := ht
      exact ⟨none :: qs, .cons (.inl ⟨t, ht, rfl⟩) hqs, by simpa using heq⟩
    · obtain ⟨-, rfl⟩ := atEnd_iff.1 hend
      exact ⟨qs, hqs, by simpa using heq⟩
    · obtain ⟨t, ht, rfl⟩ := hdefinition
      exact ⟨some t :: qs, .cons (.inr ⟨t, ht, rfl⟩) hqs, by simpa using heq⟩

theorem paragraphs_of_pieces {ts rest : List Token} {ps : List (Option Template)}
    (h : many piece ts ps rest) : many paragraph ts ps rest := by
  induction h with
  | nil => exact .nil
  | cons hp _ ih =>
    refine .cons ?_ ih
    rcases hp with ⟨t, ht, rfl⟩ | hdefinition
    · exact .inl ⟨(), .inl ⟨t, ht, rfl⟩, rfl⟩
    · exact .inr hdefinition

theorem readAll_iff_pieces {ts : List Token} {templates : List Template} :
    Template.readAll ts = .ok templates ↔ ∃ ps rest, many piece ts ps rest ∧
      Token.nextKind rest = .endOfInput ∧ ps.filterMap id = templates := by
  rw [readAll_eq_ok_iff]
  constructor
  · rintro ⟨ps, rest, hps, hrest, rfl⟩
    obtain ⟨qs, hqs, heq⟩ := pieces_of_paragraphs hps
    exact ⟨qs, rest, hqs, hrest, heq⟩
  · rintro ⟨ps, rest, hps, hrest, rfl⟩
    exact ⟨ps, rest, paragraphs_of_pieces hps, hrest, rfl⟩

theorem readAll_relocate {ts : List Token} {templates : List Template}
    (h : Template.readAll ts = .ok templates) :
    Template.readAll (ts.map (.relocate f)) = .ok (templates.map (.relocate f)) := by
  obtain ⟨ps, rest, hps, hrest, rfl⟩ := readAll_iff_pieces.1 h
  obtain ⟨used, rfl, -, -, hmove⟩ := (closes_piece (f := f)).many hps
  have hrest' : Token.nextKind (rest.map (.relocate f)) = .endOfInput := by
    cases rest with
    | nil => rfl
    | cons t rest => exact hrest
  rw [List.map_append]
  refine readAll_iff_pieces.2 ⟨_, _, hmove _ (.inl fun _ => hrest'), hrest', ?_⟩
  rw [List.filterMap_map, List.map_filterMap]
  rfl

/-- Tokens that end with the end of a line may be followed by any others. -/
theorem readAll_append {front back : List Token} {last : Token} {first second : List Template}
    (hfront : front ≠ [] → Token.EndLine front) (hclosed : Token.Closed (front ++ [last]))
    (h₁ : Template.readAll (front ++ [last]) = .ok first)
    (h₂ : Template.readAll back = .ok second) :
    Template.readAll (front ++ back) = .ok (first ++ second) := by
  obtain ⟨ps, rest, hps, hrest, rfl⟩ := readAll_iff_pieces.1 h₁
  obtain ⟨qs, rest', hqs, hrest', rfl⟩ := readAll_iff_pieces.1 h₂
  obtain ⟨used, hts, hused, -, hmove⟩ := (closes_piece (f := id)).many hps
  obtain ⟨_, rfl, -⟩ := eq_last_of_closed hclosed ⟨used, hts, hused⟩ hrest
  obtain ⟨rfl, -⟩ := List.append_singleton_inj.1 hts
  have hps' := hmove back (.inr hfront)
  rw [Token.relocate_id, List.map_id, Template.relocate_id, Option.map_id, List.map_id] at hps'
  refine readAll_iff_pieces.2 ⟨ps ++ qs, rest', many_append hps' hqs, hrest', ?_⟩
  exact List.filterMap_append

end Grammar

end Phrasebook
