import Phrasebook.Proofs.Template.Acceptance
import Phrasebook.Proofs.Token.Tiling

namespace Phrasebook

namespace Template

open Grammar Rule

/-- The location is that of one of the tokens, or that of an exhausted list. -/
def Blames (ts : List Token) (l : Location) : Prop := ∃ t ∈ Token.endAt .start :: ts, t.location = l

variable {ts rest : List Token} {e : ParseError}

theorem blames_peek (ts : List Token) : Blames ts (Token.peek ts).location := by
  cases ts with
  | nil => exact ⟨_, List.mem_cons_self, rfl⟩
  | cons t ts => exact ⟨t, List.mem_cons_of_mem _ List.mem_cons_self, rfl⟩

theorem Blames.of_suffix {l : Location} (h : Blames rest l) (hsuffix : rest <:+ ts) :
    Blames ts l := by
  obtain ⟨t, ht, hl⟩ := h
  refine ⟨t, ?_, hl⟩
  rcases List.mem_cons.1 ht with rfl | ht
  · exact List.mem_cons_self
  · exact List.mem_cons_of_mem _ (hsuffix.subset ht)

theorem suffix_of_byKinds {α : Type} {r : Rule α} {a : α} (hr : ByKinds r) (h : r ts a rest) :
    rest <:+ ts := by
  obtain ⟨used, rfl, -⟩ := hr.used h
  exact List.suffix_append used rest

theorem expect_blames {kind : TokenKind} (h : expect kind ts = .error e) :
    Blames ts e.location := by
  unfold expect at h
  split at h
  · cases h
    exact blames_peek []
  · split at h
    · cases h
    · cases h
      exact blames_peek _

theorem suffix_of_expect {kind : TokenKind} {t : Token} (h : expect kind ts = .ok (t, rest)) :
    rest <:+ ts := by
  obtain ⟨rfl, -⟩ := terminal_iff.1 (expect_eq_ok_iff.1 h)
  exact List.suffix_cons t rest

theorem endLine_blames (h : endLine ts = .error e) : Blames ts e.location := by
  unfold endLine at h
  split at h
  · cases h
  · cases h
    exact blames_peek ts

theorem nameTail_blames {first : String} (h : nameTail first ts = .error e) :
    Blames ts e.location := by
  fun_induction nameTail first ts with
  | case2 first t hdot =>
    cases h
    exact (blames_peek []).of_suffix (List.nil_suffix)
  | case4 first t u ts hdot hname ih =>
    exact (ih h).of_suffix ((List.suffix_cons u ts).trans (List.suffix_cons t _))
  | case5 first t u ts hdot hname =>
    cases h
    exact (blames_peek (u :: ts)).of_suffix (List.suffix_cons t _)
  | _ => cases h

theorem readName_blames (h : readName ts = .error e) : Blames ts e.location := by
  rcases bind_eq_error.1 h with h | ⟨⟨t, mid⟩, hfirst, h⟩
  · exact expect_blames h
  · exact (nameTail_blames h).of_suffix (suffix_of_expect hfirst)

theorem parameterTail_blames (h : parameterTail ts = .error e) : Blames ts e.location := by
  fun_induction parameterTail ts with
  | case1 =>
    cases h
    exact blames_peek []
  | case2 t hcomma =>
    cases h
    exact (blames_peek []).of_suffix (List.nil_suffix)
  | case3 => cases h
  | case4 t hcomma hclose =>
    cases h
    exact blames_peek [t]
  | case5 t u ts hcomma hname ih =>
    rcases bind_eq_error.1 h with h | ⟨_, -, h⟩
    · exact (ih h).of_suffix ((List.suffix_cons u ts).trans (List.suffix_cons t _))
    · cases h
  | case6 t u ts hcomma hname =>
    cases h
    exact (blames_peek (u :: ts)).of_suffix (List.suffix_cons t _)
  | case7 => cases h
  | case8 t u ts hcomma hclose =>
    cases h
    exact blames_peek (t :: u :: ts)

theorem readParameters_blames (h : readParameters ts = .error e) : Blames ts e.location := by
  unfold readParameters at h
  split at h
  · rcases bind_eq_error.1 h with h | ⟨⟨_, mid⟩, hopen, h⟩
    · exact expect_blames h
    have hmid := suffix_of_expect hopen
    rcases bind_eq_error.1 h with h | ⟨⟨_, mid₁⟩, hfirst, h⟩
    · exact (expect_blames h).of_suffix hmid
    have hmid₁ := (suffix_of_expect hfirst).trans hmid
    rcases bind_eq_error.1 h with h | ⟨_, -, h⟩
    · exact (parameterTail_blames h).of_suffix hmid₁
    · cases h
  · cases h

theorem afterContent_suffix (ts : List Token) : afterContent ts <:+ ts := List.dropWhile_suffix _

theorem afterNewline_suffix (ts : List Token) : afterNewline ts <:+ ts := by
  cases ts with
  | nil => exact List.suffix_rfl
  | cons t ts =>
    rw [afterNewline]
    split
    · exact List.suffix_cons t ts
    · exact List.suffix_rfl

theorem readLines_blames (h : readLines ts = .error e) : Blames ts e.location := by
  fun_induction readLines ts with
  | case3 dash ts hstarts hend e' heq ih =>
    cases h
    have hsuffix := (afterNewline_suffix _).trans (afterContent_suffix ts)
    exact (ih heq).of_suffix (hsuffix.trans (List.suffix_cons dash ts))
  | case4 dash ts hstarts hend =>
    cases h
    exact (blames_peek _).of_suffix ((afterContent_suffix ts).trans (List.suffix_cons dash ts))
  | _ => cases h

theorem readBodyLines_blames (h : readBodyLines ts = .error e) : Blames ts e.location := by
  unfold readBodyLines at h
  split at h
  · rename_i rest hread
    cases h
    have hmany := (readLines_eq_ok_iff.1 hread).1
    exact (blames_peek rest).of_suffix (suffix_of_byKinds line_byKinds.many hmany)
  · exact readLines_blames h

theorem suffix_of_readBodyLines {ls : List Line} (h : readBodyLines ts = .ok (ls, rest)) :
    rest <:+ ts :=
  suffix_of_byKinds lines_byKinds (readBodyLines_eq_ok_iff.1 h).1

theorem skipBlanks_suffix (ts : List Token) : skipBlanks ts <:+ ts := List.dropWhile_suffix _

theorem suffix_of_endLine (h : endLine ts = .ok rest) : rest <:+ ts :=
  suffix_of_byKinds newline_byKinds (endLine_eq_ok_iff.1 h)

theorem readCondition_blames (h : readCondition ts = .error e) : Blames ts e.location := by
  rcases bind_eq_error.1 h with h | ⟨⟨_, mid⟩, hcondition, h⟩
  · exact expect_blames h
  rcases bind_eq_error.1 h with h | ⟨_, -, h⟩
  · exact (endLine_blames h).of_suffix ((skipBlanks_suffix mid).trans (suffix_of_expect hcondition))
  · cases h

theorem suffix_of_readCondition {condition : String}
    (h : readCondition ts = .ok (condition, rest)) : rest <:+ ts := by
  obtain ⟨⟨_, mid⟩, hcondition, h⟩ := bind_eq_ok.1 h
  obtain ⟨mid₁, hend, h⟩ := bind_eq_ok.1 h
  cases h
  exact (suffix_of_endLine hend).trans ((skipBlanks_suffix mid).trans (suffix_of_expect hcondition))

theorem suffix_behind_keyword (dash keyword : Token) (ts : List Token) :
    ts <:+ dash :: keyword :: ts :=
  (List.suffix_cons keyword ts).trans (List.suffix_cons dash _)

theorem readCases_blames (h : readCases ts = .error e) : Blames ts e.location := by
  fun_induction readCases ts with
  | case1 dash keyword tail hstarts e' hcondition =>
    cases h
    exact (readCondition_blames hcondition).of_suffix (suffix_behind_keyword dash keyword tail)
  | case2 dash keyword tail hstarts condition mid hcondition e' hlines =>
    cases h
    have htail := suffix_behind_keyword dash keyword tail
    have hmid := (suffix_of_readCondition hcondition).trans htail
    exact (readBodyLines_blames hlines).of_suffix hmid
  | case3 dash keyword tail hstarts condition mid hcondition ls mid₁ hlines e' heq ih =>
    cases h
    have htail := suffix_behind_keyword dash keyword tail
    have hmid := (suffix_of_readCondition hcondition).trans htail
    exact (ih heq).of_suffix ((suffix_of_readBodyLines hlines).trans hmid)
  | _ => cases h

theorem readDefault_blames (h : readDefault ts = .error e) : Blames ts e.location := by
  unfold readDefault at h
  split at h
  · rename_i dash keyword tail
    split at h
    · have htail := (skipBlanks_suffix tail).trans (suffix_behind_keyword dash keyword tail)
      rcases bind_eq_error.1 h with h | ⟨mid, hend, h⟩
      · exact (endLine_blames h).of_suffix htail
      rcases bind_eq_error.1 h with h | ⟨_, -, h⟩
      · exact (readBodyLines_blames h).of_suffix ((suffix_of_endLine hend).trans htail)
      · cases h
    · cases h
      exact blames_peek (dash :: keyword :: tail)
  · cases h
    exact blames_peek ts

theorem readBody_blames (h : readBody ts = .error e) : Blames ts e.location := by
  unfold readBody at h
  split at h
  · rcases bind_eq_error.1 h with h | ⟨⟨cases, mid⟩, hcases, h⟩
    · exact readCases_blames h
    have hmid := suffix_of_byKinds caseRule_byKinds.many (readCases_eq_ok_iff.1 hcases).1
    rcases bind_eq_error.1 h with h | ⟨_, -, h⟩
    · exact (readDefault_blames h).of_suffix hmid
    · cases h
  · rcases bind_eq_error.1 h with h | ⟨_, -, h⟩
    · exact readBodyLines_blames h
    · cases h

theorem readDefinition_blames {location : Location} (h : readDefinition location ts = .error e) :
    Blames ts e.location := by
  rcases bind_eq_error.1 h with h | ⟨⟨n, mid⟩, hname, h⟩
  · exact readName_blames h
  have hmid := suffix_of_byKinds name_byKinds (readName_eq_ok_iff.1 hname).1
  rcases bind_eq_error.1 h with h | ⟨⟨ps, mid₁⟩, hparameters, h⟩
  · exact (readParameters_blames h).of_suffix hmid
  have hmid₁ := suffix_of_byKinds parameters_byKinds (readParameters_eq_ok_iff.1 hparameters).1
  rcases bind_eq_error.1 h with h | ⟨mid₂, hend, h⟩
  · exact (endLine_blames h).of_suffix (hmid₁.trans hmid)
  rcases bind_eq_error.1 h with h | ⟨_, -, h⟩
  · exact (readBody_blames h).of_suffix ((suffix_of_endLine hend).trans (hmid₁.trans hmid))
  · cases h

theorem suffix_of_readDefinition {hash : Token} (hhash : hash.kind = .hash) {t : Template}
    (h : readDefinition hash.location ts = .ok (t, rest)) : rest <:+ hash :: ts :=
  suffix_of_byKinds definition_byKinds ((readDefinition_eq_ok_iff hhash).1 h).1

/-- The reader faults a token of its stream. -/
theorem readAll_blames (h : readAll ts = .error e) : Blames ts e.location := by
  fun_induction readAll ts with
  | case1 => cases h
  | case2 t ts hkind ih => exact (ih h).of_suffix (List.suffix_cons t ts)
  | case3 => cases h
  | case4 t ts hkind e' hread =>
    cases h
    exact (readDefinition_blames hread).of_suffix (List.suffix_cons t ts)
  | case5 t ts hkind template mid hread e' heq ih =>
    cases h
    exact (ih heq).of_suffix (suffix_of_readDefinition hkind hread)
  | case6 => cases h
  | case7 t ts =>
    cases h
    exact blames_peek (t :: ts)

end Template

theorem SourceFile.parse_error_fits {source : String} {e : ParseError}
    (h : SourceFile.parse source = .error e) : e.location.Fits source.toList := by
  rcases bind_eq_error.1 h with h | ⟨ts, htokens, h⟩
  · exact Token.scan_error_fits [] h
  · rcases bind_eq_error.1 h with h | ⟨_, -, h⟩
    · obtain ⟨t, ht, hl⟩ := Template.readAll_blames h
      rw [← hl]
      rcases List.mem_cons.1 ht with rfl | ht
      · exact ⟨[], [], source.toList, rfl, rfl, rfl, rfl, rfl⟩
      · exact (Token.scan_laidOut [] htokens).fits t ht
    · cases h

/-- The tokens of a source tile it, in order and with exact locations, and a rejected source is
faulted at the exact location of a stretch of it. -/
theorem SourceFile.locations_exact (source : String) :
    (∀ tokens, Token.ofSource source = .ok tokens → Token.Tile source.toList tokens ∧
      tokens.Pairwise fun t u => t.stop ≤ u.location.offset) ∧
    ∀ e, SourceFile.parse source = .error e → e.location.Fits source.toList := by
  constructor
  · intro tokens h
    exact Token.ofSource_tile h
  · intro e h
    exact SourceFile.parse_error_fits h

/-- A comment with a character of two bytes, an escape, and a stray letter in the second line. -/
theorem SourceFile.locations_exact_behind_comment :
    let tokens : List Token := [⟨.newline, "\n", ⟨1, 4, 4, 1, none⟩⟩,
      ⟨.dash, "-", ⟨2, 1, 5, 1, none⟩⟩, ⟨.text, "[", ⟨2, 3, 7, 2, none⟩⟩,
      ⟨.blanks, " ", ⟨2, 5, 9, 1, none⟩⟩, ⟨.endOfInput, "", ⟨2, 6, 10, 0, none⟩⟩]
    let e : ParseError := ⟨.strayBetween 'x', ⟨2, 2, 6, 1, none⟩⟩
    (Token.ofSource "> é\n- \\[ " = .ok tokens ∧ Token.Tile "> é\n- \\[ ".toList tokens) ∧
      SourceFile.parse "> é\n x" = .error e ∧ e.location.Fits "> é\n x".toList := by
  intro tokens e
  have htokens : Token.ofSource "> é\n- \\[ " = .ok tokens := by decide +kernel
  have herror : SourceFile.parse "> é\n x" = .error e := by decide +kernel
  have htile := ((SourceFile.locations_exact "> é\n- \\[ ").1 tokens htokens).1
  exact ⟨⟨htokens, htile⟩, herror, (SourceFile.locations_exact "> é\n x").2 e herror⟩

end Phrasebook
