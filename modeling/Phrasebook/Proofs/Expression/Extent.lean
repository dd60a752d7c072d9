import Phrasebook.Proofs.Expression.Completeness
import Phrasebook.Proofs.Expression.Soundness
import Phrasebook.Proofs.Text.Balanced

namespace Phrasebook

open Text

namespace Word

section

variable {commas : Bool} {w : Word} {ws : List Word} {cs gap : List Char}

theorem isNestingMark_of_isGap {c : Char} (h : isGap c) : isNestingMark c = false ∧ c ≠ ',' := by
  simp only [isGap, isBlank, isLineEnd, Bool.or_eq_true, decide_eq_true_eq] at h
  rcases h with (rfl | rfl) | (rfl | rfl) <;> decide

theorem balanced_gap (hgap : ∀ c ∈ gap, isGap c) : Balanced commas gap :=
  balanced_of_plain fun c hc => isNestingMark_of_isGap (hgap c hc)

/-- The characters of names and numbers are between the marks and brackets of the code table. -/
theorem isNestingMark_of_continuesName {c : Char} (h : Expr.continuesName c) :
    isNestingMark c = false ∧ c ≠ ',' := by
  have hne : ∀ d : Char, Expr.continuesName d = false → c ≠ d := fun d hd => by
    rintro rfl
    rw [hd] at h
    contradiction
  refine ⟨?_, hne ',' (by decide)⟩
  simp [isNestingMark, isQuote, isOpener, isCloser, hne '\x27' (by decide), hne '"' (by decide),
    hne '(' (by decide), hne '[' (by decide), hne '\x7b' (by decide), hne ')' (by decide),
    hne ']' (by decide), hne '\x7d' (by decide)]

theorem continuesName_of_startsName {c : Char} (h : Expr.startsName c) : Expr.continuesName c := by
  simp only [Expr.startsName, Expr.continuesName, Char.isAlphanum, Bool.or_eq_true] at h ⊢
  rcases h with h | h
  · exact .inl (.inl h)
  · exact .inr h

theorem continuesName_of_isDigit {c : Char} (h : c.isDigit) : Expr.continuesName c := by
  simp [Expr.continuesName, Char.isAlphanum, h]

theorem continuesName_of_isName {name : String} (h : IsName name) :
    ∀ c ∈ name.toList, Expr.continuesName c := by
  obtain ⟨c, cs, hname, hc, hcs⟩ := h
  rw [hname, List.forall_mem_cons]
  exact ⟨continuesName_of_startsName hc, hcs⟩

theorem balanced_of_continuesName (h : ∀ c ∈ cs, Expr.continuesName c) : Balanced commas cs :=
  balanced_of_plain fun c hc => isNestingMark_of_continuesName (h c hc)

theorem Quoted.stringBody {mark : Char} {body content : List Char} (h : Quoted mark body content) :
    StringBody mark body := by
  induction h with
  | nil => exact .nil
  | plain hmark hescape _ ih => exact .plain hmark hescape ih
  | escaped _ _ ih => exact .escaped _ ih

theorem balanced_of_denotes {v : Value} (h : w.Denotes v) (hcs : w.Spelling cs) :
    Balanced commas cs := by
  cases hcs with
  | name name =>
    cases h with
    | null | true | false => exact balanced_of_all (by decide)
  | number hne hdigits =>
    exact balanced_of_continuesName fun c hc => continuesName_of_isDigit (hdigits c hc)
  | decimal whole fraction =>
    cases h with
    | decimal hwhole hfraction hdigits =>
      rw [List.forall_mem_append] at hdigits
      refine Balanced.append ?_ (.plain rfl (by simp) ?_)
      · exact balanced_of_continuesName fun c hc => continuesName_of_isDigit (hdigits.1 c hc)
      · exact balanced_of_continuesName fun c hc => continuesName_of_isDigit (hdigits.2 c hc)
  | text hmark hbody =>
    have hquoted : Balanced commas (_ :: (_ ++ _ :: [])) := .quoted hmark hbody.stringBody .nil
    simpa using hquoted
  | symbol symbol => cases h

theorem balanced_symbol {op : BinaryOp} : Balanced commas op.symbol.toList :=
  balanced_of_all (by cases op <;> decide)

/-- Words between brackets, as the brackets of an index, a list, a call or by themselves. -/
theorem Written.balanced_enclosed {opening closing : String} {o c : Char}
    (hopening : opening.toList = [o]) (hclosing : closing.toList = [c]) (hpair : (o, c) ∈ pairs)
    (hinside : ∀ {cs}, Written ws cs → Balanced true cs)
    (h : Written (.symbol opening :: ws ++ [.symbol closing]) cs) : Balanced commas cs := by
  obtain ⟨gap, inside, gap', rfl, hgap, hws, hgap'⟩ := h.enclosed
  have henclosed : Balanced commas (o :: ((inside ++ gap') ++ c :: [])) :=
    .enclosed hpair ((hinside hws).append (balanced_gap hgap')) .nil
  refine (balanced_gap hgap).append ?_
  rw [hopening, hclosing]
  simpa using henclosed

theorem balanced_flatMap {wss : List (List Word)}
    (h : ∀ ws ∈ wss, ∀ {cs}, Written ws cs → Balanced false cs)
    (hcs : Written (wss.flatMap fun ws => .symbol "," :: ws) cs) : Balanced true cs := by
  induction wss generalizing cs with
  | nil =>
    cases hcs
    exact .nil
  | cons ws wss ih =>
    rw [List.forall_mem_cons] at h
    rw [List.flatMap_cons] at hcs
    obtain ⟨front, back, rfl, hfront, hback⟩ := hcs.split
    obtain ⟨gap, rest, rfl, hgap, hrest⟩ := written_symbol.1 hfront
    refine .append ((balanced_gap hgap).append ?_) (ih h.2 hback)
    exact balanced_comma (h.1 hrest).with_commas

theorem balanced_separated {wss : List (List Word)}
    (h : ∀ ws ∈ wss, ∀ {cs}, Written ws cs → Balanced false cs)
    (hcs : Written (separated wss) cs) : Balanced true cs := by
  cases wss with
  | nil =>
    cases hcs
    exact .nil
  | cons ws wss =>
    rw [List.forall_mem_cons] at h
    obtain ⟨front, back, rfl, hfront, hback⟩ := Written.split hcs
    exact (h.1 hfront).with_commas.append (balanced_flatMap h.2 hback)

end

end Word

namespace Expr

open Word

theorem Derives.balanced {bound : Nat} {e : Expr} {ws : List Word} (h : Derives bound e ws)
    {cs : List Char} (hcs : Written ws cs) : Balanced false cs := by
  induction h generalizing cs with
  | literal hw =>
    obtain ⟨gap, used, rest, rfl, hgap, hused, hrest⟩ := written_cons.1 hcs
    cases hrest
    rw [List.append_nil]
    exact (balanced_gap hgap).append (balanced_of_denotes hw hused)
  | identifier hname =>
    obtain ⟨gap, used, rest, rfl, hgap, hused, hrest⟩ := written_cons.1 hcs
    cases hrest
    cases hused
    rw [List.append_nil]
    exact (balanced_gap hgap).append (balanced_of_continuesName (continuesName_of_isName hname))
  | list items _ ih =>
    refine Written.balanced_enclosed rfl rfl (by decide) (fun hinside => ?_) hcs
    refine balanced_separated ?_ hinside
    intro ws hws cs hcs
    obtain ⟨item, hitem, rfl⟩ := List.mem_map.1 hws
    exact ih item hitem hcs
  | call hname arguments _ ih =>
    obtain ⟨gap, used, rest, rfl, hgap, hused, hrest⟩ := written_cons.1 hcs
    cases hused
    refine (balanced_gap hgap).append (.append ?_ ?_)
    · exact balanced_of_continuesName (continuesName_of_isName hname)
    · refine Written.balanced_enclosed rfl rfl (by decide) (fun hinside => ?_) hrest
      refine balanced_separated ?_ hinside
      intro ws hws cs hcs
      obtain ⟨argument, hargument, rfl⟩ := List.mem_map.1 hws
      exact ih argument hargument hcs
  | bracketed _ ih =>
    exact Written.balanced_enclosed rfl rfl (by decide) (fun h => (ih h).with_commas) hcs
  | member _ hname ih =>
    obtain ⟨front, back, rfl, hfront, hback⟩ := hcs.split
    obtain ⟨gap, rest, rfl, hgap, hrest⟩ := written_symbol.1 hback
    obtain ⟨gap', used, rest', rfl, hgap', hused, hrest'⟩ := written_cons.1 hrest
    cases hused
    cases hrest'
    refine (ih hfront).append ((balanced_gap hgap).append (.plain rfl (by decide) ?_))
    rw [List.append_nil]
    exact (balanced_gap hgap').append (balanced_of_continuesName (continuesName_of_isName hname))
  | index _ _ ih ihkey =>
    rw [List.append_assoc] at hcs
    obtain ⟨front, back, rfl, hfront, hback⟩ := hcs.split
    refine (ih hfront).append ?_
    exact Written.balanced_enclosed rfl rfl (by decide) (fun h => (ihkey h).with_commas) hback
  | unary op _ ih =>
    obtain ⟨gap, rest, rfl, hgap, hrest⟩ := written_symbol.1 hcs
    refine (balanced_gap hgap).append (.append ?_ (ih hrest))
    exact balanced_of_all (by cases op <;> decide)
  | binary op _ _ ihleft ihright =>
    obtain ⟨front, back, rfl, hfront, hback⟩ := hcs.split
    obtain ⟨gap, rest, rfl, hgap, hrest⟩ := written_symbol.1 hback
    refine (ihleft hfront).append ((balanced_gap hgap).append (.append ?_ (ihright hrest)))
    exact balanced_symbol
  | loosen _ ih => exact ih hcs

/-- What is read as an expression is balanced, with all commas inside brackets or strings. -/
theorem balanced_of_read {text : List Char} {e : Expr} (h : read text = .ok e) :
    Balanced false text := by
  obtain ⟨ws, hws, cs, gap, rfl, hcs, hgap⟩ := derives_of_read h
  exact (hws.balanced hcs).append (balanced_gap hgap)

theorem range_of_continuesName {c : Char} (h : continuesName c) :
    48 ≤ c.toNat ∧ c.toNat ≤ 122 := by
  delta continuesName Char.isAlphanum Char.isAlpha Char.isUpper Char.isLower Char.isDigit at h
  simp only [Bool.or_eq_true, Bool.and_eq_true, decide_eq_true_eq, UInt32.le_iff_toNat_le,
    ge_iff_le] at h
  change (((65 ≤ c.toNat ∧ c.toNat ≤ 90) ∨ (97 ≤ c.toNat ∧ c.toNat ≤ 122)) ∨
    (48 ≤ c.toNat ∧ c.toNat ≤ 57)) ∨ c = '_' at h
  rcases h with h | rfl
  · omega
  · decide

theorem isSpace_of_continuesName {c : Char} (h : continuesName c) : isSpace c = false := by
  have hrange := range_of_continuesName h
  simp only [isSpace, Bool.or_eq_false_iff, Bool.and_eq_false_iff, decide_eq_false_iff_not]
  omega

theorem isSpace_of_startsAt {bound : Nat} {c : Char} (h : StartsAt bound c) :
    isSpace c = false := by
  rcases h with h | ⟨-, rfl | rfl⟩
  · simp only [startsPrimary, isQuote, Bool.or_eq_true, decide_eq_true_eq] at h
    rcases h with (((h | rfl | rfl) | rfl) | rfl) | h
    · exact isSpace_of_continuesName (continuesName_of_isDigit h)
    · rfl
    · rfl
    · rfl
    · rfl
    · exact isSpace_of_continuesName (continuesName_of_startsName h)
  · rfl
  · rfl

/-- The text does not end in white space. -/
def EndsSolid (cs : List Char) : Prop := ∃ front c, cs = front ++ [c] ∧ isSpace c = false

theorem EndsSolid.after {cs : List Char} (h : EndsSolid cs) (front : List Char) :
    EndsSolid (front ++ cs) := by
  obtain ⟨mid, c, rfl, hc⟩ := h
  exact ⟨front ++ mid, c, (List.append_assoc ..).symm, hc⟩

theorem endsSolid_of_continuesName {cs : List Char} (hne : cs ≠ [])
    (h : ∀ c ∈ cs, continuesName c) : EndsSolid cs := by
  have hlast : isSpace (cs.getLast hne) = false :=
    isSpace_of_continuesName (h _ (List.getLast_mem hne))
  exact ⟨cs.dropLast, cs.getLast hne, (List.dropLast_concat_getLast hne).symm, hlast⟩

theorem endsSolid_of_isName {name : String} (h : IsName name) : EndsSolid name.toList := by
  have hne : name.toList ≠ [] := by
    obtain ⟨c, cs, hname, -⟩ := h
    rw [hname]
    exact List.cons_ne_nil c cs
  exact endsSolid_of_continuesName hne (continuesName_of_isName h)

theorem endsSolid_of_denotes {w : Word} {v : Value} {cs : List Char} (h : w.Denotes v)
    (hcs : w.Spelling cs) : EndsSolid cs := by
  cases hcs with
  | name name =>
    cases h with
    | null | true | false =>
      exact endsSolid_of_continuesName (by decide) (List.all_eq_true.1 (by decide))
  | number hne hdigits =>
    exact endsSolid_of_continuesName hne fun c hc => continuesName_of_isDigit (hdigits c hc)
  | decimal whole fraction =>
    cases h with
    | decimal hwhole hfraction hdigits =>
      rw [List.forall_mem_append] at hdigits
      have hfractionEnds : EndsSolid fraction := endsSolid_of_continuesName hfraction
        fun c hc => continuesName_of_isDigit (hdigits.2 c hc)
      exact (hfractionEnds.after ['.']).after whole
  | @text mark body content hmark hbody =>
    refine ⟨mark :: body, mark, rfl, ?_⟩
    simp only [isQuote, Bool.or_eq_true, decide_eq_true_eq] at hmark
    rcases hmark with rfl | rfl <;> rfl
  | symbol symbol => cases h

theorem endsSolid_symbol {ws : List Word} {symbol : String} {c : Char} {cs : List Char}
    (hsymbol : symbol.toList = [c]) (hc : isSpace c = false)
    (hcs : Written (ws ++ [.symbol symbol]) cs) : EndsSolid cs := by
  obtain ⟨front, back, rfl, -, hback⟩ := hcs.split
  obtain ⟨gap, rest, rfl, -, hrest⟩ := written_symbol.1 hback
  cases hrest
  rw [hsymbol]
  exact ⟨front ++ gap, c, by simp, hc⟩

theorem Derives.endsSolid {bound : Nat} {e : Expr} {ws : List Word} (h : Derives bound e ws)
    {cs : List Char} (hcs : Written ws cs) : EndsSolid cs := by
  induction h generalizing cs with
  | literal hw =>
    obtain ⟨gap, used, rest, rfl, -, hused, hrest⟩ := written_cons.1 hcs
    cases hrest
    rw [List.append_nil]
    exact (endsSolid_of_denotes hw hused).after gap
  | identifier hname =>
    obtain ⟨gap, used, rest, rfl, -, hused, hrest⟩ := written_cons.1 hcs
    cases hrest
    cases hused
    rw [List.append_nil]
    exact (endsSolid_of_isName hname).after gap
  | list | call | bracketed | index => exact endsSolid_symbol rfl (by decide) hcs
  | member _ hname ih =>
    obtain ⟨front, back, rfl, -, hback⟩ := hcs.split
    obtain ⟨gap, rest, rfl, -, hrest⟩ := written_symbol.1 hback
    obtain ⟨gap', used, rest', rfl, -, hused, hrest'⟩ := written_cons.1 hrest
    cases hused
    cases hrest'
    rw [List.append_nil]
    exact ((((endsSolid_of_isName hname).after gap').after _).after gap).after front
  | unary op _ ih =>
    obtain ⟨gap, rest, rfl, -, hrest⟩ := written_symbol.1 hcs
    exact ((ih hrest).after _).after gap
  | binary op _ _ _ ihright =>
    obtain ⟨front, back, rfl, -, hback⟩ := hcs.split
    obtain ⟨gap, rest, rfl, -, hrest⟩ := written_symbol.1 hback
    exact (((ihright hrest).after _).after gap).after front
  | loosen _ ih => exact ih hcs

theorem trim_between {gap gap' core : List Char} {c : Char} {tail : List Char}
    (hgap : ∀ c ∈ gap, isGap c) (hgap' : ∀ c ∈ gap', isGap c) (hcore : core = c :: tail)
    (hc : isSpace c = false) (hends : EndsSolid core) : trim (gap ++ core ++ gap') = core := by
  have hspace : ∀ {gap : List Char}, (∀ c ∈ gap, isGap c) → ∀ c ∈ gap, isSpace c :=
    fun hgap c hc => isSpace_of_isGap (hgap c hc)
  have hstart : trimStart (gap ++ core ++ gap') = core ++ gap' := by
    rw [trimStart, List.append_assoc, List.dropWhile_append_of_pos (hspace hgap), hcore,
      List.cons_append, List.dropWhile_cons_of_neg (by simp [hc])]
  obtain ⟨front, d, hcore', hd⟩ := hends
  have hreverse : ∀ c ∈ gap'.reverse, isSpace c := by
    intro c hc
    exact hspace hgap' c (List.mem_reverse.1 hc)
  rw [trim, hstart, trimEnd, List.reverse_append, List.dropWhile_append_of_pos hreverse, hcore',
    List.reverse_append, List.reverse_singleton, List.singleton_append,
    List.dropWhile_cons_of_neg (by simp [hd]), List.reverse_cons, List.reverse_reverse]

/-- Trimming takes off the gaps around an expression, and what is left is read as the same. -/
theorem trim_of_read {text : List Char} {e : Expr} (h : read text = .ok e) :
    (∃ gap gap', text = gap ++ trim text ++ gap' ∧ (∀ c ∈ gap, isGap c) ∧ ∀ c ∈ gap', isGap c) ∧
      (∃ c ∈ text, isSpace c = false) ∧ read (trim text) = .ok e := by
  obtain ⟨ws, hws, cs, gap', rfl, hcs, hgap'⟩ := derives_of_read h
  obtain ⟨gap, c, tail, rfl, hgap, hc, hcore⟩ := hws.starts hcs
  have htrim := trim_between hgap hgap' rfl (isSpace_of_startsAt hc) (hws.endsSolid hcore)
  rw [htrim]
  refine ⟨⟨gap, gap', rfl, hgap, hgap'⟩, ⟨c, by simp, isSpace_of_startsAt hc⟩, ?_⟩
  exact hws.read ⟨c :: tail, [], by simp, hcore, by simp⟩

end Expr

end Phrasebook
