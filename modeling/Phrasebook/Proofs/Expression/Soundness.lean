import Phrasebook.Proofs.Expression.Follow

namespace Phrasebook.Expr

open Word

/-- The expression that a reader finds is derived at the bound from words that the text begins
with. -/
def Finds (bound : Nat) (e : Expr) (cs rest : List Char) : Prop :=
  ∃ used ws, cs = used ++ rest ∧ Written ws used ∧ Derives bound e ws

def Sound (bound : Nat) (reader : List Char → Reply Expr) : Prop :=
  ∀ {cs e rest}, reader cs = .found e rest → Finds bound e cs rest

section

variable {bound : Nat} {e : Expr} {cs gap rest : List Char}

theorem Finds.after_gap (h : Finds bound e cs rest) (hgap : ∀ c ∈ gap, Text.isGap c) :
    Finds bound e (gap ++ cs) rest := by
  obtain ⟨used, ws, rfl, hused, hws⟩ := h
  exact ⟨gap ++ used, ws, (List.append_assoc _ _ _).symm, hused.after_gap hws.ne_nil hgap, hws⟩

theorem Sound.skipGaps {reader : List Char → Reply Expr} (h : Sound bound reader)
    (hfound : reader (skipGaps cs) = .found e rest) : Finds bound e cs rest := by
  obtain ⟨gap, hgap, hcs⟩ := exists_gap cs
  rw [hcs]
  exact (h hfound).after_gap hgap

end

section

variable {exp : List Char → Reply Expr} (hexp : Sound (BinaryOp.levels + 1) exp)
  {cs rest : List Char}

include hexp

theorem moreItems_sound {steps : Nat} {es : List Expr}
    (h : moreItems exp steps cs = .found es rest) :
    ∃ used list, cs = used ++ rest ∧ es = list.map Prod.fst ∧ Lists list ∧
      Written (list.flatMap fun item => .symbol "," :: item.2) used := by
  have hnone : ∀ {cs rest : List Char} {es : List Expr}, Reply.found [] cs = .found es rest →
      ∃ used list, cs = used ++ rest ∧ es = list.map Prod.fst ∧ Lists list ∧
        Written (list.flatMap fun item => .symbol "," :: item.2) used := by
    intro cs rest es h
    cases h
    exact ⟨[], [], rfl, rfl, by simp [Lists], .nil⟩
  induction steps generalizing cs es with
  | zero => exact hnone h
  | succ steps ih =>
    rw [moreItems] at h
    split at h
    · rename_i after hcomma
      obtain ⟨gap, hgap, rfl⟩ := exists_gap_of_skipGaps hcomma
      split at h
      · rename_i e afterItem hitem
        obtain ⟨used, ws, rfl, hused, hws⟩ := hexp.skipGaps hitem
        split at h
        · rename_i es afterItems hitems
          cases h
          obtain ⟨more, list, rfl, rfl, hlist, hmore⟩ := ih hitems
          refine ⟨gap ++ (",".toList ++ (used ++ more)), (e, ws) :: list, ?_, rfl, ?_, ?_⟩
          · simp
          · exact List.forall_mem_cons.2 ⟨hws, hlist⟩
          · exact written_symbol.2 ⟨gap, used ++ more, rfl, hgap, hused.append hmore⟩
        · rename_i hother
          exact absurd h (hother _ _)
      · exact hnone h
      · contradiction
    · exact hnone h

theorem someItems_sound {es : List Expr} (h : someItems exp cs = .found es rest) :
    ∃ used list, cs = used ++ rest ∧ es = list.map Prod.fst ∧ Lists list ∧
      Written (separated (list.map Prod.snd)) used := by
  unfold someItems at h
  split at h
  · rename_i e afterItem hitem
    obtain ⟨used, ws, rfl, hused, hws⟩ := hexp.skipGaps hitem
    split at h
    · rename_i es afterItems hitems
      cases h
      obtain ⟨more, list, rfl, rfl, hlist, hmore⟩ := moreItems_sound hexp hitems
      refine ⟨used ++ more, (e, ws) :: list, (List.append_assoc _ _ _).symm, rfl, ?_, ?_⟩
      · exact List.forall_mem_cons.2 ⟨hws, hlist⟩
      · rw [List.map_cons, separated, List.flatMap_map]
        exact hused.append hmore
    · rename_i hother
      exact absurd h (hother _ _)
  · cases h
    exact ⟨[], [], rfl, rfl, by simp [Lists], .nil⟩
  · contradiction

theorem items_sound {closing : Char} {es : List Expr} (h : items exp closing cs = .found es rest) :
    ∃ used list, cs = used ++ rest ∧ es = list.map Prod.fst ∧ Lists list ∧
      Written (separated (list.map Prod.snd) ++ [.symbol (String.singleton closing)]) used := by
  unfold items at h
  split at h
  · rename_i es' after hfound
    obtain ⟨used, list, rfl, rfl, hlist, hused⟩ := someItems_sound hexp hfound
    split at h
    · rename_i c after' hafter
      obtain ⟨gap, hgap, rfl⟩ := exists_gap_of_skipGaps hafter
      split at h
      · rename_i hc
        cases h
        subst hc
        refine ⟨used ++ (gap ++ ((String.singleton c).toList ++ [])), list, ?_, rfl, hlist, ?_⟩
        · simp
        · exact hused.append (written_symbol.2 ⟨gap, [], rfl, hgap, .nil⟩)
      · contradiction
    · contradiction
  · rename_i hother
    exact absurd h (hother _ _)

omit hexp in
theorem derives_ofWord {word : String} (hname : IsName word) :
    Derives 0 (ofWord word) [.name word] := by
  unfold ofWord
  split
  · rename_i hword
    subst hword
    exact .literal .true
  · rename_i htrue
    split
    · rename_i hword
      subst hword
      exact .literal .false
    · rename_i hfalse
      split
      · rename_i hword
        subst hword
        exact .literal .null
      · rename_i hnull
        exact .identifier hname (by simp [keywords, htrue, hfalse, hnull])

theorem wordForm_sound : Sound 0 (wordForm exp) := by
  intro cs e rest h
  unfold wordForm at h
  split at h
  · contradiction
  · rename_i word after hword
    obtain ⟨hname, rfl⟩ := of_name? hword
    split at h
    · rename_i inside hopen
      obtain ⟨gap, hgap, rfl⟩ := exists_gap_of_skipGaps hopen
      split at h
      · rename_i es after hitems
        cases h
        obtain ⟨used, list, rfl, rfl, hlist, hused⟩ := items_sound hexp hitems
        have hcall := Derives.call hname list hlist
        refine ⟨word.toList ++ (gap ++ ("(".toList ++ used)), _, by simp, ?_, hcall⟩
        refine written_cons.2 ⟨[], word.toList, _, rfl, by simp, .name word, ?_⟩
        exact written_symbol.2 ⟨gap, used, rfl, hgap, hused⟩
      · contradiction
      · contradiction
    · cases h
      exact ⟨word.toList, [.name word], rfl, (Spelling.name word).written, derives_ofWord hname⟩

theorem primaryForm_sound : Sound 0 (primaryForm exp) := by
  intro cs e rest h
  unfold primaryForm at h
  split at h
  · contradiction
  rename_i c after
  split at h
  · split at h
    · rename_i v rest' hnumber
      cases h
      obtain ⟨w, used, hcs, hspelling, hw⟩ := of_number? hnumber
      rw [hcs]
      exact ⟨used, [w], rfl, hspelling.written, .literal hw⟩
    · contradiction
  split at h
  · rename_i hquote
    split at h
    · rename_i content rest' hbody
      cases h
      obtain ⟨body, rfl, hquoted⟩ := of_stringBody? (ne_backslash_of_isQuote hquote) hbody
      have hspelling := Word.Spelling.text hquote hquoted
      have hliteral := Derives.literal (.text (String.ofList content))
      exact ⟨c :: body ++ [c], [_], by simp, hspelling.written, hliteral⟩
    · contradiction
  split at h
  · rename_i hsquare
    subst hsquare
    split at h
    · rename_i es rest' hitems
      cases h
      obtain ⟨used, list, rfl, rfl, hlist, hused⟩ := items_sound hexp hitems
      refine ⟨'[' :: used, _, rfl, ?_, .list list hlist⟩
      exact written_symbol.2 ⟨[], used, rfl, by simp, hused⟩
    · contradiction
    · contradiction
  split at h
  · rename_i hround
    subst hround
    split at h
    · rename_i e' afterInner hinner
      obtain ⟨used, ws, rfl, hused, hws⟩ := hexp.skipGaps hinner
      split at h
      · rename_i rest' hclose
        cases h
        obtain ⟨gap, hgap, rfl⟩ := exists_gap_of_skipGaps hclose
        refine ⟨'(' :: (used ++ (gap ++ [')'])), _, by simp, ?_, .bracketed hws⟩
        refine written_symbol.2 ⟨[], used ++ (gap ++ [')']), rfl, by simp, ?_⟩
        exact hused.append (written_symbol.2 ⟨gap, [], rfl, hgap, .nil⟩)
      · contradiction
    · rename_i hother
      exact absurd h (hother _ _)
  · exact wordForm_sound hexp h

theorem primary_sound : Sound 0 (primary exp) := by
  intro cs e rest h
  unfold primary at h
  split at h
  · contradiction
  · exact primaryForm_sound hexp h

theorem suffixes_sound {steps : Nat} {e e' : Expr} {ws : List Word}
    (h : suffixes exp steps e cs = .found e' rest) (hws : Derives 0 e ws) :
    ∃ used more, cs = used ++ rest ∧ Written more used ∧ Derives 0 e' (ws ++ more) := by
  induction steps generalizing e ws cs with
  | zero =>
    cases h
    exact ⟨[], [], rfl, .nil, by rwa [List.append_nil]⟩
  | succ steps ih =>
    rw [suffixes] at h
    split at h
    · rename_i after hpoint
      obtain ⟨gap, hgap, rfl⟩ := exists_gap_of_skipGaps hpoint
      split at h
      · rename_i name afterName hword
        obtain ⟨hname, hafter⟩ := of_name? hword
        obtain ⟨gap', hgap', rfl⟩ := exists_gap_of_skipGaps hafter
        obtain ⟨used, more, rfl, hused, hall⟩ := ih h (.member hws hname)
        refine ⟨gap ++ (".".toList ++ (gap' ++ (name.toList ++ used))),
          .symbol "." :: .name name :: more, by simp, ?_, by simpa using hall⟩
        refine written_symbol.2 ⟨gap, _, rfl, hgap, ?_⟩
        exact written_cons.2 ⟨gap', name.toList, used, rfl, hgap', .name name, hused⟩
      · contradiction
    · rename_i after hopen
      obtain ⟨gap, hgap, rfl⟩ := exists_gap_of_skipGaps hopen
      split at h
      · rename_i key afterKey hkey
        obtain ⟨inner, keyWords, rfl, hinner, hkeyWords⟩ := hexp.skipGaps hkey
        split at h
        · rename_i rest' hclose
          obtain ⟨gap', hgap', rfl⟩ := exists_gap_of_skipGaps hclose
          obtain ⟨used, more, rfl, hused, hall⟩ := ih h (.index hws hkeyWords)
          refine ⟨gap ++ ("[".toList ++ (inner ++ (gap' ++ ("]".toList ++ used)))),
            .symbol "[" :: (keyWords ++ .symbol "]" :: more), by simp, ?_, by simpa using hall⟩
          refine written_symbol.2 ⟨gap, _, rfl, hgap, ?_⟩
          exact hinner.append (written_symbol.2 ⟨gap', used, rfl, hgap', hused⟩)
        · contradiction
      · contradiction
      · contradiction
    · cases h
      exact ⟨[], [], rfl, .nil, by rwa [List.append_nil]⟩

theorem suffixed_sound : Sound 0 (suffixed exp) := by
  intro cs e rest h
  unfold suffixed at h
  split at h
  · rename_i e' after hprimary
    obtain ⟨used, ws, rfl, hused, hws⟩ := primary_sound hexp hprimary
    obtain ⟨more, words, rfl, hmore, hall⟩ := suffixes_sound hexp h hws
    exact ⟨used ++ more, ws ++ words, (List.append_assoc _ _ _).symm, hused.append hmore, hall⟩
  · rename_i hother
    exact absurd h (hother _ _)

omit hexp in
/-- Signs in front of an operand are derived along with it. -/
theorem signs_sound {ops : List UnaryOp} {start : List Char} {e : Expr}
    (h : signs cs = (ops, start)) (hstart : Finds 1 e start rest) :
    Finds 1 (ops.foldr Expr.unary e) cs rest := by
  induction cs generalizing ops with
  | nil =>
    cases h
    exact hstart
  | cons c cs ih =>
    have hsign : ∀ (op : UnaryOp) (ops : List UnaryOp), op.symbol.toList = [c] →
        signs cs = (ops, start) → Finds 1 (.unary op (ops.foldr Expr.unary e)) (c :: cs) rest := by
      intro op ops hop hsigns
      obtain ⟨used, ws, rfl, hused, hws⟩ := ih hsigns
      refine ⟨op.symbol.toList ++ used, .symbol op.symbol :: ws, by rw [hop]; rfl, ?_, .unary op hws⟩
      exact written_symbol.2 ⟨[], used, rfl, by simp, hused⟩
    rw [signs] at h
    split at h
    · rename_i hgap
      have hone : ∀ d ∈ [c], Text.isGap d := by simpa using hgap
      exact (ih h).after_gap hone
    split at h
    · rename_i hminus
      subst hminus
      cases h
      exact hsign .negate _ rfl rfl
    split at h
    · rename_i hbang
      obtain ⟨rfl, -⟩ := hbang
      cases h
      exact hsign .not _ rfl rfl
    · cases h
      exact hstart

theorem operand_sound : Sound 1 (operand exp) := by
  intro cs e rest h
  unfold operand at h
  generalize hsigns : signs cs = found at h
  obtain ⟨ops, start⟩ := found
  dsimp only at h
  split at h
  · rename_i e' after hfound
    cases h
    obtain ⟨used, ws, hcs, hused, hws⟩ := suffixed_sound hexp hfound
    exact signs_sound hsigns ⟨used, ws, hcs, hused, .loosen hws⟩
  · rename_i hother
    exact absurd h (hother _ _)

omit hexp in
theorem chain_sound {level steps : Nat} {next : List Char → Reply Expr}
    (hnext : Sound (level + 1) next) {left e : Expr} {ws : List Word}
    (h : chain (level + 1) next steps left cs = .found e rest)
    (hws : Derives (level + 2) left ws) :
    ∃ used more, cs = used ++ rest ∧ Written more used ∧ Derives (level + 2) e (ws ++ more) := by
  induction steps generalizing left ws cs with
  | zero =>
    cases h
    exact ⟨[], [], rfl, .nil, by rwa [List.append_nil]⟩
  | succ steps ih =>
    rw [chain] at h
    split at h
    · cases h
      exact ⟨[], [], rfl, .nil, by rwa [List.append_nil]⟩
    · rename_i op after hop
      obtain ⟨hfound, hat⟩ := Option.filter_eq_some_iff.1 hop
      have hlevel : op.level = level + 1 := by simpa using hat
      obtain ⟨gap, hgap, rfl⟩ := exists_gap_of_skipGaps (of_operator? hfound)
      split at h
      · rename_i right afterRight hright
        obtain ⟨used, words, rfl, hused, hwords⟩ := hnext.skipGaps hright
        have hbinary := Derives.binary_of_level hlevel hws hwords
        obtain ⟨more, moreWords, rfl, hmore, hall⟩ := ih h hbinary
        refine ⟨gap ++ (op.symbol.toList ++ (used ++ more)),
          .symbol op.symbol :: (words ++ moreWords), by simp, ?_, by simpa using hall⟩
        exact written_symbol.2 ⟨gap, _, rfl, hgap, hused.append hmore⟩
      · contradiction
      · contradiction

theorem atLevel_sound (level : Nat) : Sound (level + 1) (atLevel exp level) := by
  induction level with
  | zero => exact operand_sound hexp
  | succ level ih =>
    intro cs e rest h
    rw [atLevel] at h
    split at h
    · rename_i left after hleft
      obtain ⟨used, ws, rfl, hused, hws⟩ := ih hleft
      obtain ⟨more, words, rfl, hmore, hall⟩ := chain_sound ih h (.loosen hws)
      exact ⟨used ++ more, ws ++ words, (List.append_assoc _ _ _).symm, hused.append hmore, hall⟩
    · rename_i hother
      exact absurd h (hother _ _)

end

theorem expression_sound (depth : Nat) : Sound (BinaryOp.levels + 1) (expression depth) := by
  induction depth with
  | zero =>
    intro cs e rest h
    cases h
  | succ depth ih => exact atLevel_sound ih BinaryOp.levels

/-- What is read is derived by the grammar from words that the text spells. -/
theorem derives_of_read {text : List Char} {e : Expr} (h : read text = .ok e) :
    ∃ ws, Derives (BinaryOp.levels + 1) e ws ∧ Spelled ws text := by
  unfold read at h
  dsimp only at h
  split at h
  · rename_i e' after hfound
    obtain ⟨used, ws, rfl, hused, hws⟩ := Sound.skipGaps (expression_sound _) hfound
    split at h
    · rename_i hend
      cases h
      obtain ⟨gap, hgap, rfl⟩ := exists_gap_of_skipGaps hend
      rw [List.append_nil]
      exact ⟨ws, hws, used, gap, rfl, hused, hgap⟩
    · contradiction
  · contradiction
  · contradiction

end Phrasebook.Expr
