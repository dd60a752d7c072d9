import Phrasebook.Proofs.Source.Location
import Phrasebook.Proofs.Token.Step

namespace Phrasebook

namespace Text

variable {p : Char → Bool}

/-- What does not go on over a line feed is the same whatever stands behind that. -/
theorem runLength_line (hp : p '\n' = false) (front rest : List Char) :
    runLength p (front ++ '\n' :: rest) = runLength p front := by
  unfold runLength
  induction front with
  | nil => simp [hp]
  | cons c front ih => cases hc : p c <;> simp [hc, ih]

theorem runLength_le (cs : List Char) : runLength p cs ≤ cs.length :=
  (List.takeWhile_prefix p).length_le

theorem isPrefixOf_line {word : List Char} (hword : '\n' ∉ word) (front rest : List Char) :
    word.isPrefixOf (front ++ '\n' :: rest) = word.isPrefixOf front := by
  induction word generalizing front with
  | nil => simp
  | cons c word ih =>
    rw [List.mem_cons, not_or] at hword
    cases front with
    | nil => simp [List.isPrefixOf, Ne.symm hword.1]
    | cons d front => simp [List.isPrefixOf, ih hword.2]

theorem closingAfter_line {opening closing : Char} (depth : Nat) (q : Quotation)
    (front rest : List Char) :
    closingAfter opening closing depth q (front ++ '\n' :: rest) =
      closingAfter opening closing depth q front := by
  induction front generalizing depth q with
  | nil => rfl
  | cons c front ih =>
    rw [List.cons_append, closingAfter.eq_def, closingAfter.eq_def _ _ _ _ (c :: front)]
    simp only [ih]

theorem closingAfter_le {opening closing : Char} {depth : Nat} {q : Quotation} {cs : List Char}
    {n : Nat} (h : closingAfter opening closing depth q cs = some n) : n ≤ cs.length := by
  fun_induction closingAfter opening closing depth q cs generalizing n with
  | case1 => cases h
  | case2 => cases h
  | case4 => cases h; simp
  | _ =>
    rename_i ih
    obtain ⟨m, hm, rfl⟩ := Option.map_eq_some_iff.1 h
    exact Nat.succ_le_succ (ih hm)

end Text

namespace Token

open Text

variable {region : Region} {c : Char} {front rest : List Char} {s : Step}

theorem newlineMore_line (c : Char) (front rest : List Char) :
    newlineMore c (front ++ '\n' :: rest) = newlineMore c (front ++ ['\n']) := by
  cases front <;> rfl

theorem not_mem_fence : '\n' ∉ fence := by decide

/-- A fence that stands in front of the line feed is found whatever stands behind. -/
theorem beforeFence_line {n : Nat} (h : beforeFence (front ++ ['\n']) = some n)
    (rest : List Char) :
    beforeFence (front ++ '\n' :: rest) = some n ∧ n + 3 ≤ front.length := by
  induction front generalizing n with
  | nil => cases h
  | cons c front ih =>
    rw [List.cons_append, beforeFence, ← List.cons_append, isPrefixOf_line not_mem_fence] at h
    rw [List.cons_append, beforeFence, ← List.cons_append, isPrefixOf_line not_mem_fence]
    split at h
    · rename_i hfence
      cases h
      have hlength := (List.isPrefixOf_iff_prefix.1 hfence).length_le
      exact ⟨if_pos hfence, hlength⟩
    · rename_i hfence
      obtain ⟨m, hm, rfl⟩ := Option.map_eq_some_iff.1 h
      obtain ⟨hmore, hlength⟩ := ih hm
      rw [if_neg hfence, hmore, List.length_cons]
      exact ⟨rfl, by omega⟩

theorem textLength_line (front rest : List Char) :
    textLength (front ++ '\n' :: rest) = textLength front := by
  induction front with
  | nil => rfl
  | cons c front ih =>
    rw [List.cons_append, textLength, ← List.cons_append, isPrefixOf_line not_mem_fence, ih]
    rfl

theorem textLength_le (cs : List Char) : textLength cs ≤ cs.length := by
  induction cs with
  | nil => exact Nat.le_refl 0
  | cons c cs ih =>
    rw [textLength, List.length_cons]
    split <;> omega

theorem keyword?_line (front rest : List Char) :
    keyword? (front ++ '\n' :: rest) = keyword? front := by
  unfold keyword?
  rw [isPrefixOf_line (by decide), isPrefixOf_line (by decide), isPrefixOf_line (by decide),
    isPrefixOf_line (by decide)]

theorem keyword?_le {cs : List Char} {kind : TokenKind} {more : Nat}
    (h : keyword? cs = some (kind, more)) : more < cs.length := by
  unfold keyword? at h
  have hlength {word : String} (hword : word.toList.isPrefixOf cs = true) :
      word.toList.length ≤ cs.length := (List.isPrefixOf_iff_prefix.1 hword).length_le
  split at h
  · rename_i hcase
    cases h
    rcases Bool.or_eq_true_iff.1 hcase with hcase | hcase <;> exact hlength hcase
  split at h
  · rename_i hdefault
    cases h
    rcases Bool.or_eq_true_iff.1 hdefault with hdefault | hdefault <;> exact hlength hdefault
  · cases h

/-- The step stays in front of the line feed, or takes it as the end of the line. -/
def Step.Within (front : List Char) (s : Step) : Prop :=
  s.more ≤ front.length ∨
    s.more = front.length + 1 ∧ s.yield = .token .newline ∧ s.next = .between

theorem within_newline {more : Nat} (h : newlineMore c (front ++ ['\n']) = some more) :
    Step.Within front ⟨.token .newline, more, .between⟩ := by
  unfold newlineMore at h
  split at h
  · cases h
    exact .inl (Nat.zero_le _)
  split at h
  · cases h
    cases front with
    | nil => exact .inr ⟨rfl, rfl, rfl⟩
    | cons d front => exact .inl (Nat.le_add_left 1 _)
  · cases h

theorem stepBetween_line (h : stepBetween c (front ++ ['\n']) = .ok s) :
    stepBetween c (front ++ '\n' :: rest) = .ok s ∧ s.Within front := by
  unfold stepBetween at h ⊢
  rw [newlineMore_line, runLength_line (by decide), runLength_line (by decide)]
  rw [runLength_line (by decide), runLength_line (by decide)] at h
  refine ⟨h, ?_⟩
  split at h
  · cases h
    exact .inl (runLength_le front)
  split at h
  · cases h
    exact .inl (runLength_le front)
  split at h
  · cases h
    exact within_newline ‹_›
  split at h
  · cases h
    exact .inl (Nat.zero_le _)
  split at h
  · cases h
    exact .inl (Nat.zero_le _)
  · cases h

theorem stepNameLine_line (h : stepNameLine c (front ++ ['\n']) = .ok s) :
    stepNameLine c (front ++ '\n' :: rest) = .ok s ∧ s.Within front := by
  unfold stepNameLine at h ⊢
  rw [newlineMore_line, runLength_line (by decide), runLength_line (by decide)]
  rw [runLength_line (by decide), runLength_line (by decide)] at h
  refine ⟨h, ?_⟩
  split at h
  · cases h
    exact .inl (runLength_le front)
  split at h
  · cases h
    exact within_newline ‹_›
  split at h
  · cases h
    exact .inl (runLength_le front)
  split at h
  · cases h
    exact .inl (Nat.zero_le _)
  · cases h

theorem within_wholeSpan {kind : TokenKind} {length : Option Nat}
    (hlength : ∀ n, length = some n → n ≤ front.length) (h : wholeSpan kind length = .ok s) :
    s.Within front := by
  unfold wholeSpan at h
  split at h
  · rename_i more
    cases h
    exact .inl (hlength more rfl)
  · cases h

theorem block_line (hfence : fence.isPrefixOf (c :: front) = true)
    (h : wholeSpan .block ((beforeFence ((front ++ ['\n']).drop 2)).map (· + 5)) = .ok s) :
    wholeSpan .block ((beforeFence ((front ++ '\n' :: rest).drop 2)).map (· + 5)) = .ok s ∧
      s.Within front := by
  have hlength := (List.isPrefixOf_iff_prefix.1 hfence).length_le
  have htwo : 2 ≤ front.length := Nat.le_of_succ_le_succ hlength
  rw [List.drop_append_of_le_length htwo] at h ⊢
  cases hbefore : beforeFence (front.drop 2 ++ ['\n']) with
  | none =>
    rw [hbefore] at h
    cases h
  | some n =>
    obtain ⟨hmore, hn⟩ := beforeFence_line hbefore rest
    rw [hbefore] at h
    rw [hmore]
    refine ⟨h, within_wholeSpan ?_ h⟩
    intro m hm
    obtain rfl : n + 5 = m := Option.some.inj hm
    rw [List.length_drop] at hn
    omega

theorem escapes_line :
    (front ++ '\n' :: rest).head?.any isEscapable = front.head?.any isEscapable := by
  cases front <;> rfl

theorem stepContent_line (h : stepContent c (front ++ ['\n']) = .ok s) :
    stepContent c (front ++ '\n' :: rest) = .ok s ∧ s.Within front := by
  unfold stepContent at h ⊢
  have hfence (rest : List Char) : fence.isPrefixOf (c :: (front ++ '\n' :: rest)) =
      fence.isPrefixOf (c :: front) := by
    rw [← List.cons_append, isPrefixOf_line not_mem_fence]
  rw [hfence, escapes_line, closingAfter_line, closingAfter_line, textLength_line,
    runLength_line (by decide)] at h ⊢
  by_cases hblock : fence.isPrefixOf (c :: front) = true
  · rw [if_pos hblock] at h ⊢
    exact block_line hblock h
  rw [if_neg hblock] at h ⊢
  refine ⟨h, ?_⟩
  split at h
  · exact within_wholeSpan (fun n => closingAfter_le) h
  split at h
  · exact within_wholeSpan (fun n => closingAfter_le) h
  split at h
  · rename_i hescape
    cases h
    cases front with
    | nil => cases hescape.2
    | cons d front => exact .inl (Nat.le_add_left 1 _)
  split at h
  · cases h
    exact .inl (runLength_le front)
  split at h
  · cases h
    exact .inl (Nat.zero_le _)
  split at h
  · cases h
    exact .inl (Nat.zero_le _)
  · cases h
    exact .inl (textLength_le front)

theorem stepLine_line {dropsBlanks atStart : Bool}
    (h : stepLine dropsBlanks atStart c (front ++ ['\n']) = .ok s) :
    stepLine dropsBlanks atStart c (front ++ '\n' :: rest) = .ok s ∧ s.Within front := by
  unfold stepLine at h ⊢
  have hkeyword (rest : List Char) : keyword? (c :: (front ++ '\n' :: rest)) =
      keyword? (c :: front) := by
    rw [← List.cons_append, keyword?_line]
  rw [newlineMore_line, runLength_line (by decide), hkeyword]
  rw [runLength_line (by decide), hkeyword] at h
  split at h
  · rename_i hblank
    cases h
    rw [if_pos hblank]
    exact ⟨rfl, .inl (runLength_le front)⟩
  rename_i hblank
  rw [if_neg hblank]
  split at h
  · cases h
    exact ⟨rfl, within_newline ‹_›⟩
  split at h
  · rename_i kind more hkind
    cases h
    refine ⟨rfl, .inl ?_⟩
    split at hkind
    · exact Nat.le_of_lt_succ (keyword?_le hkind)
    · cases hkind
  · exact stepContent_line h

/-- A step in front of a line feed is the same whatever stands behind that. -/
theorem step_line (h : step region c (front ++ ['\n']) = .ok s) (rest : List Char) :
    step region c (front ++ '\n' :: rest) = .ok s ∧ s.Within front := by
  cases region with
  | between => exact stepBetween_line h
  | nameLine => exact stepNameLine_line h
  | line dropsBlanks atStart => exact stepLine_line h

theorem step_lineFeed (region : Region) (rest : List Char) :
    step region '\n' rest = .ok ⟨.token .newline, 0, .between⟩ := by
  cases region with
  | between => rfl
  | nameLine => rfl
  | line dropsBlanks atStart => cases dropsBlanks <;> rfl

/-- The tokens end with the end of a line. -/
def EndLine (ts : List Token) : Prop := ∃ front last, ts = front ++ [last] ∧ last.kind = .newline

theorem EndLine.append {ts : List Token} (before : List Token) (h : EndLine ts) :
    EndLine (before ++ ts) := by
  obtain ⟨front, last, rfl, hlast⟩ := h
  exact ⟨before ++ front, last, (List.append_assoc ..).symm, hlast⟩

theorem endLine_of_yield (h : s.yield = .token .newline) (p : Position) (taken : List Char) :
    EndLine (s.tokens p taken) := by
  unfold Step.tokens
  rw [h]
  exact ⟨[], _, rfl, rfl⟩

/-- Behind a text that ends with a line feed the scanner is between templates, whatever follows. -/
theorem scan_append {region : Region} {p : Position} {front : List Char} {ts : List Token}
    (h : scan region p (front ++ ['\n']) = .ok ts) :
    ∃ lines, ts = lines ++ [.endAt (p.after (front ++ ['\n']))] ∧ EndLine lines ∧
      ∀ rest, scan region p (front ++ '\n' :: rest) =
        (scan .between (p.after (front ++ ['\n'])) rest).map (lines ++ ·) := by
  match front, h with
  | [], h =>
    have hstep := step_lineFeed region
    obtain ⟨s, ts', hs, hend, rfl⟩ := exists_step_of_scan h
    obtain rfl := Except.ok.inj ((hstep []).symm.trans hs)
    rw [List.drop_zero, scan] at hend
    cases hend
    exact ⟨_, rfl, endLine_of_yield rfl _ _, fun rest => scan_of_step (hstep rest)⟩
  | c :: front, h =>
    rw [List.cons_append] at h
    obtain ⟨s, ts', hs, hend, rfl⟩ := exists_step_of_scan h
    have hstep (rest : List Char) := (step_line hs rest).1
    rcases (step_line hs []).2 with hmore | ⟨hmore, hyield, hnext⟩
    · have hplace : (p.after (c :: front.take s.more)).after (front.drop s.more ++ ['\n']) =
          p.after (c :: front ++ ['\n']) := by
        rw [← Position.after_append, List.cons_append, ← List.append_assoc, List.take_append_drop,
          List.cons_append]
      rw [List.take_append_of_le_length hmore, List.drop_append_of_le_length hmore] at hend
      obtain ⟨lines, rfl, hlines, hrest⟩ := scan_append hend
      rw [List.take_append_of_le_length hmore, hplace]
      refine ⟨s.tokens p (c :: front.take s.more) ++ lines, by simp, hlines.append _, ?_⟩
      intro rest
      rw [List.cons_append, scan_of_step_append (hstep rest) hmore, hrest, hplace]
      cases scan .between (p.after (c :: front ++ ['\n'])) rest <;> simp [Except.map]
    · have hlength : (front ++ ['\n']).length = s.more := by simp [hmore]
      have hstep' (rest : List Char) : step region c ((front ++ ['\n']) ++ rest) = .ok s := by
        simpa using hstep rest
      rw [← hlength, List.take_length, List.drop_length, hnext, scan] at hend
      cases hend
      rw [← hlength, List.take_length]
      refine ⟨_, rfl, endLine_of_yield hyield _ _, fun rest => ?_⟩
      have hscan := scan_of_step_append (p := p) (hstep' rest) (Nat.le_of_eq hlength.symm)
      rw [← hlength, List.take_length, List.drop_length, hnext] at hscan
      simpa using hscan
termination_by front.length

end Token

/-- The same place when whole lines stand in front of its text. -/
def Position.shift (lines bytes : Nat) (p : Position) : Position :=
  ⟨p.line + lines, p.column, p.offset + bytes⟩

/-- The same stretch when whole lines stand in front of its text. -/
def Location.shift (lines bytes : Nat) (l : Location) : Location :=
  { l with line := l.line + lines, offset := l.offset + bytes }

namespace Position

variable (lines bytes : Nat)

theorem next_shift (p : Position) (c : Char) :
    (p.shift lines bytes).next c = (p.next c).shift lines bytes := by
  unfold next shift
  split <;> simp only [Nat.add_right_comm]

theorem after_shift (p : Position) (cs : List Char) :
    (p.shift lines bytes).after cs = (p.after cs).shift lines bytes := by
  induction cs generalizing p with
  | nil => rfl
  | cons c cs ih => rw [after_cons, next_shift, ih, after_cons]

/-- Behind whole lines a source starts over, so many lines and bytes further on. -/
theorem after_start_line (front : List Char) : start.after (front ++ ['\n']) =
    start.shift ((front ++ ['\n']).count '\n') (Text.byteLength (front ++ ['\n'])) := by
  rw [after_start, Text.lastLine_concat, if_pos rfl]
  simp [start, shift, Nat.add_comm]

end Position

namespace Token

/-- The same token at another place. -/
def relocate (f : Location → Location) (t : Token) : Token := { t with location := f t.location }

variable (lines bytes : Nat)

theorem tokens_shift (s : Step) (p : Position) (taken : List Char) :
    s.tokens (p.shift lines bytes) taken =
      (s.tokens p taken).map (relocate (.shift lines bytes)) := by
  unfold Step.tokens
  cases s.yield <;> rfl

/-- Wherever a text stands its tokens are the same. -/
theorem scan_shift {region : Region} {p : Position} {cs : List Char} {ts : List Token}
    (h : scan region p cs = .ok ts) : scan region (p.shift lines bytes) cs =
      .ok (ts.map (relocate (.shift lines bytes))) := by
  match cs, h with
  | [], h =>
    rw [scan] at h ⊢
    cases h
    rfl
  | c :: cs, h =>
    obtain ⟨s, ts', hs, hrest, rfl⟩ := exists_step_of_scan h
    rw [scan_of_step hs, Position.after_shift, scan_shift hrest, tokens_shift, List.map_append]
    rfl
termination_by cs.length

end Token

end Phrasebook
