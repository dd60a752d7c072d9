import Phrasebook.Proofs.Token.Concatenation
import Phrasebook.Proofs.Token.Shape

namespace Phrasebook

namespace Text

/-- The text with a carriage return in front of every line feed. -/
def crlf (cs : List Char) : List Char := cs.flatMap fun c => if c = '\n' then ['\r', '\n'] else [c]

/-- The source with a carriage return in front of every line feed. -/
def withReturns (source : String) : String := String.ofList (crlf source.toList)

variable {c : Char} {cs : List Char} {p : Char → Bool}

@[simp] theorem crlf_nil : crlf [] = [] := rfl

@[simp] theorem crlf_lineFeed (cs : List Char) : crlf ('\n' :: cs) = '\r' :: '\n' :: crlf cs := rfl

theorem crlf_cons (hc : c ≠ '\n') (cs : List Char) : crlf (c :: cs) = c :: crlf cs := by
  simp [crlf, hc]

theorem crlf_append (as bs : List Char) : crlf (as ++ bs) = crlf as ++ crlf bs := List.flatMap_append

/-- A text on one line stays as it is. -/
theorem crlf_eq_self (h : '\n' ∉ cs) : crlf cs = cs := by
  induction cs with
  | nil => rfl
  | cons c cs ih =>
    rw [List.mem_cons, not_or] at h
    rw [crlf_cons (Ne.symm h.1), ih h.2]

/-- There is one more byte for every line feed. -/
theorem byteLength_crlf (cs : List Char) :
    byteLength (crlf cs) = byteLength cs + cs.count '\n' := by
  induction cs with
  | nil => rfl
  | cons c cs ih =>
    by_cases hc : c = '\n'
    · subst hc
      have hsize : '\r'.utf8Size = 1 := rfl
      rw [crlf_lineFeed, byteLength_cons, byteLength_cons, byteLength_cons, ih, hsize,
        List.count_cons_self]
      omega
    · rw [crlf_cons hc, byteLength_cons, byteLength_cons, ih, List.count_cons_of_ne hc]
      omega

theorem take_crlf (n : Nat) (cs : List Char) :
    (crlf cs).take (crlf (cs.take n)).length = crlf (cs.take n) := by
  have hsplit : crlf cs = crlf (cs.take n) ++ crlf (cs.drop n) := by
    rw [← crlf_append, List.take_append_drop]
  rw [hsplit, List.take_left]

theorem drop_crlf (n : Nat) (cs : List Char) :
    (crlf cs).drop (crlf (cs.take n)).length = crlf (cs.drop n) := by
  have hsplit : crlf cs = crlf (cs.take n) ++ crlf (cs.drop n) := by
    rw [← crlf_append, List.take_append_drop]
  rw [hsplit, List.drop_left]

/-- A run that goes over no line end stops where it stopped. -/
theorem runLength_crlf (hp : p '\n' = false) (hp' : p '\r' = false) (cs : List Char) :
    runLength p (crlf cs) = runLength p cs := by
  unfold runLength
  induction cs with
  | nil => rfl
  | cons c cs ih =>
    by_cases hc : c = '\n'
    · subst hc
      simp [hp, hp']
    · rw [crlf_cons hc]
      cases hpc : p c <;> simp [hpc, ih]

theorem not_mem_run (hp : p '\n' = false) (cs : List Char) : '\n' ∉ cs.take (runLength p cs) := by
  rw [take_runLength]
  intro hmem
  have hall := List.all_eq_true.1 List.all_takeWhile '\n' hmem
  rw [hp] at hall
  contradiction

theorem isPrefixOf_crlf {word : List Char} (hfeed : '\n' ∉ word) (hreturn : '\r' ∉ word)
    (cs : List Char) : word.isPrefixOf (crlf cs) = word.isPrefixOf cs := by
  induction word generalizing cs with
  | nil => simp
  | cons d word ih =>
    rw [List.mem_cons, not_or] at hfeed hreturn
    cases cs with
    | nil => rfl
    | cons c cs =>
      by_cases hc : c = '\n'
      · subst hc
        have hfeed' : (d == '\n') = false := beq_eq_false_iff_ne.2 (Ne.symm hfeed.1)
        have hreturn' : (d == '\r') = false := beq_eq_false_iff_ne.2 (Ne.symm hreturn.1)
        rw [crlf_lineFeed, List.isPrefixOf, List.isPrefixOf, hfeed', hreturn']
        rfl
      · rw [crlf_cons hc, List.isPrefixOf, List.isPrefixOf, ih hfeed.2 hreturn.2]

theorem closingAfter_crlf {opening closing : Char} (depth : Nat) (q : Quotation) (cs : List Char) :
    closingAfter opening closing depth q (crlf cs) = closingAfter opening closing depth q cs := by
  induction cs generalizing depth q with
  | nil => rfl
  | cons c cs ih =>
    by_cases hc : c = '\n'
    · subst hc
      rfl
    · rw [crlf_cons hc, closingAfter.eq_def, closingAfter.eq_def _ _ _ _ (c :: cs)]
      simp only [ih]

end Text

namespace Token

open Text

variable {c : Char} {cs : List Char}

theorem beforeFence_crlf (cs : List Char) :
    beforeFence (crlf cs) = (beforeFence cs).map fun n => (crlf (cs.take n)).length := by
  induction cs with
  | nil => rfl
  | cons c cs ih =>
    by_cases hc : c = '\n'
    · subst hc
      have hfeed : beforeFence ('\n' :: crlf cs) = (beforeFence (crlf cs)).map (· + 1) := rfl
      have hreturn : beforeFence ('\r' :: '\n' :: crlf cs) =
          (beforeFence ('\n' :: crlf cs)).map (· + 1) := rfl
      have hfront : beforeFence ('\n' :: cs) = (beforeFence cs).map (· + 1) := rfl
      rw [crlf_lineFeed, hreturn, hfeed, ih, hfront]
      simp [Function.comp_def]
    · rw [crlf_cons hc, beforeFence, beforeFence, ← crlf_cons hc,
        isPrefixOf_crlf (by decide) (by decide), ih]
      split
      · rfl
      · simp [Function.comp_def, crlf_cons hc]

theorem textLength_crlf (cs : List Char) : textLength (crlf cs) = textLength cs := by
  induction cs with
  | nil => rfl
  | cons c cs ih =>
    by_cases hc : c = '\n'
    · subst hc
      rfl
    · rw [crlf_cons hc, textLength, textLength, ← crlf_cons hc,
        isPrefixOf_crlf (by decide) (by decide), ih]

theorem keyword?_crlf (cs : List Char) : keyword? (crlf cs) = keyword? cs := by
  unfold keyword?
  rw [isPrefixOf_crlf (by decide) (by decide), isPrefixOf_crlf (by decide) (by decide),
    isPrefixOf_crlf (by decide) (by decide), isPrefixOf_crlf (by decide) (by decide)]

/-- What a step is in front of a text, and what it is in front of the same text with other line
ends: it takes the same characters. Only in a block can line ends be among them. -/
inductive SameStep (cs : List Char) : Except ParseFault Step → Except ParseFault Step → Prop where
  | fault (fault : ParseFault) : SameStep cs (.error fault) (.error fault)
  | ok (s : Step) (h : s.yield = .token .block ∨ '\n' ∉ cs.take s.more) :
      SameStep cs (.ok s) (.ok { s with more := (crlf (cs.take s.more)).length })

theorem SameStep.line {s : Step} (hmore : s.more ≤ cs.length) (hline : '\n' ∉ cs.take s.more) :
    SameStep cs (.ok s) (.ok s) := by
  have hlength : (crlf (cs.take s.more)).length = s.more := by
    rw [crlf_eq_self hline, List.length_take_of_le hmore]
  have hstep := SameStep.ok s (.inr hline)
  rwa [hlength] at hstep

theorem sameStep_single (yield : Yield) (next : Region) (cs : List Char) :
    SameStep cs (.ok ⟨yield, 0, next⟩) (.ok ⟨yield, 0, next⟩) :=
  .line (Nat.zero_le _) (by simp)

theorem sameStep_run {p : Char → Bool} (hp : p '\n' = false) (yield : Yield) (next : Region)
    (cs : List Char) : SameStep cs (.ok ⟨yield, runLength p cs, next⟩)
      (.ok ⟨yield, runLength p cs, next⟩) :=
  .line (runLength_le cs) (not_mem_run hp cs)

theorem newlineMore_other (hfeed : c ≠ '\n') (hreturn : c ≠ '\r') (cs : List Char) :
    newlineMore c cs = none := by
  simp [newlineMore, hfeed, hreturn]

/-- A span is taken whole on its line. -/
theorem sameStep_span {opening closing : Char} (kind : TokenKind) (cs : List Char) :
    SameStep cs (wholeSpan kind (closingAfter opening closing 0 .outside cs))
      (wholeSpan kind (closingAfter opening closing 0 .outside cs)) := by
  cases hmore : closingAfter opening closing 0 .outside cs with
  | none => exact .fault _
  | some more =>
    refine .line (closingAfter_le hmore) fun hmem => ?_
    obtain ⟨-, -, hline⟩ := isClosedBy_of_closingAfter hmore
    exact absurd (hline '\n' hmem) (by decide)

/-- A block has as many line ends as before, and is longer by those. -/
theorem block_crlf (hfence : fence.isPrefixOf (c :: cs) = true) :
    SameStep cs (wholeSpan .block ((beforeFence (cs.drop 2)).map (· + 5)))
      (wholeSpan .block ((beforeFence ((crlf cs).drop 2)).map (· + 5))) := by
  obtain ⟨tail, htail⟩ := List.isPrefixOf_iff_prefix.1 hfence
  obtain ⟨rfl, rfl⟩ := List.cons.inj htail
  change SameStep _ (wholeSpan .block ((beforeFence tail).map (· + 5)))
    (wholeSpan .block ((beforeFence (crlf tail)).map (· + 5)))
  rw [beforeFence_crlf]
  cases hbefore : beforeFence tail with
  | none => exact .fault _
  | some n =>
    obtain ⟨inside, rest, rfl, rfl, -⟩ := take_beforeFence hbefore
    have htake : (['\x60', '\x60'] ++ (inside ++ (fence ++ rest))).take (inside.length + 5) =
        ['\x60', '\x60'] ++ (inside ++ fence) := by
      have hsplit : ['\x60', '\x60'] ++ (inside ++ (fence ++ rest)) =
          (['\x60', '\x60'] ++ (inside ++ fence)) ++ rest := by simp
      rw [hsplit, List.take_left' (by simp [fence])]
    have hmore : (crlf (['\x60', '\x60'] ++ (inside ++ fence))).length =
        (crlf inside).length + 5 := by
      rw [crlf_append, crlf_append, crlf_eq_self (by decide : '\n' ∉ fence)]
      simp [fence, crlf_cons]
    have hblock := @SameStep.ok (['\x60', '\x60'] ++ (inside ++ (fence ++ rest)))
      ⟨.token .block, inside.length + 5, .line false false⟩ (.inl rfl)
    rw [htake, hmore] at hblock
    simpa [wholeSpan] using hblock

/-- A keyword stands on one line. -/
theorem keyword?_onLine {kind : TokenKind} {more : Nat} (h : keyword? cs = some (kind, more)) :
    '\n' ∉ cs.take (more + 1) := by
  have hword {word : String} (hfront : word.toList.isPrefixOf cs = true)
      (hlength : word.toList.length = more + 1) (hline : '\n' ∉ word.toList) :
      '\n' ∉ cs.take (more + 1) := by
    obtain ⟨rest, rfl⟩ := List.isPrefixOf_iff_prefix.1 hfront
    rwa [List.take_left' hlength]
  unfold keyword? at h
  split at h
  · rename_i hcase
    cases h
    rcases Bool.or_eq_true_iff.1 hcase with hcase | hcase <;> exact hword hcase rfl (by decide)
  split at h
  · rename_i hdefault
    cases h
    rcases Bool.or_eq_true_iff.1 hdefault with hdefault | hdefault <;>
      exact hword hdefault rfl (by decide)
  · cases h

section

variable (hfeed : c ≠ '\n') (hreturn : c ≠ '\r')

include hfeed hreturn

theorem stepBetween_crlf (cs : List Char) :
    SameStep cs (stepBetween c cs) (stepBetween c (crlf cs)) := by
  unfold stepBetween
  rw [newlineMore_other hfeed hreturn, newlineMore_other hfeed hreturn,
    runLength_crlf (by decide) (by decide), runLength_crlf (by decide) (by decide)]
  dsimp only
  split
  · exact sameStep_run (by decide) _ _ _
  split
  · exact sameStep_run (by decide) _ _ _
  split
  · exact sameStep_single _ _ _
  split
  · exact sameStep_single _ _ _
  · exact .fault _

theorem stepNameLine_crlf (cs : List Char) :
    SameStep cs (stepNameLine c cs) (stepNameLine c (crlf cs)) := by
  unfold stepNameLine
  rw [newlineMore_other hfeed hreturn, newlineMore_other hfeed hreturn,
    runLength_crlf (by decide) (by decide), runLength_crlf (by decide) (by decide)]
  dsimp only
  split
  · exact sameStep_run (by decide) _ _ _
  split
  · exact sameStep_run (by decide) _ _ _
  · cases punctuation? c with
    | some kind => exact sameStep_single _ _ _
    | none => exact .fault _

omit hreturn in
theorem stepContent_crlf (cs : List Char) :
    SameStep cs (stepContent c cs) (stepContent c (crlf cs)) := by
  have hfence : fence.isPrefixOf (c :: crlf cs) = fence.isPrefixOf (c :: cs) := by
    rw [← crlf_cons hfeed, isPrefixOf_crlf (by decide) (by decide)]
  have hescape : (crlf cs).head?.any isEscapable = cs.head?.any isEscapable := by
    cases cs with
    | nil => rfl
    | cons d cs =>
      by_cases hd : d = '\n'
      · subst hd
        rfl
      · rw [crlf_cons hd]
        rfl
  unfold stepContent
  rw [hfence, hescape, closingAfter_crlf, closingAfter_crlf, textLength_crlf,
    runLength_crlf (by decide) (by decide)]
  dsimp only
  split
  · exact block_crlf ‹_›
  split
  · exact sameStep_span _ cs
  split
  · exact sameStep_span _ cs
  split
  · rename_i hslash
    cases cs with
    | nil => exact absurd hslash.2 (by simp)
    | cons d cs =>
      refine .line (Nat.le_add_left 1 _) ?_
      change '\n' ∉ [d]
      rw [List.mem_singleton]
      rintro rfl
      have hfeed : isEscapable '\n' = true := hslash.2
      contradiction
  split
  · exact sameStep_run (by decide) _ _ _
  split
  · exact sameStep_single _ _ _
  split
  · exact sameStep_single _ _ _
  · refine .line (textLength_le cs) fun hmem => ?_
    have hrun := endsText_of_run '\n' hmem
    contradiction

theorem stepLine_crlf (dropsBlanks atStart : Bool) (cs : List Char) :
    SameStep cs (stepLine dropsBlanks atStart c cs) (stepLine dropsBlanks atStart c (crlf cs)) := by
  unfold stepLine
  rw [newlineMore_other hfeed hreturn, newlineMore_other hfeed hreturn,
    runLength_crlf (by decide) (by decide), ← crlf_cons hfeed, keyword?_crlf]
  dsimp only
  split
  · exact sameStep_run (by decide) _ _ _
  split
  · rename_i kind more hkeyword
    split at hkeyword
    · have hmore := Nat.le_of_lt_succ (keyword?_le hkeyword)
      exact .line hmore fun hmem => keyword?_onLine hkeyword (List.mem_cons_of_mem c hmem)
    · cases hkeyword
  · exact stepContent_crlf hfeed cs

/-- A step inside a line is the same whatever ends the line. -/
theorem step_crlf (region : Region) (cs : List Char) :
    SameStep cs (step region c cs) (step region c (crlf cs)) := by
  cases region with
  | between => exact stepBetween_crlf hfeed hreturn cs
  | nameLine => exact stepNameLine_crlf hfeed hreturn cs
  | line dropsBlanks atStart => exact stepLine_crlf hfeed hreturn dropsBlanks atStart cs

end

theorem step_returnFeed (region : Region) (cs : List Char) :
    step region '\r' ('\n' :: cs) = .ok ⟨.token .newline, 1, .between⟩ := by
  cases region with
  | between => rfl
  | nameLine => rfl
  | line dropsBlanks atStart => cases dropsBlanks <;> rfl

end Token

/-- The same place when lines end with two bytes: each line above makes for one byte more. -/
def Position.crlf (p : Position) : Position := ⟨p.line, p.column, p.offset + (p.line - 1)⟩

/-- The same stretch when lines end with two bytes, if there is no line end in it. -/
def Location.crlf (l : Location) : Location := { l with offset := l.offset + (l.line - 1) }

namespace Position

theorem one_le_next {p : Position} (h : 1 ≤ p.line) (c : Char) : 1 ≤ (p.next c).line := by
  unfold next
  split
  · exact Nat.le_add_left 1 _
  · exact h

theorem one_le_after {p : Position} (h : 1 ≤ p.line) (cs : List Char) :
    1 ≤ (p.after cs).line := by
  induction cs generalizing p with
  | nil => exact h
  | cons c cs ih => exact ih (one_le_next h c)

theorem after_crlf {p : Position} (h : 1 ≤ p.line) (cs : List Char) :
    p.crlf.after (Text.crlf cs) = (p.after cs).crlf := by
  induction cs generalizing p with
  | nil => rfl
  | cons c cs ih =>
    rw [after_cons, ← ih (one_le_next h c)]
    by_cases hc : c = '\n'
    · subst hc
      have hplace : (p.crlf.next '\r').next '\n' = (p.next '\n').crlf := by
        change (⟨p.line + 1, 1, p.offset + (p.line - 1) + 1 + 1⟩ : Position) =
          ⟨p.line + 1, 1, p.offset + 1 + (p.line + 1 - 1)⟩
        rw [Position.mk.injEq]
        omega
      rw [Text.crlf_lineFeed, after_cons, after_cons, hplace]
    · have hplace : p.crlf.next c = (p.next c).crlf := by
        simp [next, crlf, hc]
        omega
      rw [Text.crlf_cons hc, after_cons, hplace]

end Position

namespace TokenKind

/-- Tokens of these kinds may have line ends in them. -/
def breaks : TokenKind → Bool
  | newline | block => true
  | _ => false

end TokenKind

/-- The two errors are told in the same words, for the same line and column. -/
structure ParseError.ToldAlike (e e' : ParseError) : Prop where
  message : e'.fault.message = e.fault.message
  expected : e'.fault.expected = e.fault.expected
  line : e'.location.line = e.location.line
  column : e'.location.column = e.location.column

/-- Both outcomes are values, of which the second is the first changed by `f`, or both are errors
that are told alike. -/
inductive Alike {α β : Type} (f : α → β) : Except ParseError α → Except ParseError β → Prop where
  | ok (a : α) : Alike f (.ok a) (.ok (f a))
  | error {e e' : ParseError} (h : e.ToldAlike e') : Alike f (.error e) (.error e')

namespace Alike

variable {α β α' β' : Type} {f : α → β} {g : α' → β'} {x : Except ParseError α}
  {y : Except ParseError β}

theorem eq_ok {a : α} (h : Alike f (.ok a) y) : y = .ok (f a) := by
  cases h
  rfl

theorem exists_error {e : ParseError} (h : Alike f (.error e) y) :
    ∃ e', y = .error e' ∧ e.ToldAlike e' := by
  cases h with
  | error h => exact ⟨_, rfl, h⟩

theorem bind {k : α → Except ParseError α'} {l : β → Except ParseError β'} (h : Alike f x y)
    (hk : ∀ a, x = .ok a → Alike g (k a) (l (f a))) : Alike g (x >>= k) (y >>= l) := by
  cases h with
  | ok a => exact hk a rfl
  | error h => exact .error h

theorem map {u : α → α'} {v : β → β'} (h : Alike f x y) (hv : ∀ a, v (f a) = g (u a)) :
    Alike g (x.map u) (y.map v) := by
  cases h with
  | ok a =>
    change Alike g (.ok (u a)) (.ok (v (f a)))
    rw [hv]
    exact .ok (u a)
  | error h => exact .error h

end Alike

namespace Token

open Text

/-- The same token when lines end with two bytes. A newline or a block has line ends in it, which
make it longer. -/
def crlf (t : Token) : Token :=
  if t.kind = .newline ∨ t.kind = .block then
    ⟨t.kind, String.ofList (Text.crlf t.text.toList),
      { t.location.crlf with length := t.location.length + t.text.toList.count '\n' }⟩
  else ⟨t.kind, t.text, t.location.crlf⟩

@[simp] theorem crlf_kind (t : Token) : t.crlf.kind = t.kind := by
  unfold crlf
  split <;> rfl

@[simp] theorem crlf_location_line (t : Token) : t.crlf.location.line = t.location.line := by
  unfold crlf
  split <;> rfl

@[simp] theorem crlf_location_column (t : Token) : t.crlf.location.column = t.location.column := by
  unfold crlf
  split <;> rfl

theorem crlf_ofPosition (p : Position) (n : Nat) :
    (Location.ofPosition p n).crlf = Location.ofPosition p.crlf n := rfl

/-- The tokens of a step in a source whose lines end with two bytes. -/
theorem tokens_crlf {s : Step} {taken : List Char} (p : Position)
    (h : s.yield = .token .newline ∨ s.yield = .token .block ∨ '\n' ∉ taken) :
    s.tokens p.crlf (Text.crlf taken) = (s.tokens p taken).map crlf := by
  unfold Step.tokens
  cases hyield : s.yield with
  | nothing => rfl
  | token kind =>
    by_cases hbreaks : kind = .newline ∨ kind = .block
    · simp [crlf, hbreaks, byteLength_crlf, Location.crlf, Location.ofPosition, Position.crlf]
    · have hline : '\n' ∉ taken := by simpa [hyield, not_or.1 hbreaks] using h
      simp [crlf, hbreaks, Text.crlf_eq_self hline, crlf_ofPosition]
  | escape =>
    have hline : '\n' ∉ taken := by simpa [hyield] using h
    simp [crlf, Text.crlf_eq_self hline, crlf_ofPosition]

/-- The scanner takes a source whose lines end with two bytes apart like the one whose lines end
with one. The induction is along the scan; no step ends between the two bytes. -/
theorem scan_crlf (region : Region) {p : Position} {cs : List Char} (hp : 1 ≤ p.line)
    (hcs : '\r' ∉ cs) : Alike (List.map crlf) (scan region p cs)
      (scan region p.crlf (Text.crlf cs)) := by
  match cs with
  | [] =>
    rw [Text.crlf_nil, scan, scan]
    exact .ok [Token.endAt p]
  | c :: cs =>
    rw [List.mem_cons, not_or] at hcs
    by_cases hc : c = '\n'
    · subst hc
      have hplace : p.crlf.after ['\r', '\n'] = (p.after ['\n']).crlf :=
        Position.after_crlf hp ['\n']
      have hrest := scan_crlf .between (Position.one_le_after hp ['\n']) hcs.2
      rw [Text.crlf_lineFeed, scan_of_step (step_lineFeed region cs),
        scan_of_step (step_returnFeed region (Text.crlf cs))]
      change Alike _ _ ((scan .between (p.crlf.after ['\r', '\n']) (Text.crlf cs)).map _)
      rw [hplace]
      refine hrest.map fun ts => ?_
      rw [List.map_append, ← tokens_crlf p (.inl rfl)]
      rfl
    · rw [Text.crlf_cons hc]
      have hstep := step_crlf hc (Ne.symm hcs.1) region cs
      generalize hs : step region c cs = r, hs' : step region c (Text.crlf cs) = r' at hstep
      cases hstep with
      | fault fault =>
        rw [scan, scan, hs, hs']
        exact .error ⟨rfl, rfl, rfl, rfl⟩
      | ok s hyield =>
        have hplace : p.crlf.after (c :: Text.crlf (cs.take s.more)) =
            (p.after (c :: cs.take s.more)).crlf := by
          rw [← Text.crlf_cons hc, Position.after_crlf hp]
        have hreturn : '\r' ∉ cs.drop s.more := fun h => hcs.2 (List.mem_of_mem_drop h)
        have hrest := scan_crlf s.next (Position.one_le_after hp (c :: cs.take s.more)) hreturn
        have htaken : s.yield = .token .newline ∨ s.yield = .token .block ∨
            '\n' ∉ c :: cs.take s.more := by
          rw [List.mem_cons, not_or]
          exact .inr (hyield.imp_right fun hline => ⟨Ne.symm hc, hline⟩)
        rw [scan_of_step hs, scan_of_step hs', take_crlf, drop_crlf, hplace]
        refine hrest.map fun ts => ?_
        rw [List.map_append, ← tokens_crlf p htaken, Text.crlf_cons hc]
        rfl
termination_by cs.length
decreasing_by
  · simp
  · simp only [List.length_drop, List.length_cons]
    omega

theorem ofSource_withReturns {source : String} (h : '\r' ∉ source.toList) :
    Alike (List.map crlf) (ofSource source) (ofSource (withReturns source)) := by
  rw [ofSource, ofSource, withReturns, String.toList_ofList]
  exact scan_crlf .between (Nat.le_refl 1) h

end Token

end Phrasebook
