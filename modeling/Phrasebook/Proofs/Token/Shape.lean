import Phrasebook.Proofs.Token.Step

namespace Phrasebook

namespace Text

/-- The text stays on its line and ends with the character. -/
def IsClosedBy (closing : Char) (text : List Char) : Prop :=
  ∃ inside, text = inside ++ [closing] ∧ ∀ c ∈ text, isLineEnd c = false

theorem IsClosedBy.cons {c closing : Char} {text : List Char} (hc : ¬ isLineEnd c = true)
    (h : IsClosedBy closing text) : IsClosedBy closing (c :: text) := by
  obtain ⟨inside, rfl, hline⟩ := h
  exact ⟨c :: inside, rfl, List.forall_mem_cons.2 ⟨by simpa using hc, hline⟩⟩

/-- What closes a span is the last character of it. -/
theorem isClosedBy_of_closingAfter {opening closing : Char} {depth : Nat} {q : Quotation}
    {cs : List Char} {n : Nat} (h : closingAfter opening closing depth q cs = some n) :
    IsClosedBy closing (cs.take n) := by
  fun_induction closingAfter opening closing depth q cs generalizing n with
  | case1 => cases h
  | case2 => cases h
  | case4 q c cs hline hopens hcloses =>
    cases h
    obtain rfl : c = closing := hcloses.2
    exact ⟨[], rfl, by simpa using hline⟩
  | case3 depth q c cs hline _ ih =>
    obtain ⟨m, hm, rfl⟩ := Option.map_eq_some_iff.1 h
    exact (ih hm).cons hline
  | case5 q c cs hline _ _ depth ih =>
    obtain ⟨m, hm, rfl⟩ := Option.map_eq_some_iff.1 h
    exact (ih hm).cons hline
  | case6 depth q c cs hline _ _ ih =>
    obtain ⟨m, hm, rfl⟩ := Option.map_eq_some_iff.1 h
    exact (ih hm).cons hline

end Text

namespace Token

open Text

/-- Before the first fence there is none. -/
theorem take_beforeFence {cs : List Char} {n : Nat} (h : beforeFence cs = some n) :
    ∃ inside rest, cs = inside ++ (fence ++ rest) ∧ inside.length = n ∧ ¬ fence <:+: inside := by
  induction cs generalizing n with
  | nil => cases h
  | cons c cs ih =>
    rw [beforeFence] at h
    split at h
    · rename_i hfence
      cases h
      obtain ⟨rest, hrest⟩ := List.isPrefixOf_iff_prefix.1 hfence
      exact ⟨[], rest, hrest.symm, rfl, by decide⟩
    · rename_i hfence
      obtain ⟨m, hm, rfl⟩ := Option.map_eq_some_iff.1 h
      obtain ⟨inside, rest, rfl, rfl, hinside⟩ := ih hm
      refine ⟨c :: inside, rest, rfl, rfl, ?_⟩
      rw [List.infix_cons_iff, not_or]
      refine ⟨?_, hinside⟩
      intro hprefix
      apply hfence
      rw [List.isPrefixOf_iff_prefix]
      exact hprefix.trans (List.prefix_append (c :: inside) (fence ++ rest))

/-- A run of text has no character that would end it. -/
theorem endsText_of_run {cs : List Char} : ∀ c ∈ cs.take (textLength cs), endsText c = false := by
  induction cs with
  | nil => simp
  | cons c cs ih =>
    rw [textLength]
    split
    · simp
    · rename_i hc
      rw [List.take_succ_cons, List.forall_mem_cons]
      refine ⟨?_, ih⟩
      simp only [Bool.or_eq_true, not_or, Bool.not_eq_true] at hc
      exact hc.1

/-- Brackets with text between them, all on one line. -/
def IsSpan (opening closing : Char) (text : List Char) : Prop :=
  ∃ inside, text = opening :: (inside ++ [closing]) ∧ ∀ c ∈ text, isLineEnd c = false

/-- Fences with text between them, in which there is none. -/
def IsBlock (text : List Char) : Prop :=
  ∃ inside, text = fence ++ (inside ++ fence) ∧ ¬ fence <:+: inside

/-- The shape that a token of the kind gives its text. -/
def HasShape (text : List Char) : TokenKind → Prop
  | .identifier => Name.isIdentifierChars text
  | .expression => IsSpan '\x7b' '\x7d' text
  | .reference => IsSpan '[' ']' text
  | .block => IsBlock text
  | .text | .separator | .blanks => '\n' ∉ text
  | _ => True

/-- The text of the token has the shape that its kind says. -/
def Shaped (t : Token) : Prop := HasShape t.text.toList t.kind

theorem Shaped.of_plain {t : Token} (h : t.Shaped) (hplain : t.kind.isPlain) :
    '\n' ∉ t.text.toList := by
  unfold Shaped at h
  cases hkind : t.kind with
  | text | separator | blanks =>
    rw [hkind] at h
    exact h
  | _ =>
    rw [hkind] at hplain
    contradiction

theorem Shaped.isIdentifier {t : Token} (h : t.Shaped) (hkind : t.kind = .identifier) :
    Name.isIdentifier t.text := by
  unfold Shaped at h
  rw [hkind] at h
  exact h

/-- What a step leaves has the shape that its kind says. -/
def Step.Shaped (s : Step) (taken : List Char) : Prop :=
  match s.yield with
  | .nothing => True
  | .token kind => HasShape taken kind
  | .escape => '\n' ∉ taken.drop 1

variable {c : Char} {cs : List Char} {s : Step}

theorem Step.shaped_of_token {taken : List Char} {kind : TokenKind} (hyield : s.yield = .token kind)
    (h : HasShape taken kind) : s.Shaped taken := by
  unfold Step.Shaped
  rw [hyield]
  exact h

theorem shaped_stepBetween (h : stepBetween c cs = .ok s) : s.Shaped (c :: cs.take s.more) := by
  unfold stepBetween at h
  repeat' split at h
  all_goals cases h
  all_goals exact trivial

theorem punctuation?_shape {kind : TokenKind} (h : punctuation? c = some kind) (text : List Char) :
    HasShape text kind := by
  unfold punctuation? at h
  repeat' split at h
  all_goals cases h
  all_goals exact trivial

theorem shaped_stepNameLine (h : stepNameLine c cs = .ok s) : s.Shaped (c :: cs.take s.more) := by
  unfold stepNameLine at h
  split at h
  · cases h
    exact trivial
  split at h
  · cases h
    exact trivial
  split at h
  · rename_i hstart
    cases h
    change Name.isIdentifierChars (c :: cs.take (runLength Name.continuesIdentifier cs)) = true
    rw [take_runLength, Name.isIdentifierChars, hstart, List.all_takeWhile]
    rfl
  split at h
  · rename_i kind hkind
    cases h
    exact punctuation?_shape hkind _
  · cases h

/-- A span that is taken whole, with its brackets. -/
theorem isSpan_of_wholeSpan {kind : TokenKind} {opening closing : Char}
    (hopening : isLineEnd opening = false)
    (h : wholeSpan kind (closingAfter opening closing 0 .outside cs) = .ok s) :
    IsSpan opening closing (opening :: cs.take s.more) ∧ s.yield = .token kind := by
  unfold wholeSpan at h
  split at h
  · rename_i more hmore
    cases h
    obtain ⟨inside, htake, hline⟩ := isClosedBy_of_closingAfter hmore
    exact ⟨⟨inside, congrArg (opening :: ·) htake, List.forall_mem_cons.2 ⟨hopening, hline⟩⟩, rfl⟩
  · cases h

theorem isBlock_of_wholeSpan (hfence : fence.isPrefixOf (c :: cs) = true)
    (h : wholeSpan .block ((beforeFence (cs.drop 2)).map (· + 5)) = .ok s) :
    IsBlock (c :: cs.take s.more) ∧ s.yield = .token .block := by
  unfold wholeSpan at h
  split at h
  · rename_i more hmore
    cases h
    obtain ⟨n, hn, rfl⟩ := Option.map_eq_some_iff.1 hmore
    obtain ⟨inside, rest, hcs, rfl, hinside⟩ := take_beforeFence hn
    obtain ⟨tail, htail⟩ := List.isPrefixOf_iff_prefix.1 hfence
    obtain ⟨rfl, rfl⟩ := List.cons.inj htail
    obtain rfl : tail = inside ++ (fence ++ rest) := hcs
    have hlength : (fence ++ (inside ++ fence)).length = inside.length + 5 + 1 := by
      simp [fence]
    have hsplit : fence ++ (inside ++ (fence ++ rest)) = fence ++ (inside ++ fence) ++ rest := by
      simp
    refine ⟨⟨inside, ?_, hinside⟩, rfl⟩
    calc (fence ++ (inside ++ (fence ++ rest))).take (inside.length + 5 + 1)
        = (fence ++ (inside ++ fence) ++ rest).take (inside.length + 5 + 1) := by rw [hsplit]
      _ = fence ++ (inside ++ fence) := List.take_left' hlength
  · cases h

theorem shaped_stepContent (hc : c ≠ '\n') (h : stepContent c cs = .ok s) :
    s.Shaped (c :: cs.take s.more) := by
  unfold stepContent at h
  split at h
  · rename_i hfence
    obtain ⟨hblock, hyield⟩ := isBlock_of_wholeSpan hfence h
    exact Step.shaped_of_token hyield hblock
  split at h
  · rename_i hopening
    subst hopening
    obtain ⟨hspan, hyield⟩ := isSpan_of_wholeSpan rfl h
    exact Step.shaped_of_token hyield hspan
  split at h
  · rename_i hopening
    subst hopening
    obtain ⟨hspan, hyield⟩ := isSpan_of_wholeSpan rfl h
    exact Step.shaped_of_token hyield hspan
  split at h
  · rename_i hescape
    cases h
    cases cs with
    | nil => exact absurd hescape.2 (by simp)
    | cons d cs =>
      change '\n' ∉ [d]
      rw [List.mem_singleton]
      rintro rfl
      have hlineFeed : isEscapable '\n' = true := hescape.2
      contradiction
  split at h
  · rename_i hblank
    cases h
    intro hmem
    have hall := all_cons_run (p := isBlank) cs hblank '\n' hmem
    contradiction
  split at h
  · cases h
    change '\n' ∉ [c]
    simpa using hc.symm
  split at h
  · cases h
    change '\n' ∉ [c]
    simpa using hc.symm
  · cases h
    change '\n' ∉ c :: cs.take (textLength cs)
    rw [List.mem_cons, not_or]
    refine ⟨hc.symm, fun hmem => ?_⟩
    have hrun := endsText_of_run '\n' hmem
    contradiction

theorem keyword?_shape {kind : TokenKind} {more : Nat} (h : keyword? cs = some (kind, more))
    (text : List Char) : HasShape text kind := by
  unfold keyword? at h
  repeat' split at h
  all_goals cases h
  all_goals exact trivial

theorem shaped_stepLine {dropsBlanks atStart : Bool}
    (h : stepLine dropsBlanks atStart c cs = .ok s) : s.Shaped (c :: cs.take s.more) := by
  unfold stepLine at h
  split at h
  · cases h
    exact trivial
  split at h
  · cases h
    exact trivial
  rename_i hnewline
  split at h
  · rename_i kind more hkeyword
    cases h
    split at hkeyword
    · exact keyword?_shape hkeyword _
    · cases hkeyword
  · have hc : c ≠ '\n' := by
      rintro rfl
      simp [newlineMore] at hnewline
    exact shaped_stepContent hc h

theorem shaped_step {region : Region} (h : step region c cs = .ok s) :
    s.Shaped (c :: cs.take s.more) := by
  cases region with
  | between => exact shaped_stepBetween h
  | nameLine => exact shaped_stepNameLine h
  | line dropsBlanks atStart => exact shaped_stepLine h

/-- The tokens of a source have the shapes that their kinds say. The induction is along the
scan. -/
theorem shaped_of_scan {region : Region} {p : Position} {text : List Char} {ts : List Token}
    (h : scan region p text = .ok ts) : ∀ t ∈ ts, t.Shaped := by
  match text, h with
  | [], h =>
    rw [scan] at h
    cases h
    simp [endAt, Shaped, HasShape]
  | c :: cs, h =>
    obtain ⟨s, ts', hs, hrest, rfl⟩ := exists_step_of_scan h
    refine List.forall_mem_append.2 ⟨?_, shaped_of_scan hrest⟩
    have hshaped := shaped_step hs
    unfold Step.Shaped at hshaped
    unfold Step.tokens
    cases hyield : s.yield with
    | nothing => simp
    | token kind =>
      rw [hyield] at hshaped
      simpa [Shaped] using hshaped
    | escape =>
      rw [hyield] at hshaped
      simpa [Shaped, HasShape] using hshaped
termination_by text.length

end Token

end Phrasebook
