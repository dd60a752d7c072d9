import Phrasebook.Token.Scan

namespace Phrasebook

namespace Text

theorem take_runLength (p : Char → Bool) (cs : List Char) :
    cs.take (runLength p cs) = cs.takeWhile p := by
  have hsplit : cs.takeWhile p ++ cs.dropWhile p = cs := List.takeWhile_append_dropWhile
  calc cs.take (runLength p cs)
      = (cs.takeWhile p ++ cs.dropWhile p).take (cs.takeWhile p).length := by rw [hsplit, runLength]
    _ = cs.takeWhile p := List.take_left

theorem drop_runLength (p : Char → Bool) (cs : List Char) :
    cs.drop (runLength p cs) = cs.dropWhile p := by
  have hsplit : cs.takeWhile p ++ cs.dropWhile p = cs := List.takeWhile_append_dropWhile
  calc cs.drop (runLength p cs)
      = (cs.takeWhile p ++ cs.dropWhile p).drop (cs.takeWhile p).length := by rw [hsplit, runLength]
    _ = cs.dropWhile p := List.drop_left

/-- A character of the class with the run behind it is all in the class. -/
theorem all_cons_run {p : Char → Bool} {c : Char} (cs : List Char) (hc : p c = true) :
    ∀ d ∈ c :: cs.take (runLength p cs), p d = true := by
  rw [take_runLength, List.forall_mem_cons]
  exact ⟨hc, fun d hd => List.all_eq_true.1 List.all_takeWhile d hd⟩

end Text

namespace Token

/-- What a step does with the characters it takes, in front of the rest. -/
inductive Step.Lawful (region : Region) (taken rest : List Char) (s : Step) : Prop where
  | blanks (hyield : s.yield = .nothing) (hnext : s.next = region)
      (htaken : ∀ c ∈ taken, Text.isBlank c)
  | comment (hyield : s.yield = .nothing) (hnext : s.next = region) (hregion : region = .between)
      (hhead : taken.head? = some '>') (htaken : ∀ c ∈ taken, Text.isLineEnd c = false)
      (hrest : ∀ c ∈ rest.head?, Text.isLineEnd c)
  | token (kind : TokenKind) (hyield : s.yield = .token kind) (hkind : kind ≠ .endOfInput)
      (hnext : s.next = .between ↔ kind = .newline) (hslash : ∀ d, taken ≠ ['\\', d])
  | escape (c : Char) (hyield : s.yield = .escape) (hnext : s.next ≠ .between)
      (htaken : taken = ['\\', c]) (hsize : c.utf8Size = 1)

variable {c : Char} {cs : List Char} {s : Step}

theorem lawful_blanks {region : Region} (hc : Text.isBlank c = true) :
    Step.Lawful region (c :: cs.take (Text.runLength Text.isBlank cs))
      (cs.drop (Text.runLength Text.isBlank cs))
      ⟨.nothing, Text.runLength Text.isBlank cs, region⟩ :=
  .blanks rfl rfl (Text.all_cons_run cs hc)

theorem ne_slash_cons {d : Char} {ds : List Char} (hc : c ≠ '\\') : c :: cs ≠ '\\' :: d :: ds :=
  fun h => hc (List.cons.inj h).1

theorem lawful_newline {region : Region} {rest : List Char} {more : Nat}
    (h : newlineMore c cs = some more) :
    Step.Lawful region (c :: cs.take more) rest ⟨.token .newline, more, .between⟩ := by
  have hc : c ≠ '\\' := by
    rintro rfl
    simp [newlineMore] at h
  exact .token .newline rfl (by decide) (by simp) fun d => ne_slash_cons hc

theorem stepBetween_lawful (h : stepBetween c cs = .ok s) :
    s.Lawful .between (c :: cs.take s.more) (cs.drop s.more) := by
  unfold stepBetween at h
  split at h
  · cases h
    exact lawful_blanks ‹_›
  split at h
  · rename_i hc
    cases h
    subst hc
    refine .comment rfl rfl rfl rfl ?_ ?_
    · have hall := Text.all_cons_run (p := fun d => !Text.isLineEnd d) (c := '>') cs rfl
      simpa using hall
    · rw [Text.drop_runLength]
      intro d hd
      have hstop := List.head?_dropWhile_not (fun d => !Text.isLineEnd d) cs
      rw [Option.mem_def] at hd
      rw [hd] at hstop
      simpa using hstop
  split at h
  · cases h
    exact lawful_newline ‹_›
  split at h
  · cases h
    exact .token .hash rfl (by decide) (by simp) (by simp)
  split at h
  · cases h
    exact .token .dash rfl (by decide) (by simp) (by simp)
  · cases h

theorem punctuation?_kind {kind : TokenKind} (h : punctuation? c = some kind) :
    kind ≠ .endOfInput ∧ kind ≠ .newline := by
  unfold punctuation? at h
  repeat' split at h
  all_goals simp only [Option.some.injEq, reduceCtorEq] at h
  all_goals subst h; decide

theorem stepNameLine_lawful (h : stepNameLine c cs = .ok s) :
    s.Lawful .nameLine (c :: cs.take s.more) (cs.drop s.more) := by
  unfold stepNameLine at h
  split at h
  · cases h
    exact lawful_blanks ‹_›
  split at h
  · cases h
    exact lawful_newline ‹_›
  split at h
  · rename_i hstart
    cases h
    have hc : c ≠ '\\' := by
      rintro rfl
      contradiction
    exact .token .identifier rfl (by decide) (by simp) fun d => ne_slash_cons hc
  split at h
  · rename_i kind hkind
    cases h
    obtain ⟨hend, hnewline⟩ := punctuation?_kind hkind
    exact .token kind rfl hend (by simpa using hnewline) (by simp)
  · cases h

theorem wholeSpan_lawful {region : Region} {rest : List Char} {kind : TokenKind}
    {length : Option Nat} (hc : c ≠ '\\') (hend : kind ≠ .endOfInput) (hnewline : kind ≠ .newline)
    (h : wholeSpan kind length = .ok s) : s.Lawful region (c :: cs) rest := by
  unfold wholeSpan at h
  split at h
  · cases h
    exact .token kind rfl hend (by simpa using hnewline) fun d => ne_slash_cons hc
  · cases h

theorem eq_backtick_of_fence (h : fence.isPrefixOf (c :: cs) = true) : c = '\x60' := by
  simp only [fence, List.isPrefixOf, Bool.and_eq_true, beq_iff_eq] at h
  exact h.1.symm

theorem utf8Size_of_isEscapable (h : isEscapable c = true) : c.utf8Size = 1 := by
  simp only [isEscapable, List.contains_iff_mem] at h
  have hall : "\x7b\x7d[]\\`-#".toList.all (fun c => c.utf8Size = 1) = true := by decide
  simpa using List.all_eq_true.1 hall c h

theorem stepContent_lawful {dropsBlanks atStart : Bool} (h : stepContent c cs = .ok s) :
    s.Lawful (.line dropsBlanks atStart) (c :: cs.take s.more) (cs.drop s.more) := by
  unfold stepContent at h
  split at h
  · rename_i hfence
    have hc : c ≠ '\\' := by
      rw [eq_backtick_of_fence hfence]
      decide
    exact wholeSpan_lawful hc (by decide) (by decide) h
  split at h
  · rename_i hc
    exact wholeSpan_lawful (by simp [hc]) (by decide) (by decide) h
  split at h
  · rename_i hc
    exact wholeSpan_lawful (by simp [hc]) (by decide) (by decide) h
  split at h
  · rename_i hescape
    obtain ⟨rfl, hany⟩ := hescape
    cases h
    cases cs with
    | nil => contradiction
    | cons d cs => exact .escape d rfl (by simp) rfl (utf8Size_of_isEscapable hany)
  split at h
  · rename_i hblank
    have hc : c ≠ '\\' := by
      rintro rfl
      contradiction
    cases h
    exact .token _ rfl (by decide) (by simp) fun d => ne_slash_cons hc
  split at h
  · cases h
    exact .token _ rfl (by decide) (by simp) (by simp)
  split at h
  · cases h
    exact .token _ rfl (by decide) (by simp) (by simp)
  · rename_i hc
    cases h
    exact .token _ rfl (by decide) (by simp) fun d => ne_slash_cons hc

theorem keyword?_kind {kind : TokenKind} {more : Nat} (h : keyword? cs = some (kind, more)) :
    kind ≠ .endOfInput ∧ kind ≠ .newline := by
  unfold keyword? at h
  repeat' split at h
  all_goals simp only [Option.some.injEq, Prod.mk.injEq, reduceCtorEq] at h
  all_goals obtain ⟨rfl, -⟩ := h; decide

theorem keyword?_slash : keyword? ('\\' :: cs) = none := rfl

theorem stepLine_lawful {dropsBlanks atStart : Bool}
    (h : stepLine dropsBlanks atStart c cs = .ok s) :
    s.Lawful (.line dropsBlanks atStart) (c :: cs.take s.more) (cs.drop s.more) := by
  unfold stepLine at h
  split at h
  · rename_i hblank
    cases h
    exact lawful_blanks (Bool.and_eq_true_iff.1 hblank).2
  split at h
  · cases h
    exact lawful_newline ‹_›
  split at h
  · rename_i kind more hkeyword
    cases h
    split at hkeyword
    · obtain ⟨hend, hnewline⟩ := keyword?_kind hkeyword
      have hc : c ≠ '\\' := by
        rintro rfl
        rw [keyword?_slash] at hkeyword
        contradiction
      exact .token kind rfl hend (by simpa using hnewline) fun d => ne_slash_cons hc
    · cases hkeyword
  · exact stepContent_lawful h

theorem step_lawful {region : Region} (h : step region c cs = .ok s) :
    s.Lawful region (c :: cs.take s.more) (cs.drop s.more) := by
  cases region with
  | between => exact stepBetween_lawful h
  | nameLine => exact stepNameLine_lawful h
  | line dropsBlanks atStart => exact stepLine_lawful h

theorem wholeSpan_fault {kind : TokenKind} {length : Option Nat} {fault : ParseFault}
    (h : wholeSpan kind length = .error fault) : faultLength fault = 1 := by
  unfold wholeSpan at h
  split at h
  · cases h
  · cases h
    rfl

theorem stepContent_fault {fault : ParseFault} (h : stepContent c cs = .error fault) :
    faultLength fault = c.utf8Size := by
  unfold stepContent at h
  split at h
  · rename_i hfence
    rw [wholeSpan_fault h, eq_backtick_of_fence hfence]
    rfl
  split at h
  · rw [wholeSpan_fault h, ‹c = '\x7b'›]
    rfl
  split at h
  · rw [wholeSpan_fault h, ‹c = '['›]
    rfl
  all_goals
    repeat' split at h
    all_goals cases h

theorem stepBetween_fault {fault : ParseFault} (h : stepBetween c cs = .error fault) :
    faultLength fault = c.utf8Size := by
  unfold stepBetween at h
  repeat' split at h
  all_goals cases h
  rfl

theorem stepNameLine_fault {fault : ParseFault} (h : stepNameLine c cs = .error fault) :
    faultLength fault = c.utf8Size := by
  unfold stepNameLine at h
  repeat' split at h
  all_goals cases h
  rfl

theorem stepLine_fault {dropsBlanks atStart : Bool} {fault : ParseFault}
    (h : stepLine dropsBlanks atStart c cs = .error fault) : faultLength fault = c.utf8Size := by
  unfold stepLine at h
  split at h
  · cases h
  split at h
  · cases h
  split at h
  · cases h
  · exact stepContent_fault h

/-- A fault is shown at the character where its step starts. -/
theorem step_fault {region : Region} {fault : ParseFault} (h : step region c cs = .error fault) :
    faultLength fault = c.utf8Size := by
  cases region with
  | between => exact stepBetween_fault h
  | nameLine => exact stepNameLine_fault h
  | line dropsBlanks atStart => exact stepLine_fault h

/-- What the characters leave that a step takes from `p` on. -/
def Step.tokens (s : Step) (p : Position) (taken : List Char) : List Token :=
  let location := Location.ofPosition p (Text.byteLength taken)
  match s.yield with
  | .nothing => []
  | .token kind => [⟨kind, String.ofList taken, location⟩]
  | .escape => [⟨.text, String.ofList (taken.drop 1), location⟩]

theorem scan_of_step {region : Region} {p : Position} (h : step region c cs = .ok s) :
    scan region p (c :: cs) =
      (scan s.next (p.after (c :: cs.take s.more)) (cs.drop s.more)).map
        (s.tokens p (c :: cs.take s.more) ++ ·) := by
  rw [scan, h]
  dsimp only
  unfold Step.tokens
  cases scan s.next (p.after (c :: cs.take s.more)) (cs.drop s.more) with
  | error e => rfl
  | ok ts => cases s.yield <;> rfl

theorem scan_of_nothing {region next : Region} {p : Position} {more : Nat}
    (h : step region c cs = .ok ⟨.nothing, more, next⟩) :
    scan region p (c :: cs) = scan next (p.after (c :: cs.take more)) (cs.drop more) := by
  rw [scan_of_step h]
  exact congrFun Except.map_id _

theorem scan_of_token {region next : Region} {p : Position} {kind : TokenKind} {more : Nat}
    (h : step region c cs = .ok ⟨.token kind, more, next⟩) :
    scan region p (c :: cs) = (scan next (p.after (c :: cs.take more)) (cs.drop more)).map
      (⟨kind, String.ofList (c :: cs.take more),
        .ofPosition p (Text.byteLength (c :: cs.take more))⟩ :: ·) := scan_of_step h

/-- What a step does not take is left with what follows. -/
theorem scan_of_step_append {region : Region} {p : Position} {rest : List Char}
    (h : step region c (cs ++ rest) = .ok s) (hmore : s.more ≤ cs.length) :
    scan region p (c :: (cs ++ rest)) =
      (scan s.next (p.after (c :: cs.take s.more)) (cs.drop s.more ++ rest)).map
        (s.tokens p (c :: cs.take s.more) ++ ·) := by
  rw [scan_of_step h, List.take_append_of_le_length hmore, List.drop_append_of_le_length hmore]

/-- A scan comes to an end only if its steps do. -/
theorem exists_step_of_scan {region : Region} {p : Position} {ts : List Token}
    (h : scan region p (c :: cs) = .ok ts) :
    ∃ s ts', step region c cs = .ok s ∧
      scan s.next (p.after (c :: cs.take s.more)) (cs.drop s.more) = .ok ts' ∧
        ts = s.tokens p (c :: cs.take s.more) ++ ts' := by
  cases hs : step region c cs with
  | error fault =>
    rw [scan, hs] at h
    cases h
  | ok s =>
    rw [scan_of_step hs] at h
    cases hrest : scan s.next (p.after (c :: cs.take s.more)) (cs.drop s.more) with
    | error e =>
      rw [hrest] at h
      cases h
    | ok ts' =>
      rw [hrest] at h
      exact ⟨s, ts', rfl, hrest, (Except.ok.inj h).symm⟩

/-- The scanner does not know what its source is called. -/
theorem scan_unnamed {region : Region} {p : Position} {cs : List Char} {ts : List Token}
    (h : scan region p cs = .ok ts) : ∀ t ∈ ts, t.location.sourceName = none := by
  match cs, h with
  | [], h =>
    rw [scan] at h
    cases h
    simp [endAt, Location.ofPosition]
  | c :: cs, h =>
    obtain ⟨s, ts', -, hrest, rfl⟩ := exists_step_of_scan h
    refine List.forall_mem_append.2 ⟨?_, scan_unnamed hrest⟩
    unfold Step.tokens
    cases s.yield <;> simp [Location.ofPosition]
termination_by cs.length

end Token

end Phrasebook
