import Phrasebook.Proofs.Expression.Words

namespace Phrasebook.Expr

def startsPrimary (c : Char) : Bool :=
  c.isDigit || Text.isQuote c || c = '[' || c = '(' || startsName c

theorem ne_of_startsPrimary {c d : Char} (h : startsPrimary c) (hd : startsPrimary d = false) :
    c ≠ d := by
  rintro rfl
  rw [hd] at h
  contradiction

theorem isDigit_of_startsName {c : Char} (h : startsName c) : c.isDigit = false := by
  rw [Bool.eq_false_iff]
  intro hdigit
  delta startsName Char.isAlpha Char.isUpper Char.isLower at h
  simp only [Bool.or_eq_true, Bool.and_eq_true, decide_eq_true_eq] at h
  simp only [Char.isDigit, Bool.and_eq_true, decide_eq_true_eq] at hdigit
  rcases h with (h | h) | rfl
  · grind
  · grind
  · contradiction

theorem isGap_eq_false {c : Char} (h : startsPrimary c) : Text.isGap c = false := by
  have hblank : c ≠ ' ' := ne_of_startsPrimary h (by decide)
  have htab : c ≠ '\t' := ne_of_startsPrimary h (by decide)
  have hfeed : c ≠ '\n' := ne_of_startsPrimary h (by decide)
  have hreturn : c ≠ '\r' := ne_of_startsPrimary h (by decide)
  simp [Text.isGap, Text.isBlank, Text.isLineEnd, hblank, htab, hfeed, hreturn]

theorem starts_of_isName {name : String} (h : IsName name) :
    ∃ c cs, name.toList = c :: cs ∧ startsPrimary c := by
  obtain ⟨c, cs, hname, hc, -⟩ := h
  exact ⟨c, cs, hname, by simp [startsPrimary, hc]⟩

theorem starts_of_denotes {w : Word} {v : Value} {cs : List Char} (h : w.Denotes v)
    (hcs : w.Spelling cs) : ∃ c rest, cs = c :: rest ∧ startsPrimary c := by
  have hdigit : ∀ {digits : List Char}, digits ≠ [] → (∀ c ∈ digits, c.isDigit) →
      ∃ c rest, digits = c :: rest ∧ startsPrimary c := by
    intro digits hne hdigits
    obtain ⟨c, rest, rfl⟩ := List.exists_cons_of_ne_nil hne
    have hc : c.isDigit := hdigits c List.mem_cons_self
    exact ⟨c, rest, rfl, by simp [startsPrimary, hc]⟩
  cases hcs with
  | name name =>
    have hword : ∀ {c : Char} {cs : List Char}, name.toList = c :: cs → startsPrimary c →
        ∃ c rest, name.toList = c :: rest ∧ startsPrimary c :=
      fun hname hc => ⟨_, _, hname, hc⟩
    cases h
    · exact hword rfl (by decide)
    · exact hword rfl (by decide)
    · exact hword rfl (by decide)
  | number hne hdigits => exact hdigit hne hdigits
  | decimal whole fraction =>
    cases h with
    | decimal hwhole hfraction hdigits =>
      obtain ⟨c, rest, rfl, hc⟩ := hdigit hwhole (List.forall_mem_append.1 hdigits).1
      exact ⟨c, _, rfl, hc⟩
  | text hmark _ => exact ⟨_, _, rfl, by simp [startsPrimary, hmark]⟩
  | symbol symbol => cases h

/-- Every expression begins with a primary or a sign; without signs to admit, with a primary. -/
def StartsAt (bound : Nat) (c : Char) : Prop := startsPrimary c ∨ bound ≠ 0 ∧ (c = '-' ∨ c = '!')

theorem isGap_eq_false_of_startsAt {bound : Nat} {c : Char} (h : StartsAt bound c) :
    Text.isGap c = false := by
  rcases h with h | ⟨-, rfl | rfl⟩
  · exact isGap_eq_false h
  · rfl
  · rfl

theorem Derives.first {bound : Nat} {e : Expr} {ws : List Word} (h : Derives bound e ws) :
    ∃ w more, ws = w :: more ∧
      ∀ used, w.Spelling used → ∃ c rest, used = c :: rest ∧ StartsAt bound c := by
  induction h with
  | literal hw =>
    refine ⟨_, [], rfl, fun used hused => ?_⟩
    obtain ⟨c, rest, hcs, hc⟩ := starts_of_denotes hw hused
    exact ⟨c, rest, hcs, .inl hc⟩
  | identifier hname | call hname =>
    refine ⟨_, _, rfl, fun used hused => ?_⟩
    cases hused
    obtain ⟨c, rest, hcs, hc⟩ := starts_of_isName hname
    exact ⟨c, rest, hcs, .inl hc⟩
  | list | bracketed =>
    refine ⟨_, _, rfl, fun used hused => ?_⟩
    cases hused
    exact ⟨_, _, rfl, .inl (by decide)⟩
  | member _ _ ih | index _ _ ih =>
    obtain ⟨w, more, rfl, hw⟩ := ih
    exact ⟨w, _, rfl, hw⟩
  | binary op _ _ ih =>
    obtain ⟨w, more, rfl, hw⟩ := ih
    exact ⟨w, _, rfl, hw⟩
  | unary op =>
    refine ⟨_, _, rfl, fun used hused => ?_⟩
    cases hused
    cases op with
    | not => exact ⟨'!', [], rfl, .inr ⟨Nat.one_ne_zero, .inr rfl⟩⟩
    | negate => exact ⟨'-', [], rfl, .inr ⟨Nat.one_ne_zero, .inl rfl⟩⟩
  | loosen _ ih =>
    obtain ⟨w, more, rfl, hw⟩ := ih
    refine ⟨w, more, rfl, fun used hused => ?_⟩
    obtain ⟨c, rest, hcs, hc⟩ := hw used hused
    refine ⟨c, rest, hcs, ?_⟩
    rcases hc with hc | ⟨-, hc⟩
    · exact .inl hc
    · exact .inr ⟨Nat.succ_ne_zero _, hc⟩

theorem Derives.ne_nil {bound : Nat} {e : Expr} {ws : List Word} (h : Derives bound e ws) :
    ws ≠ [] := by
  obtain ⟨w, more, rfl, -⟩ := h.first
  exact List.cons_ne_nil w more

/-- The gap in front of an expression can be left out. -/
theorem Derives.starts {bound : Nat} {e : Expr} {ws : List Word} {cs : List Char}
    (h : Derives bound e ws) (hcs : Word.Written ws cs) :
    ∃ gap c rest, cs = gap ++ c :: rest ∧ (∀ c ∈ gap, Text.isGap c) ∧ StartsAt bound c ∧
      Word.Written ws (c :: rest) := by
  obtain ⟨w, more, rfl, hw⟩ := h.first
  obtain ⟨gap, used, rest, rfl, hgap, hspelling, hrest⟩ := Word.written_cons.1 hcs
  obtain ⟨c, tail, rfl, hc⟩ := hw used hspelling
  refine ⟨gap, c, tail ++ rest, rfl, hgap, hc, ?_⟩
  exact Word.written_cons.2 ⟨[], c :: tail, rest, rfl, by simp, hspelling, hrest⟩

/-- So no operator in front of an expression goes on with it. -/
theorem Derives.head_ne {bound : Nat} {e : Expr} {ws : List Word} {cs : List Char}
    (h : Derives bound e ws) (hcs : Word.Written ws cs) (rest : List Char) :
    (cs ++ rest).head? ≠ some '=' := by
  obtain ⟨gap, c, more, rfl, hgap, hc, -⟩ := h.starts hcs
  intro hhead
  cases gap with
  | nil =>
    obtain rfl : c = '=' := by simpa using hhead
    rcases hc with hc | ⟨-, hc⟩
    · exact absurd hc (by decide)
    · exact absurd hc (by decide)
  | cons g gap =>
    obtain rfl : g = '=' := by simpa using hhead
    have hgapEquals : Text.isGap '=' := hgap '=' List.mem_cons_self
    contradiction

/-- What stands after an expression whose operators are of this level or tighter: the end of the
text, a closing bracket or a comma, or an operator that binds more loosely. -/
def Follows (level : Nat) (rest : List Char) : Prop :=
  skipGaps rest = [] ∨ (∃ c cs, skipGaps rest = c :: cs ∧ c ∈ [')', ']', ',']) ∨
    ∃ op cs, operator? (skipGaps rest) = some (op, cs) ∧ level < op.level

/-- The characters that what stands after an expression begins with. -/
def followers : List Char :=
  [')', ']', ',', '*', '/', '%', '+', '-', '<', '>', '=', '!', '&', '|']

theorem of_mem_followers {c : Char} (h : c ∈ followers) :
    continuesName c = false ∧ Text.isGap c = false ∧ c ≠ '(' ∧ c ≠ '.' ∧ c ≠ '[' := by
  simp only [followers, List.mem_cons, List.not_mem_nil, or_false] at h
  rcases h with rfl | rfl | rfl | rfl | rfl | rfl | rfl | rfl | rfl | rfl | rfl | rfl | rfl | rfl <;>
    decide

theorem mem_followers_of_operator? {op : BinaryOp} {cs rest : List Char}
    (h : operator? cs = some (op, rest)) : ∀ c ∈ cs.head?, c ∈ followers := by
  rw [of_operator? h]
  cases op <;> simp [BinaryOp.symbol, followers]

section

variable {level : Nat} {rest gap cs : List Char}

theorem Follows.mem_followers (h : Follows level rest) :
    ∀ c ∈ (skipGaps rest).head?, c ∈ followers := by
  rcases h with hend | ⟨c, cs, hclose, hc⟩ | ⟨op, cs, hop, -⟩
  · simp [hend]
  · rw [hclose]
    simp only [List.head?_cons, Option.mem_some_iff, forall_eq']
    exact List.mem_append_left _ hc
  · exact mem_followers_of_operator? hop

theorem Follows.operatorAt? (h : Follows level rest) {tighter : Nat} (hle : tighter ≤ level) :
    operatorAt? tighter (skipGaps rest) = none := by
  rcases h with hend | ⟨c, cs, hclose, hc⟩ | ⟨op, cs, hop, hlevel⟩
  · rw [hend]
    rfl
  · rw [hclose]
    simp only [List.mem_cons, List.not_mem_nil, or_false] at hc
    rcases hc with rfl | rfl | rfl <;> rfl
  · have hne : op.level ≠ tighter := by omega
    simp [Expr.operatorAt?, hop, hne]

theorem Follows.mono (h : Follows level rest) {tighter : Nat} (hle : tighter ≤ level) :
    Follows tighter rest := by
  rcases h with hend | hclose | ⟨op, cs, hop, hlevel⟩
  · exact .inl hend
  · exact .inr (.inl hclose)
  · exact .inr (.inr ⟨op, cs, hop, by omega⟩)

theorem continuesName_of_isGap {c : Char} (h : Text.isGap c) : continuesName c = false := by
  simp only [Text.isGap, Text.isBlank, Text.isLineEnd, Bool.or_eq_true, decide_eq_true_eq] at h
  rcases h with (rfl | rfl) | (rfl | rfl) <;> rfl

/-- After a gap a word ends whatever comes next. -/
theorem stops_append (hgap : ∀ c ∈ gap, Text.isGap c)
    (hnext : ∀ c ∈ cs.head?, continuesName c = false ∧ Text.isGap c = false ∧ c ≠ '(')
    (hfraction : ∀ c rest, cs = '.' :: c :: rest → c.isDigit = false) : Stops (gap ++ cs) where
  name := by
    intro c hc
    cases gap with
    | nil => exact (hnext c hc).1
    | cons g gap =>
      obtain rfl : g = c := by simpa using hc
      exact continuesName_of_isGap (hgap g List.mem_cons_self)
  fraction := by
    intro c rest hcs
    cases gap with
    | nil => exact hfraction c rest hcs
    | cons g gap =>
      obtain ⟨rfl, -⟩ := List.cons.inj hcs
      have hpoint : Text.isGap '.' := hgap '.' List.mem_cons_self
      contradiction
  call := by
    rw [skipGaps_append hgap]
    cases cs with
    | nil => simp [skipGaps]
    | cons c cs =>
      obtain ⟨-, hc, hne⟩ := hnext c rfl
      rw [skipGaps_cons hc]
      simpa using hne

theorem Follows.stops (h : Follows level rest) : Stops rest := by
  obtain ⟨gap, hgap, hrest⟩ := exists_gap rest
  rw [hrest]
  refine stops_append hgap ?_ ?_
  · intro c hc
    obtain ⟨hname, hgap, hcall, -⟩ := of_mem_followers (h.mem_followers c hc)
    exact ⟨hname, hgap, hcall⟩
  · intro c cs hcs
    have hpoint : '.' ∈ followers := h.mem_followers '.' (by rw [hcs]; rfl)
    obtain ⟨-, -, -, hne, -⟩ := of_mem_followers hpoint
    contradiction

theorem follows_end (hgap : ∀ c ∈ gap, Text.isGap c) : Follows level gap :=
  .inl (skipGaps_gap hgap)

theorem skipGaps_close (hgap : ∀ c ∈ gap, Text.isGap c) {c : Char} (hc : c ∈ [')', ']', ','])
    (rest : List Char) : skipGaps (gap ++ c :: rest) = c :: rest := by
  have hnext : Text.isGap c = false := (of_mem_followers (List.mem_append_left _ hc)).2.1
  rw [skipGaps_append hgap, skipGaps_cons hnext]

theorem follows_close (hgap : ∀ c ∈ gap, Text.isGap c) {c : Char} (hc : c ∈ [')', ']', ','])
    (rest : List Char) : Follows level (gap ++ c :: rest) :=
  .inr (.inl ⟨c, rest, skipGaps_close hgap hc rest, hc⟩)

theorem skipGaps_operator (hgap : ∀ c ∈ gap, Text.isGap c) (op : BinaryOp) (rest : List Char) :
    skipGaps (gap ++ (op.symbol.toList ++ rest)) = op.symbol.toList ++ rest := by
  rw [skipGaps_append hgap]
  cases op <;> rfl

theorem follows_operator (hgap : ∀ c ∈ gap, Text.isGap c) {op : BinaryOp}
    (hlevel : level < op.level) (hrest : rest.head? ≠ some '=') :
    Follows level (gap ++ (op.symbol.toList ++ rest)) := by
  refine .inr (.inr ⟨op, rest, ?_, hlevel⟩)
  rw [skipGaps_operator hgap, operator?_symbol op hrest]

end

end Phrasebook.Expr
