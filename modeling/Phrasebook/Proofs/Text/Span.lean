import Phrasebook.Proofs.Text.Balanced
import Phrasebook.Token.Scan

namespace Phrasebook

namespace Text

variable {opening closing : Char} {depth : Nat} {cs : List Char}

/-- A span: delimiters around spans of their kind, strings and other characters. -/
def IsSpan (opening closing : Char) (cs : List Char) : Prop :=
  ∃ inside, SpanBody opening closing inside ∧ cs = opening :: (inside ++ [closing])

/-- The first `n` characters of the text are a span on one line. -/
def SpanAtStart (opening closing : Char) (cs : List Char) (n : Nat) : Prop :=
  ∃ span rest, cs = span ++ rest ∧ span.length = n ∧ IsSpan opening closing span ∧
    ∀ c ∈ span, isLineEnd c = false

/-- The end of a span with `depth` more around it: all of them are closed one after the other. -/
inductive Closes (opening closing : Char) : (depth : Nat) → List Char → Prop where
  | last {inside : List Char} (h : SpanBody opening closing inside) :
      Closes opening closing 0 (inside ++ [closing])
  | more {depth : Nat} {inside cs : List Char} (h : SpanBody opening closing inside)
      (hmore : Closes opening closing depth cs) :
      Closes opening closing (depth + 1) (inside ++ closing :: cs)

/-- What lies between two ends may be enlarged in front. -/
theorem Closes.extend (front : List Char) (h : Closes opening closing depth cs)
    (hfront : ∀ inside, SpanBody opening closing inside →
      SpanBody opening closing (front ++ inside)) :
    Closes opening closing depth (front ++ cs) := by
  cases h with
  | last h =>
    rw [← List.append_assoc]
    exact .last (hfront _ h)
  | more h hmore =>
    rw [← List.append_assoc]
    exact .more (hfront _ h) hmore

/-- The end of a span, read from the place where a string may not have ended yet. -/
inductive Completes (opening closing : Char) (depth : Nat) : Quotation → List Char → Prop where
  | outside {cs : List Char} (h : Closes opening closing depth cs) :
      Completes opening closing depth .outside cs
  | inside {mark : Char} {body cs : List Char} (hbody : StringBody mark body)
      (h : Closes opening closing depth cs) :
      Completes opening closing depth (.inside mark false) (body ++ mark :: cs)
  | escaped {mark c : Char} {body cs : List Char} (hbody : StringBody mark body)
      (h : Closes opening closing depth cs) :
      Completes opening closing depth (.inside mark true) (c :: (body ++ mark :: cs))

/-- One more character in front, unless it is a delimiter outside strings. -/
theorem Completes.cons {q : Quotation} {c : Char}
    (hopening : ¬(q = .outside ∧ c = opening)) (hclosing : ¬(q = .outside ∧ c = closing))
    (h : Completes opening closing depth (q.next c) cs) :
    Completes opening closing depth q (c :: cs) := by
  cases q with
  | outside =>
    have hopening' : c ≠ opening := fun hc => hopening ⟨rfl, hc⟩
    have hclosing' : c ≠ closing := fun hc => hclosing ⟨rfl, hc⟩
    rw [Quotation.next] at h
    by_cases hmark : isQuote c
    · rw [if_pos hmark] at h
      cases h with
      | @inside _ body cs hbody h =>
        -- The string that starts here joins what stands in front of the next end.
        have hextend := h.extend (c :: (body ++ [c])) fun inside hinside => by
          simpa using SpanBody.quoted hmark hbody hinside
        exact .outside (by simpa using hextend)
    · rw [if_neg hmark] at h
      cases h with
      | outside h =>
        exact .outside (h.extend [c] fun inside hinside =>
          .other (by simpa using hmark) hopening' hclosing' hinside)
  | inside mark escaped =>
    cases escaped with
    | true =>
      cases h with
      | inside hbody h => exact .escaped hbody h
    | false =>
      rw [Quotation.next] at h
      by_cases hescape : c = '\\'
      · rw [if_pos hescape] at h
        subst hescape
        cases h with
        | escaped hbody h => exact .inside (.escaped _ hbody) h
      · rw [if_neg hescape] at h
        by_cases hmark : c = mark
        · rw [if_pos hmark] at h
          subst hmark
          cases h with
          | outside h => exact .inside .nil h
        · rw [if_neg hmark] at h
          cases h with
          | inside hbody h => exact .inside (.plain hmark hescape hbody) h

/-- What the scan takes for the end of a span is one. -/
theorem closingAfter_sound {q : Quotation} {n : Nat}
    (h : closingAfter opening closing depth q cs = some n) :
    ∃ taken rest, cs = taken ++ rest ∧ taken.length = n ∧
      (∀ c ∈ taken, isLineEnd c = false) ∧ Completes opening closing depth q taken := by
  fun_induction closingAfter opening closing depth q cs generalizing n with
  | case1 => cases h
  | case2 => cases h
  | case3 depth q c cs hline hopens ih =>
    obtain ⟨m, hm, rfl⟩ := Option.map_eq_some_iff.1 h
    obtain ⟨taken, rest, rfl, rfl, htaken, hcompletes⟩ := ih hm
    obtain ⟨rfl, rfl⟩ := hopens
    refine ⟨c :: taken, rest, rfl, rfl, List.forall_mem_cons.2 ⟨by simpa using hline, htaken⟩, ?_⟩
    cases hcompletes with
    | outside hcloses =>
      cases hcloses with
      | @more _ inside cs hinside hmore =>
        -- The span that starts here joins what stands in front of the next end.
        have hextend := hmore.extend (c :: (inside ++ [closing])) fun body hbody => by
          simpa using SpanBody.span hinside hbody
        exact .outside (by simpa using hextend)
  | case4 q c cs hline hopens hcloses =>
    cases h
    obtain ⟨rfl, rfl⟩ := hcloses
    exact ⟨[c], cs, rfl, rfl, by simpa using hline, .outside (.last .nil)⟩
  | case5 q c cs hline hopens hcloses depth ih =>
    obtain ⟨m, hm, rfl⟩ := Option.map_eq_some_iff.1 h
    obtain ⟨taken, rest, rfl, rfl, htaken, hcompletes⟩ := ih hm
    obtain ⟨rfl, rfl⟩ := hcloses
    refine ⟨c :: taken, rest, rfl, rfl, List.forall_mem_cons.2 ⟨by simpa using hline, htaken⟩, ?_⟩
    cases hcompletes with
    | outside hmore => exact .outside (.more .nil hmore)
  | case6 depth q c cs hline hopens hcloses ih =>
    obtain ⟨m, hm, rfl⟩ := Option.map_eq_some_iff.1 h
    obtain ⟨taken, rest, rfl, rfl, htaken, hcompletes⟩ := ih hm
    exact ⟨c :: taken, rest, rfl, rfl, List.forall_mem_cons.2 ⟨by simpa using hline, htaken⟩,
      hcompletes.cons hopens hcloses⟩

theorem balancedLength_eq_some_iff (hpair : (opening, closing) ∈ pairs) {n : Nat} :
    balancedLength opening closing cs = some n ↔ SpanAtStart opening closing cs n := by
  constructor
  · intro h
    obtain _ | ⟨c, cs⟩ := cs
    · cases h
    rw [balancedLength] at h
    split at h
    · rename_i hc
      subst hc
      obtain ⟨m, hm, rfl⟩ := Option.map_eq_some_iff.1 h
      obtain ⟨taken, rest, rfl, rfl, htaken, hcompletes⟩ := closingAfter_sound hm
      obtain ⟨⟨hinside⟩⟩ := hcompletes
      have hopenEnd := (bracket_of_pairs hpair).1.2.2
      exact ⟨_, rest, rfl, rfl, ⟨_, hinside, rfl⟩, List.forall_mem_cons.2 ⟨hopenEnd, htaken⟩⟩
    · cases h
  · rintro ⟨_, rest, rfl, rfl, ⟨inside, hinside, rfl⟩, hline⟩
    obtain ⟨-, -, -, -, hcloseEnd⟩ := bracket_of_pairs hpair
    have hne := (eq_or_ne_of_pairs hpair hpair).2.1
    rw [List.forall_mem_cons, List.forall_mem_append] at hline
    rw [List.cons_append, balancedLength, if_pos rfl, List.append_assoc,
      hinside.closingAfter hpair hline.2.1, List.singleton_append, closingAfter_end hcloseEnd hne]
    simp [Nat.add_comm]

end Text

namespace Token

open Text (SpanAtStart balancedLength balancedLength_eq_some_iff)

/-- The spans that are taken whole in a template line: their delimiters, and what they become. -/
def spanKinds : List (Char × Char × TokenKind) :=
  [('{', '}', .expression), ('[', ']', .reference)]

variable {opening closing : Char} {kind : TokenKind}

theorem mem_pairs_of_spanKinds (h : (opening, closing, kind) ∈ spanKinds) :
    (opening, closing) ∈ Text.pairs := by
  simp only [spanKinds, List.mem_cons, Prod.mk.injEq, List.not_mem_nil, or_false] at h
  rcases h with ⟨rfl, rfl, -⟩ | ⟨rfl, rfl, -⟩ <;> decide

/-- A line goes on behind the balanced span at its delimiter. -/
theorem stepContent_of_spanKinds (h : (opening, closing, kind) ∈ spanKinds) (cs : List Char) :
    stepContent opening cs =
      wholeSpan kind ((balancedLength opening closing (opening :: cs)).map (· - 1)) := by
  rw [balancedLength, if_pos rfl, Option.map_map]
  have hid : ((· - 1) ∘ (· + 1) : Nat → Nat) = id := rfl
  rw [hid, Option.map_id]
  simp only [spanKinds, List.mem_cons, Prod.mk.injEq, List.not_mem_nil, or_false] at h
  rcases h with ⟨rfl, rfl, rfl⟩ | ⟨rfl, rfl, rfl⟩ <;> rfl

/-- The scanner takes exactly the spans of the grammar: the length it finds is that of a span at the
start of the text, there is no span of another length, and where it finds none there is none. -/
theorem spans_recognised (h : (opening, closing, kind) ∈ spanKinds) (cs : List Char) :
    (∀ n, balancedLength opening closing (opening :: cs) = some n ↔
      SpanAtStart opening closing (opening :: cs) n) ∧
    (∀ m n, SpanAtStart opening closing (opening :: cs) m →
      SpanAtStart opening closing (opening :: cs) n → m = n) ∧
    (balancedLength opening closing (opening :: cs) = none ↔
      ∀ n, ¬SpanAtStart opening closing (opening :: cs) n) ∧
    stepContent opening cs =
      wholeSpan kind ((balancedLength opening closing (opening :: cs)).map (· - 1)) := by
  have hpair := mem_pairs_of_spanKinds h
  refine ⟨fun n => balancedLength_eq_some_iff hpair, fun m n hm hn => ?_, ?_,
    stepContent_of_spanKinds h cs⟩
  · rw [← balancedLength_eq_some_iff hpair] at hm hn
    exact Option.some.inj (hm.symm.trans hn)
  · simp only [← balancedLength_eq_some_iff hpair, Option.eq_none_iff_forall_ne_some, ne_eq]

/-- A brace and an escaped quote inside a string do not count, and a bracket is as any character. -/
theorem spans_recognised_in_strings :
    ('{', '}', TokenKind.expression) ∈ spanKinds ∧
    balancedLength '{' '}' "\x7b'\x7d\\'' \x7b]\x7d\x7d tail".toList = some 11 ∧
    SpanAtStart '{' '}' "\x7b'\x7d\\'' \x7b]\x7d\x7d tail".toList 11 := by
  have hkind : ('{', '}', TokenKind.expression) ∈ spanKinds := by simp [spanKinds]
  have hlength : balancedLength '{' '}' "\x7b'\x7d\\'' \x7b]\x7d\x7d tail".toList = some 11 := by
    decide +kernel
  exact ⟨hkind, hlength, ((spans_recognised hkind _).1 _).1 hlength⟩

end Token

end Phrasebook
