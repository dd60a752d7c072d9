import Phrasebook.Text.Nesting

namespace Phrasebook.Text

/-- What stands between the marks of a string: a backslash takes the character behind it along. -/
inductive StringBody (mark : Char) : List Char → Prop where
  | nil : StringBody mark []
  | plain {c : Char} {cs : List Char} (hmark : c ≠ mark) (hescape : c ≠ '\\')
      (h : StringBody mark cs) : StringBody mark (c :: cs)
  | escaped (c : Char) {cs : List Char} (h : StringBody mark cs) : StringBody mark ('\\' :: c :: cs)

/-- The brackets that close each other. -/
def pairs : List (Char × Char) := [('(', ')'), ('[', ']'), ('\x7b', '\x7d')]

/-- Every bracket outside strings is closed by its own, and every string ends; the flag tells
whether commas may stand outside all brackets. -/
inductive Balanced : (commas : Bool) → List Char → Prop where
  | nil {commas : Bool} : Balanced commas []
  | plain {commas : Bool} {c : Char} {cs : List Char} (hmark : isNestingMark c = false)
      (hcomma : c = ',' → commas) (h : Balanced commas cs) : Balanced commas (c :: cs)
  | quoted {commas : Bool} {mark : Char} {body cs : List Char} (hmark : isQuote mark)
      (hbody : StringBody mark body) (h : Balanced commas cs) :
      Balanced commas (mark :: (body ++ mark :: cs))
  | enclosed {commas : Bool} {opening closing : Char} {inside cs : List Char}
      (hpair : (opening, closing) ∈ pairs) (hinside : Balanced true inside)
      (h : Balanced commas cs) : Balanced commas (opening :: (inside ++ closing :: cs))

/-- What stands between the delimiters of a span: spans of the same kind, strings, and characters
that are neither a delimiter nor a quote. -/
inductive SpanBody (opening closing : Char) : List Char → Prop where
  | nil : SpanBody opening closing []
  | other {c : Char} {cs : List Char} (hmark : isQuote c = false) (hopening : c ≠ opening)
      (hclosing : c ≠ closing) (h : SpanBody opening closing cs) : SpanBody opening closing (c :: cs)
  | quoted {mark : Char} {body cs : List Char} (hmark : isQuote mark)
      (hbody : StringBody mark body) (h : SpanBody opening closing cs) :
      SpanBody opening closing (mark :: (body ++ mark :: cs))
  | span {inside cs : List Char} (hinside : SpanBody opening closing inside)
      (h : SpanBody opening closing cs) :
      SpanBody opening closing (opening :: (inside ++ closing :: cs))

section

variable {commas : Bool} {cs cs' : List Char}

theorem Balanced.append (h : Balanced commas cs) (h' : Balanced commas cs') :
    Balanced commas (cs ++ cs') := by
  induction h with
  | nil => exact h'
  | plain hmark hcomma _ ih => exact .plain hmark hcomma (ih h')
  | quoted hmark hbody _ ih =>
    rw [List.cons_append, List.append_assoc]
    exact .quoted hmark hbody (ih h')
  | enclosed hpair hinside _ _ ih =>
    rw [List.cons_append, List.append_assoc]
    exact .enclosed hpair hinside (ih h')

theorem Balanced.with_commas (h : Balanced commas cs) : Balanced true cs := by
  induction h with
  | nil => exact .nil
  | plain hmark _ _ ih => exact .plain hmark (fun _ => rfl) ih
  | quoted hmark hbody _ ih => exact .quoted hmark hbody ih
  | enclosed hpair hinside _ _ ih => exact .enclosed hpair hinside ih

theorem balanced_of_plain (h : ∀ c ∈ cs, isNestingMark c = false ∧ c ≠ ',') :
    Balanced commas cs := by
  induction cs with
  | nil => exact .nil
  | cons c cs ih =>
    rw [List.forall_mem_cons] at h
    obtain ⟨⟨hmark, hcomma⟩, h⟩ := h
    exact .plain hmark (fun hc => absurd hc hcomma) (ih h)

theorem balanced_of_all (h : cs.all (fun c => !isNestingMark c && c != ',') = true) :
    Balanced commas cs := by
  refine balanced_of_plain fun c hc => ?_
  simpa using List.all_eq_true.1 h c hc

/-- A comma between balanced texts may stand where commas may. -/
theorem balanced_comma (h : Balanced true cs) : Balanced true (',' :: cs) :=
  .plain rfl (fun _ => rfl) h

end

theorem eq_or_ne_of_pairs {opening closing opening' closing' : Char}
    (h : (opening, closing) ∈ pairs) (h' : (opening', closing') ∈ pairs) :
    opening' ≠ closing ∧ closing' ≠ opening ∧
      (opening' = opening ∧ closing' = closing ∨ opening' ≠ opening ∧ closing' ≠ closing) := by
  simp only [pairs, List.mem_cons, Prod.mk.injEq, List.not_mem_nil, or_false] at h h'
  rcases h with ⟨rfl, rfl⟩ | ⟨rfl, rfl⟩ | ⟨rfl, rfl⟩ <;>
    rcases h' with ⟨rfl, rfl⟩ | ⟨rfl, rfl⟩ | ⟨rfl, rfl⟩ <;> decide

theorem bracket_of_pairs {opening closing : Char} (h : (opening, closing) ∈ pairs) :
    (isOpener opening ∧ isQuote opening = false ∧ isLineEnd opening = false) ∧
      isCloser closing ∧ isOpener closing = false ∧ isQuote closing = false ∧
        isLineEnd closing = false := by
  simp only [pairs, List.mem_cons, Prod.mk.injEq, List.not_mem_nil, or_false] at h
  rcases h with ⟨rfl, rfl⟩ | ⟨rfl, rfl⟩ | ⟨rfl, rfl⟩ <;> decide

theorem not_bracket_of_isQuote {mark : Char} (h : isQuote mark) :
    isOpener mark = false ∧ isCloser mark = false ∧ isLineEnd mark = false ∧ mark ≠ '\\' := by
  simp only [isQuote, Bool.or_eq_true, decide_eq_true_eq] at h
  rcases h with rfl | rfl <;> decide

theorem ne_of_class {p : Char → Bool} {c d : Char} (hc : p c = false) (hd : p d = true) :
    c ≠ d := by
  rintro rfl
  rw [hc] at hd
  contradiction

section

variable {opening closing : Char} {depth : Nat} {cs rest : List Char}

theorem closingAfter_cons {q : Quotation} {c : Char} (hend : isLineEnd c = false)
    (hopening : ¬(q = .outside ∧ c = opening)) (hclosing : ¬(q = .outside ∧ c = closing)) :
    closingAfter opening closing depth q (c :: cs) =
      (closingAfter opening closing depth (q.next c) cs).map (· + 1) := by
  rw [closingAfter.eq_def]
  dsimp only
  rw [if_neg (by simp [hend]), if_neg hopening, if_neg hclosing]

theorem closingAfter_inside {mark c : Char} {escaped : Bool} (hend : isLineEnd c = false) :
    closingAfter opening closing depth (.inside mark escaped) (c :: cs) =
      (closingAfter opening closing depth ((Quotation.inside mark escaped).next c) cs).map
        (· + 1) :=
  closingAfter_cons hend (by simp) (by simp)

theorem closingAfter_outside {c : Char} (hend : isLineEnd c = false) (hopening : c ≠ opening)
    (hclosing : c ≠ closing) :
    closingAfter opening closing depth .outside (c :: cs) =
      (closingAfter opening closing depth (Quotation.outside.next c) cs).map (· + 1) :=
  closingAfter_cons hend (by simp [hopening]) (by simp [hclosing])

theorem closingAfter_opening (hend : isLineEnd opening = false) :
    closingAfter opening closing depth .outside (opening :: cs) =
      (closingAfter opening closing (depth + 1) .outside cs).map (· + 1) := by
  rw [closingAfter.eq_def]
  dsimp only
  rw [if_neg (by simp [hend]), if_pos ⟨rfl, rfl⟩]

theorem closingAfter_closing (hend : isLineEnd closing = false) (hne : closing ≠ opening) :
    closingAfter opening closing (depth + 1) .outside (closing :: cs) =
      (closingAfter opening closing depth .outside cs).map (· + 1) := by
  rw [closingAfter, if_neg (by simp [hend]), if_neg (by simp [hne]), if_pos ⟨rfl, rfl⟩]

theorem closingAfter_end (hend : isLineEnd closing = false) (hne : closing ≠ opening) :
    closingAfter opening closing 0 .outside (closing :: cs) = some 1 := by
  rw [closingAfter, if_neg (by simp [hend]), if_neg (by simp [hne]), if_pos ⟨rfl, rfl⟩]

/-- What closes a span closes it whatever stands behind. -/
theorem closingAfter_append {q : Quotation} {n : Nat}
    (h : closingAfter opening closing depth q cs = some n) :
    closingAfter opening closing depth q (cs ++ rest) = some n := by
  fun_induction closingAfter opening closing depth q cs generalizing n with
  | case1 => cases h
  | case2 => cases h
  | case3 depth q c cs hline hopens ih =>
    obtain ⟨m, hm, rfl⟩ := Option.map_eq_some_iff.1 h
    rw [List.cons_append, closingAfter.eq_def]
    dsimp only
    rw [if_neg hline, if_pos hopens, ih hm]
    rfl
  | case4 q c cs hline hopens hcloses =>
    rw [List.cons_append, closingAfter, if_neg hline, if_neg hopens, if_pos hcloses, h]
  | case5 q c cs hline hopens hcloses depth ih =>
    obtain ⟨m, hm, rfl⟩ := Option.map_eq_some_iff.1 h
    rw [List.cons_append, closingAfter, if_neg hline, if_neg hopens, if_pos hcloses, ih hm]
    rfl
  | case6 depth q c cs hline hopens hcloses ih =>
    obtain ⟨m, hm, rfl⟩ := Option.map_eq_some_iff.1 h
    rw [List.cons_append, closingAfter.eq_def]
    dsimp only
    rw [if_neg hline, if_neg hopens, if_neg hcloses, ih hm]
    rfl

theorem map_add_map_add (o : Option Nat) (m n : Nat) :
    (o.map (· + m)).map (· + n) = o.map (· + (m + n)) := by
  rw [Option.map_map]
  congr 1
  funext k
  exact Nat.add_assoc k m n

theorem map_add_eq (o : Option Nat) {m n : Nat} (h : m = n) : o.map (· + m) = o.map (· + n) := by
  rw [h]

theorem StringBody.closingAfter {mark : Char} {body : List Char} (hmark : isQuote mark)
    (h : StringBody mark body) (hline : ∀ c ∈ body, isLineEnd c = false) :
    closingAfter opening closing depth (.inside mark false) (body ++ mark :: rest) =
      (Text.closingAfter opening closing depth .outside rest).map (· + (body.length + 1)) := by
  obtain ⟨-, -, hend, hslash⟩ := not_bracket_of_isQuote hmark
  induction h with
  | nil =>
    have hnext : (Quotation.inside mark false).next mark = .outside := by
      simp [Quotation.next, hslash]
    rw [List.nil_append, closingAfter_inside hend, hnext]
    rfl
  | @plain c cs hne hescape _ ih =>
    rw [List.forall_mem_cons] at hline
    have hnext : (Quotation.inside mark false).next c = .inside mark false := by
      simp [Quotation.next, hne, hescape]
    rw [List.cons_append, closingAfter_inside hline.1, hnext, ih hline.2, map_add_map_add]
    rfl
  | @escaped c cs _ ih =>
    rw [List.forall_mem_cons, List.forall_mem_cons] at hline
    rw [List.cons_append, List.cons_append, closingAfter_inside hline.1, Quotation.next,
      if_pos rfl, closingAfter_inside hline.2.1, Quotation.next, ih hline.2.2, map_add_map_add,
      map_add_map_add]
    rfl

theorem SpanBody.append {cs' : List Char} (h : SpanBody opening closing cs)
    (h' : SpanBody opening closing cs') : SpanBody opening closing (cs ++ cs') := by
  induction h with
  | nil => exact h'
  | other hmark hopening hclosing _ ih => exact .other hmark hopening hclosing ih
  | quoted hmark hbody _ ih =>
    rw [List.cons_append, List.append_assoc]
    exact .quoted hmark hbody ih
  | span hinside _ _ ih =>
    rw [List.cons_append, List.append_assoc]
    exact .span hinside ih

/-- The scan for the end of a span passes over what may stand in it as over one piece. -/
theorem SpanBody.closingAfter (hpair : (opening, closing) ∈ pairs)
    (h : SpanBody opening closing cs) (hline : ∀ c ∈ cs, isLineEnd c = false) :
    closingAfter opening closing depth .outside (cs ++ rest) =
      (Text.closingAfter opening closing depth .outside rest).map (· + cs.length) := by
  obtain ⟨⟨hopener, -, hopenEnd⟩, hcloser, -, -, hcloseEnd⟩ := bracket_of_pairs hpair
  have hne := (eq_or_ne_of_pairs hpair hpair).2.1
  induction h generalizing depth rest with
  | nil => simp
  | @other c cs hmark hopening hclosing _ ih =>
    rw [List.forall_mem_cons] at hline
    have hnext : Quotation.outside.next c = .outside := by simp [Quotation.next, hmark]
    rw [List.cons_append, closingAfter_outside hline.1 hopening hclosing, hnext, ih hline.2,
      map_add_map_add]
    rfl
  | @quoted mark body cs hmark hbody _ ih =>
    obtain ⟨hnotOpener, hnotCloser, hend, -⟩ := not_bracket_of_isQuote hmark
    rw [List.forall_mem_cons, List.forall_mem_append, List.forall_mem_cons] at hline
    obtain ⟨-, hbodyLine, -, hcsLine⟩ := hline
    have hnext : Quotation.outside.next mark = .inside mark false := by
      simp [Quotation.next, hmark]
    rw [List.cons_append, List.append_assoc, List.cons_append,
      closingAfter_outside hend (ne_of_class hnotOpener hopener) (ne_of_class hnotCloser hcloser),
      hnext, hbody.closingAfter hmark hbodyLine, ih hcsLine, map_add_map_add, map_add_map_add]
    apply map_add_eq
    simp only [List.length_cons, List.length_append]
    omega
  | @span inside cs _ _ ihinside ih =>
    rw [List.forall_mem_cons, List.forall_mem_append, List.forall_mem_cons] at hline
    obtain ⟨-, hinsideLine, -, hcsLine⟩ := hline
    rw [List.cons_append, List.append_assoc, List.cons_append, closingAfter_opening hopenEnd,
      ihinside hinsideLine, closingAfter_closing hcloseEnd hne, ih hcsLine, map_add_map_add,
      map_add_map_add, map_add_map_add]
    apply map_add_eq
    simp only [List.length_cons, List.length_append]
    omega

/-- To a span the brackets of the other kinds are characters as any. -/
theorem Balanced.spanBody {commas : Bool} (hpair : (opening, closing) ∈ pairs)
    (h : Balanced commas cs) : SpanBody opening closing cs := by
  obtain ⟨⟨hopener, -, -⟩, hcloser, -, -, -⟩ := bracket_of_pairs hpair
  induction h with
  | nil => exact .nil
  | plain hmark _ _ ih =>
    simp only [isNestingMark, Bool.or_eq_false_iff] at hmark
    exact .other hmark.1.1 (ne_of_class hmark.1.2 hopener) (ne_of_class hmark.2 hcloser) ih
  | quoted hmark hbody _ ih => exact .quoted hmark hbody ih
  | enclosed hpair' _ _ ihinside ih =>
    obtain ⟨⟨-, hquote, -⟩, -, -, hquote', -⟩ := bracket_of_pairs hpair'
    obtain ⟨hopenClose, hcloseOpen, ⟨rfl, rfl⟩ | ⟨hopening, hclosing⟩⟩ :=
      eq_or_ne_of_pairs hpair hpair'
    · exact .span ihinside ih
    · exact .other hquote hopening hopenClose
        (ihinside.append (.other hquote' hcloseOpen hclosing ih))

/-- A balanced text on one line is all of the span that its brackets open. -/
theorem Balanced.closingAfter_eq {commas : Bool} (hpair : (opening, closing) ∈ pairs)
    (h : Balanced commas cs) (hline : ∀ c ∈ cs, isLineEnd c = false) :
    Text.closingAfter opening closing 0 .outside (cs ++ closing :: rest) =
      some (cs.length + 1) := by
  obtain ⟨-, -, -, -, hcloseEnd⟩ := bracket_of_pairs hpair
  have hne := (eq_or_ne_of_pairs hpair hpair).2.1
  rw [(h.spanBody hpair).closingAfter hpair hline, closingAfter_end hcloseEnd hne, Option.map_some,
    Nat.add_comm]

end

section

variable {s : Nesting} {depth : Nat} {cs rest : List Char}

theorem splitFrom_cons {separator c : Char}
    (h : s = .top → c = separator → isNestingMark c = true) :
    splitFrom separator s (c :: cs) = extendFirst c (splitFrom separator (s.next c) cs) := by
  rw [splitFrom, if_neg]
  rintro ⟨hs, hc, hmark⟩
  rw [h hs hc] at hmark
  contradiction

theorem StringBody.splitFrom {mark : Char} {body : List Char} (hmark : isQuote mark)
    (h : StringBody mark body) :
    splitFrom ',' ⟨depth, .inside mark false⟩ (body ++ mark :: rest) =
      body.foldr extendFirst (extendFirst mark (Text.splitFrom ',' ⟨depth, .outside⟩ rest)) := by
  obtain ⟨-, -, -, hslash⟩ := not_bracket_of_isQuote hmark
  induction h with
  | nil =>
    rw [List.nil_append, splitFrom_cons (by simp [Nesting.top])]
    simp [Nesting.next, Quotation.next, hslash]
  | @plain c cs hne hescape _ ih =>
    have hnext : Nesting.next ⟨depth, .inside mark false⟩ c = ⟨depth, .inside mark false⟩ := by
      simp [Nesting.next, Quotation.next, hne, hescape]
    rw [List.cons_append, splitFrom_cons (by simp [Nesting.top]), hnext, ih]
    rfl
  | @escaped c cs _ ih =>
    have hnext : Nesting.next ⟨depth, .inside mark false⟩ '\\' = ⟨depth, .inside mark true⟩ := rfl
    have hnext' : Nesting.next ⟨depth, .inside mark true⟩ c = ⟨depth, .inside mark false⟩ := rfl
    rw [List.cons_append, List.cons_append, splitFrom_cons (by simp [Nesting.top]), hnext,
      splitFrom_cons (by simp [Nesting.top]), hnext', ih]
    rfl

/-- Where commas do not separate, a balanced text is kept in one piece. -/
theorem Balanced.splitFrom {commas : Bool} (h : Balanced commas cs) (hdepth : commas → 0 < depth) :
    splitFrom ',' ⟨depth, .outside⟩ (cs ++ rest) =
      cs.foldr extendFirst (Text.splitFrom ',' ⟨depth, .outside⟩ rest) := by
  induction h generalizing depth rest with
  | nil => rfl
  | @plain commas c cs hmark hcomma _ ih =>
    have hkept : (⟨depth, .outside⟩ : Nesting) = .top → c = ',' → isNestingMark c = true := by
      intro htop hc
      have hpos := hdepth (hcomma hc)
      have hzero : depth = 0 := congrArg Nesting.depth htop
      omega
    simp only [isNestingMark, Bool.or_eq_false_iff] at hmark
    have hnext : Nesting.next ⟨depth, .outside⟩ c = ⟨depth, .outside⟩ := by
      simp [Nesting.next, Quotation.next, hmark]
    rw [List.cons_append, splitFrom_cons hkept, hnext, ih hdepth]
    rfl
  | @quoted commas mark body cs hmark hbody _ ih =>
    obtain ⟨hopener, hcloser, -, -⟩ := not_bracket_of_isQuote hmark
    have hnext : Nesting.next ⟨depth, .outside⟩ mark = ⟨depth, .inside mark false⟩ := by
      simp [Nesting.next, Quotation.next, hmark, hopener, hcloser]
    rw [List.cons_append, List.append_assoc, List.cons_append,
      splitFrom_cons fun _ _ => by simp [isNestingMark, hmark], hnext, hbody.splitFrom hmark,
      ih hdepth, List.foldr_cons, List.foldr_append, List.foldr_cons]
  | @enclosed commas opening closing inside cs hpair _ _ ihinside ih =>
    obtain ⟨⟨hopener, -, -⟩, hcloser, hnotOpener, -, -⟩ := bracket_of_pairs hpair
    have hnext : Nesting.next ⟨depth, .outside⟩ opening = ⟨depth + 1, .outside⟩ := by
      simp [Nesting.next, hopener]
    have hnext' : Nesting.next ⟨depth + 1, .outside⟩ closing = ⟨depth, .outside⟩ := by
      simp [Nesting.next, hnotOpener, hcloser]
    rw [List.cons_append, List.append_assoc, List.cons_append,
      splitFrom_cons fun _ _ => by simp [isNestingMark, hopener], hnext,
      ihinside fun _ => Nat.succ_pos depth,
      splitFrom_cons fun _ _ => by simp [isNestingMark, hcloser], hnext', ih hdepth,
      List.foldr_cons, List.foldr_append, List.foldr_cons]

theorem foldr_extendFirst (cs part : List Char) (parts : List (List Char)) :
    cs.foldr extendFirst (part :: parts) = (cs ++ part) :: parts := by
  induction cs with
  | nil => rfl
  | cons c cs ih =>
    rw [List.foldr_cons, ih]
    rfl

/-- Balanced texts joined by commas come apart again. -/
theorem splitTopLevel_intercalate {parts : List (List Char)} (hne : parts ≠ [])
    (h : ∀ part ∈ parts, Balanced false part) :
    splitTopLevel ',' ([','].intercalate parts) = parts := by
  unfold splitTopLevel
  induction parts with
  | nil => contradiction
  | cons part parts ih =>
    rw [List.forall_mem_cons] at h
    cases parts with
    | nil =>
      have hsplit : splitFrom ',' .top (part ++ []) = part.foldr extendFirst [[]] :=
        h.1.splitFrom (by simp)
      rw [foldr_extendFirst, List.append_nil] at hsplit
      rw [List.intercalate_singleton, hsplit]
    | cons part' parts =>
      have hrest := ih (List.cons_ne_nil _ _) h.2
      have hcut : ∀ cs, splitFrom ',' .top (',' :: cs) = [] :: splitFrom ',' .top cs :=
        fun cs => by rw [splitFrom, if_pos ⟨rfl, rfl, rfl⟩]
      have hsplit : ∀ rest, splitFrom ',' .top (part ++ rest) =
          part.foldr extendFirst (splitFrom ',' .top rest) := fun rest => h.1.splitFrom (by simp)
      rw [List.intercalate_cons_cons, List.append_assoc, List.singleton_append, hsplit, hcut, hrest,
        foldr_extendFirst, List.append_nil]

end

end Phrasebook.Text
