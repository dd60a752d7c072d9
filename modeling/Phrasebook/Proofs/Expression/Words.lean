import Phrasebook.Proofs.Expression.Grammar

namespace Phrasebook.Expr

theorem skipGaps_append {gap : List Char} (hgap : ∀ c ∈ gap, Text.isGap c) (cs : List Char) :
    skipGaps (gap ++ cs) = skipGaps cs := by
  unfold skipGaps
  exact List.dropWhile_append_of_pos hgap

theorem skipGaps_cons {c : Char} (h : Text.isGap c = false) (cs : List Char) :
    skipGaps (c :: cs) = c :: cs := by
  unfold skipGaps
  rw [List.dropWhile_cons_of_neg (by simp [h])]

theorem skipGaps_gap {gap : List Char} (hgap : ∀ c ∈ gap, Text.isGap c) : skipGaps gap = [] := by
  have h := skipGaps_append hgap []
  rwa [List.append_nil] at h

theorem exists_gap (cs : List Char) :
    ∃ gap, (∀ c ∈ gap, Text.isGap c) ∧ cs = gap ++ skipGaps cs := by
  refine ⟨cs.takeWhile Text.isGap, ?_, List.takeWhile_append_dropWhile.symm⟩
  intro c hc
  exact List.all_eq_true.1 List.all_takeWhile c hc

theorem exists_gap_of_skipGaps {cs rest : List Char} (h : skipGaps cs = rest) :
    ∃ gap, (∀ c ∈ gap, Text.isGap c) ∧ cs = gap ++ rest := by
  subst h
  exact exists_gap cs

/-- What may follow a word: no character that continues a name or a number, and no bracket that
makes a name a call. -/
structure Stops (rest : List Char) : Prop where
  name : ∀ c ∈ rest.head?, continuesName c = false
  fraction : ∀ c cs, rest = '.' :: c :: cs → c.isDigit = false
  call : (skipGaps rest).head? ≠ some '('

theorem takeWhile_append_stop {p : Char → Bool} {cs rest : List Char} (h : ∀ c ∈ cs, p c)
    (hrest : ∀ c ∈ rest.head?, p c = false) :
    (cs ++ rest).takeWhile p = cs ∧ (cs ++ rest).dropWhile p = rest := by
  rw [List.takeWhile_append_of_pos h, List.dropWhile_append_of_pos h]
  cases rest with
  | nil => simp
  | cons c rest =>
    have hc : p c = false := hrest c rfl
    simp [hc]

theorem name?_append {name : String} {rest : List Char} (h : IsName name)
    (hrest : ∀ c ∈ rest.head?, continuesName c = false) :
    name? (name.toList ++ rest) = some (name, rest) := by
  obtain ⟨c, cs, hname, hc, hcs⟩ := h
  obtain ⟨htake, hdrop⟩ := takeWhile_append_stop hcs hrest
  rw [hname, List.cons_append, name?, if_pos hc, htake, hdrop, ← hname, String.ofList_toList]

theorem of_name? {name : String} {cs rest : List Char} (h : name? cs = some (name, rest)) :
    IsName name ∧ cs = name.toList ++ rest := by
  cases cs with
  | nil => contradiction
  | cons c cs =>
    rw [name?] at h
    split at h
    · rename_i hc
      cases h
      refine ⟨⟨c, cs.takeWhile continuesName, by simp, hc, ?_⟩, by simp⟩
      intro d hd
      exact List.all_eq_true.1 List.all_takeWhile d hd
    · contradiction

theorem digitsToNat_eq (digits : List Char) :
    digitsToNat digits = Nat.ofDigitChars 10 digits 0 := by
  unfold digitsToNat
  rw [Nat.ofDigitChars_eq_foldl]
  congr 1
  funext n c
  rw [Nat.mul_comm]
  rfl

theorem isDigit_of_continues {c : Char} (h : continuesName c = false) : c.isDigit = false := by
  simp only [continuesName, Char.isAlphanum, Bool.or_eq_false_iff] at h
  exact h.1.2

theorem Stops.digit {rest : List Char} (h : Stops rest) :
    ∀ c ∈ rest.head?, c.isDigit = false :=
  fun c hc => isDigit_of_continues (h.name c hc)

theorem number?_whole {digits rest : List Char} (hne : digits ≠ [])
    (hdigits : ∀ c ∈ digits, c.isDigit)
    (hbound : Nat.ofDigitChars 10 digits 0 < Number.wordBound) (hrest : Stops rest) :
    number? (digits ++ rest) = some (.int (Nat.ofDigitChars 10 digits 0 : Nat), rest) := by
  obtain ⟨htake, hdrop⟩ := takeWhile_append_stop hdigits hrest.digit
  simp only [number?, htake, hdrop, hne, if_false, digitsToNat_eq, hbound, if_true]
  split
  · rename_i after
    have hfraction : after.takeWhile Char.isDigit = [] := by
      cases after with
      | nil => rfl
      | cons c cs => simp [hrest.fraction c cs rfl]
    rw [if_pos hfraction]
  · rfl

theorem number?_decimal {whole fraction rest : List Char} (hwhole : whole ≠ [])
    (hfraction : fraction ≠ []) (hdigits : ∀ c ∈ whole ++ fraction, c.isDigit)
    (hrest : Stops rest) :
    number? (whole ++ '.' :: fraction ++ rest) =
      some (.ofDouble (.ofDecimal false (Nat.ofDigitChars 10 (whole ++ fraction) 0)
        (-(fraction.length : Int))), rest) := by
  simp only [List.forall_mem_append] at hdigits
  have hpoint : ∀ c ∈ ('.' :: (fraction ++ rest)).head?, c.isDigit = false := by simp
  obtain ⟨htake, hdrop⟩ := takeWhile_append_stop hdigits.1 hpoint
  obtain ⟨htake', hdrop'⟩ := takeWhile_append_stop hdigits.2 hrest.digit
  rw [List.append_assoc, List.cons_append]
  simp only [number?, htake, hdrop, htake', hdrop', hwhole, hfraction, if_false, digitsToNat_eq]

theorem isDigit_of_mem_takeWhile {cs : List Char} :
    ∀ c ∈ cs.takeWhile Char.isDigit, c.isDigit :=
  fun c hc => List.all_eq_true.1 List.all_takeWhile c hc

/-- What is read as a number is the spelling of a word that denotes it. -/
theorem of_number? {cs rest : List Char} {v : Value} (h : number? cs = some (v, rest)) :
    ∃ w used, cs = used ++ rest ∧ Word.Spelling w used ∧ w.Denotes v := by
  have hsplit : cs = cs.takeWhile Char.isDigit ++ cs.dropWhile Char.isDigit :=
    List.takeWhile_append_dropWhile.symm
  have hwhole : cs.takeWhile Char.isDigit ≠ [] →
      (if digitsToNat (cs.takeWhile Char.isDigit) < Number.wordBound then
        some (Value.int (digitsToNat (cs.takeWhile Char.isDigit) : Nat),
          cs.dropWhile Char.isDigit)
      else none) = some (v, rest) →
      ∃ w used, cs = used ++ rest ∧ Word.Spelling w used ∧ w.Denotes v := by
    intro hne h
    split at h
    · rename_i hbound
      cases h
      rw [digitsToNat_eq] at hbound ⊢
      exact ⟨_, _, hsplit, .number hne isDigit_of_mem_takeWhile, .number hbound⟩
    · contradiction
  unfold number? at h
  dsimp only at h
  split at h
  · contradiction
  · rename_i hne
    split at h
    · rename_i after hafter
      split at h
      · exact hwhole hne h
      · rename_i hfraction
        cases h
        rw [digitsToNat_eq]
        refine ⟨_, _, ?_, .decimal _ _, .decimal hne hfraction ?_⟩
        · rw [List.append_assoc, List.cons_append, List.takeWhile_append_dropWhile, ← hafter]
          exact hsplit
        · exact List.forall_mem_append.2 ⟨isDigit_of_mem_takeWhile, isDigit_of_mem_takeWhile⟩
    · exact hwhole hne h

section

variable {mark : Char} (hmark : mark ≠ '\\')

theorem stringBody?_mark (cs : List Char) : stringBody? mark (mark :: cs) = some ([], cs) := by
  unfold stringBody?
  rw [if_pos rfl]

theorem stringBody?_plain {c : Char} (hne : c ≠ mark) (hescape : c ≠ '\\') (cs : List Char) :
    stringBody? mark (c :: cs) =
      (stringBody? mark cs).map fun (body, rest) => (c :: body, rest) := by
  conv => lhs; unfold stringBody?
  rw [if_neg hne, if_neg hescape]

include hmark

theorem stringBody?_escaped {c d : Char} (hc : escape? d = some c) (cs : List Char) :
    stringBody? mark ('\\' :: d :: cs) =
      (stringBody? mark cs).map fun (body, rest) => (c :: body, rest) := by
  conv => lhs; unfold stringBody?
  rw [if_neg (Ne.symm hmark), if_pos rfl]
  simp only [hc]
  cases stringBody? mark cs with
  | none => rfl
  | some found => rfl

theorem stringBody?_quoted {body content : List Char} (h : Word.Quoted mark body content)
    (rest : List Char) : stringBody? mark (body ++ mark :: rest) = some (content, rest) := by
  induction h with
  | nil => exact stringBody?_mark rest
  | plain hne hescape h ih =>
    rw [List.cons_append, stringBody?_plain hne hescape, ih]
    rfl
  | escaped hc h ih =>
    rw [List.cons_append, List.cons_append, stringBody?_escaped hmark hc, ih]
    rfl

theorem of_stringBody? {cs content rest : List Char}
    (h : stringBody? mark cs = some (content, rest)) :
    ∃ body, cs = body ++ mark :: rest ∧ Word.Quoted mark body content := by
  induction cs using stringBody?.induct mark generalizing content with
  | case1 => cases h
  | case2 cs =>
    rw [stringBody?_mark] at h
    cases h
    exact ⟨[], rfl, .nil⟩
  | case3 hne => simp [stringBody?, hne] at h
  | case4 d cs c body rest' hbody hc hne ih =>
    rw [stringBody?_escaped hmark hc, hbody] at h
    cases h
    obtain ⟨used, hcs, hused⟩ := ih hbody
    exact ⟨'\\' :: d :: used, by rw [hcs]; rfl, .escaped hc hused⟩
  | case5 d cs hnone hne ih =>
    simp only [stringBody?, hne, if_false, if_true] at h
    contradiction
  | case6 c cs hne hescape ih =>
    rw [stringBody?_plain hne hescape] at h
    obtain ⟨⟨body, rest'⟩, hbody, hfound⟩ := Option.map_eq_some_iff.1 h
    cases hfound
    obtain ⟨used, hcs, hused⟩ := ih hbody
    exact ⟨c :: used, by rw [hcs]; rfl, .plain hne hescape hused⟩

end

theorem ne_backslash_of_isQuote {mark : Char} (h : Text.isQuote mark) : mark ≠ '\\' := by
  rintro rfl
  contradiction

/-- An operator is read as such unless an equals sign follows that belongs to a longer one. -/
theorem operator?_symbol (op : BinaryOp) {cs : List Char} (h : cs.head? ≠ some '=') :
    operator? (op.symbol.toList ++ cs) = some (op, cs) := by
  cases cs with
  | nil => cases op <;> simp [BinaryOp.symbol, operator?]
  | cons c cs =>
    have hc : c ≠ '=' := fun hc => h (congrArg some hc)
    cases op <;> simp [BinaryOp.symbol, operator?, hc]

theorem of_operator? {op : BinaryOp} {cs rest : List Char} (h : operator? cs = some (op, rest)) :
    cs = op.symbol.toList ++ rest := by
  unfold operator? at h
  split at h <;> cases h <;> simp [BinaryOp.symbol]

end Phrasebook.Expr
