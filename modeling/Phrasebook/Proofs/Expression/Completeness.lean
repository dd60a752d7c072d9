import Phrasebook.Proofs.Expression.Follow

namespace Phrasebook.Expr

section

variable {gap cs rest : List Char} (exp : List Char → Reply Expr)

theorem signs_append (hgap : ∀ c ∈ gap, Text.isGap c) (cs : List Char) :
    signs (gap ++ cs) = signs cs := by
  induction gap with
  | nil => rfl
  | cons c gap ih =>
    rw [List.forall_mem_cons] at hgap
    rw [List.cons_append, signs, if_pos hgap.1]
    exact ih hgap.2

theorem signs_primary {c : Char} (hc : startsPrimary c) (cs : List Char) :
    signs (c :: cs) = ([], c :: cs) := by
  have hminus : c ≠ '-' := ne_of_startsPrimary hc (by decide)
  have hbang : c ≠ '!' := ne_of_startsPrimary hc (by decide)
  simp [signs, isGap_eq_false hc, hminus, hbang]

theorem signs_symbol (op : UnaryOp) (hrest : rest.head? ≠ some '=') :
    signs (op.symbol.toList ++ rest) = (op :: (signs rest).1, (signs rest).2) := by
  cases op with
  | not =>
    change signs ('!' :: rest) = _
    rw [signs, if_neg (by decide), if_neg (by decide), if_pos ⟨rfl, hrest⟩]
  | negate =>
    change signs ('-' :: rest) = _
    rw [signs, if_neg (by decide), if_pos rfl]

theorem operand_append (hgap : ∀ c ∈ gap, Text.isGap c) (cs : List Char) :
    operand exp (gap ++ cs) = operand exp cs := by
  unfold operand
  rw [signs_append hgap]

theorem atLevel_append (hgap : ∀ c ∈ gap, Text.isGap c) (level : Nat) (cs : List Char) :
    atLevel exp level (gap ++ cs) = atLevel exp level cs := by
  induction level with
  | zero => exact operand_append exp hgap cs
  | succ level ih => rw [atLevel, atLevel, ih]

theorem expression_append (hgap : ∀ c ∈ gap, Text.isGap c) (depth : Nat) (cs : List Char) :
    expression depth (gap ++ cs) = expression depth cs := by
  cases depth with
  | zero => rfl
  | succ depth => exact atLevel_append _ hgap _ cs

theorem expression_skipGaps (depth : Nat) (cs : List Char) :
    expression depth (skipGaps cs) = expression depth cs := by
  obtain ⟨gap, hgap, hcs⟩ := exists_gap cs
  conv => rhs; rw [hcs]
  exact (expression_append hgap depth _).symm

theorem atLevel_skipGaps (level : Nat) (cs : List Char) :
    atLevel exp level (skipGaps cs) = atLevel exp level cs := by
  obtain ⟨gap, hgap, hcs⟩ := exists_gap cs
  conv => rhs; rw [hcs]
  exact (atLevel_append exp hgap level _).symm

/-- No expression begins with a closing bracket. -/
theorem expression_close {c : Char} (hc : c ∈ [']', ')']) (depth : Nat) (cs : List Char) :
    expression depth (c :: cs) = .absent := by
  have hoperand : ∀ exp, operand exp (c :: cs) = .absent := by
    intro exp
    simp only [List.mem_cons, List.not_mem_nil, or_false] at hc
    rcases hc with rfl | rfl <;> rfl
  have hlevel : ∀ exp level, atLevel exp level (c :: cs) = .absent := by
    intro exp level
    induction level with
    | zero => exact hoperand exp
    | succ level ih => rw [atLevel, ih]
  cases depth with
  | zero => rfl
  | succ depth => exact hlevel _ _

end

/-- How an expression of each bound is read, whatever follows it. At bound zero more members and
indexes may follow, and above one more operators of the level. -/
def Reads (depth : Nat) : Nat → Expr → List Char → Prop
  | 0, e, cs => ∀ rest, Stops rest → ∃ steps, rest.length ≤ steps ∧
      suffixed (expression depth) (skipGaps (cs ++ rest)) =
        suffixes (expression depth) steps e rest
  | 1, e, cs => ∀ rest, Follows 0 rest → operand (expression depth) (cs ++ rest) = .found e rest
  | level + 2, e, cs => ∀ rest, Follows level rest → ∃ steps, rest.length ≤ steps ∧
      atLevel (expression depth) (level + 1) (cs ++ rest) =
        chain (level + 1) (atLevel (expression depth) level) steps e rest

section

variable {depth level : Nat} {e : Expr} {cs used rest : List Char}

theorem Reads.atLevel (h : Reads depth (level + 1) e cs) (hrest : Follows level rest) :
    atLevel (expression depth) level (cs ++ rest) = .found e rest := by
  cases level with
  | zero => exact h rest hrest
  | succ level =>
    obtain ⟨steps, -, hread⟩ := h rest (hrest.mono (Nat.le_succ level))
    rw [hread]
    cases steps with
    | zero => rfl
    | succ steps => rw [chain, hrest.operatorAt? (Nat.le_refl _)]

theorem suffixes_follows (exp : List Char → Reply Expr) (h : Follows level rest) (steps : Nat)
    (e : Expr) : suffixes exp steps e rest = .found e rest := by
  cases steps with
  | zero => rfl
  | succ steps =>
    rw [suffixes]
    split
    · rename_i hpoint
      have hmem := h.mem_followers '.' (by rw [hpoint]; rfl)
      obtain ⟨-, -, -, hne, -⟩ := of_mem_followers hmem
      contradiction
    · rename_i hbracket
      have hmem := h.mem_followers '[' (by rw [hbracket]; rfl)
      obtain ⟨-, -, -, -, hne⟩ := of_mem_followers hmem
      contradiction
    · rfl

theorem Reads.operand (h : Reads depth 0 e cs) {gap : List Char} (hgap : ∀ c ∈ gap, Text.isGap c)
    {c : Char} (hc : startsPrimary c) (hcs : cs = gap ++ c :: used) : Reads depth 1 e cs := by
  intro rest hrest
  subst hcs
  obtain ⟨steps, -, hread⟩ := h rest hrest.stops
  rw [List.append_assoc, skipGaps_append hgap, List.cons_append,
    skipGaps_cons (isGap_eq_false hc), suffixes_follows _ hrest] at hread
  unfold Expr.operand
  rw [List.append_assoc, signs_append hgap, List.cons_append, signs_primary hc]
  dsimp only
  rw [hread]
  rfl

theorem Reads.loosen (h : Reads depth (level + 1) e cs) : Reads depth (level + 2) e cs := by
  intro rest hrest
  refine ⟨rest.length, Nat.le_refl _, ?_⟩
  rw [Expr.atLevel, h.atLevel hrest]

theorem Reads.unary (op : UnaryOp) (h : Reads depth 1 e cs) {gap : List Char}
    (hgap : ∀ c ∈ gap, Text.isGap c) (hhead : ∀ rest, (cs ++ rest).head? ≠ some '=') :
    Reads depth 1 (.unary op e) (gap ++ (op.symbol.toList ++ cs)) := by
  intro rest hrest
  have hread := h rest hrest
  unfold Expr.operand at hread ⊢
  rw [List.append_assoc, signs_append hgap, List.append_assoc, signs_symbol op (hhead rest)]
  generalize signs (cs ++ rest) = start at hread ⊢
  obtain ⟨ops, start⟩ := start
  dsimp only at hread ⊢
  cases hoperand : suffixed (expression depth) start with
  | found e' rest' =>
    rw [hoperand] at hread
    cases hread
    rfl
  | absent =>
    rw [hoperand] at hread
    contradiction
  | broken t =>
    rw [hoperand] at hread
    contradiction

/-- An operator and its right operand are read as one step of the chain that the left operand
begins. -/
theorem Reads.binary {op : BinaryOp} {left right : Expr} {leftChars rightChars gap : List Char}
    (hleft : Reads depth (op.level + 1) left leftChars)
    (hright : Reads depth op.level right rightChars) (hgap : ∀ c ∈ gap, Text.isGap c)
    (hhead : ∀ rest, (rightChars ++ rest).head? ≠ some '=') :
    Reads depth (op.level + 1) (.binary op left right)
      (leftChars ++ (gap ++ (op.symbol.toList ++ rightChars))) := by
  obtain ⟨level, hlevel⟩ : ∃ level, op.level = level + 1 := ⟨op.level - 1, by cases op <;> rfl⟩
  rw [hlevel] at hleft hright ⊢
  intro rest hrest
  have hskip := skipGaps_operator hgap op (rightChars ++ rest)
  have hop := operator?_symbol op (hhead rest)
  have hat : operatorAt? (level + 1) (op.symbol.toList ++ (rightChars ++ rest)) =
      some (op, rightChars ++ rest) := by
    simp [operatorAt?, hop, hlevel]
  have hfollows : Follows level (gap ++ (op.symbol.toList ++ (rightChars ++ rest))) :=
    follows_operator hgap (by omega) (hhead rest)
  obtain ⟨steps, hsteps, hread⟩ := hleft _ hfollows
  have hlength : rest.length + 1 ≤ steps := by
    have hsymbol : 1 ≤ op.symbol.toList.length := by cases op <;> decide
    simp only [List.length_append] at hsteps
    omega
  obtain ⟨steps, rfl⟩ : ∃ more, steps = more + 1 := ⟨steps - 1, by omega⟩
  refine ⟨steps, by omega, ?_⟩
  simp only [List.append_assoc] at hread ⊢
  rw [hread, chain, hskip, hat]
  dsimp only
  rw [atLevel_skipGaps, hright.atLevel hrest]

theorem Reads.member {name : String} {gap gap' : List Char} (h : Reads depth 0 e cs)
    (hname : IsName name) (hgap : ∀ c ∈ gap, Text.isGap c) (hgap' : ∀ c ∈ gap', Text.isGap c) :
    Reads depth 0 (.member e name) (cs ++ (gap ++ '.' :: (gap' ++ name.toList))) := by
  intro rest hrest
  obtain ⟨first, more, hfirst, hstart, -⟩ := id hname
  have hgapFirst : Text.isGap first = false := isGap_eq_false (by simp [startsPrimary, hstart])
  have hskip : skipGaps (gap' ++ (name.toList ++ rest)) = name.toList ++ rest := by
    rw [skipGaps_append hgap', hfirst, List.cons_append, skipGaps_cons hgapFirst]
  have hstops : Stops (gap ++ '.' :: (gap' ++ (name.toList ++ rest))) := by
    refine stops_append hgap ?_ ?_
    · intro c hc
      obtain rfl : '.' = c := by simpa using hc
      decide
    · intro c t hct
      obtain ⟨-, hct⟩ := List.cons.inj hct
      cases gap' with
      | nil =>
        rw [hfirst] at hct
        obtain ⟨rfl, -⟩ := List.cons.inj hct
        exact isDigit_of_startsName hstart
      | cons g gap' =>
        obtain ⟨rfl, -⟩ := List.cons.inj hct
        exact isDigit_of_continues (continuesName_of_isGap (hgap' g List.mem_cons_self))
  obtain ⟨steps, hsteps, hread⟩ := h _ hstops
  have hlength : rest.length + 1 ≤ steps := by
    simp only [List.length_append, List.length_cons] at hsteps
    omega
  obtain ⟨steps, rfl⟩ : ∃ more, steps = more + 1 := ⟨steps - 1, by omega⟩
  refine ⟨steps, by omega, ?_⟩
  have hpoint : skipGaps (gap ++ '.' :: (gap' ++ (name.toList ++ rest))) =
      '.' :: (gap' ++ (name.toList ++ rest)) := by
    rw [skipGaps_append hgap, skipGaps_cons (by decide)]
  have hword : name? (name.toList ++ rest) = some (name, rest) := name?_append hname hrest.name
  simp only [List.append_assoc, List.cons_append] at hread ⊢
  rw [hread]
  simp only [suffixes, hpoint, hskip, hword]

/-- An expression is read as a whole up to the end of the bracket around it. -/
def ReadsWhole (depth : Nat) (e : Expr) (cs : List Char) : Prop :=
  ∀ rest, Follows BinaryOp.levels rest → expression depth (cs ++ rest) = .found e rest

theorem readsWhole (h : ∀ depth, cs.length ≤ depth → Reads depth (BinaryOp.levels + 1) e cs)
    (hdepth : cs.length < depth) : ReadsWhole depth e cs := by
  intro rest hrest
  cases depth with
  | zero => omega
  | succ depth => exact (h depth (by omega)).atLevel hrest

theorem Reads.index {key : Expr} {keyChars gap gap' : List Char} (h : Reads depth 0 e cs)
    (hkey : ReadsWhole depth key keyChars) (hgap : ∀ c ∈ gap, Text.isGap c)
    (hgap' : ∀ c ∈ gap', Text.isGap c) :
    Reads depth 0 (.index e key) (cs ++ (gap ++ '[' :: (keyChars ++ (gap' ++ [']'])))) := by
  intro rest hrest
  have hstops : Stops (gap ++ '[' :: (keyChars ++ (gap' ++ ']' :: rest))) := by
    refine stops_append hgap ?_ ?_
    · intro c hc
      obtain rfl : '[' = c := by simpa using hc
      decide
    · intro c t hct
      exact absurd (List.cons.inj hct).1 (by decide)
  obtain ⟨steps, hsteps, hread⟩ := h _ hstops
  have hlength : rest.length + 1 ≤ steps := by
    simp only [List.length_append, List.length_cons] at hsteps
    omega
  obtain ⟨steps, rfl⟩ : ∃ more, steps = more + 1 := ⟨steps - 1, by omega⟩
  refine ⟨steps, by omega, ?_⟩
  have hclose : Follows BinaryOp.levels (gap' ++ ']' :: rest) :=
    follows_close hgap' (by decide) rest
  have hopening : skipGaps (gap ++ '[' :: (keyChars ++ (gap' ++ ']' :: rest))) =
      '[' :: (keyChars ++ (gap' ++ ']' :: rest)) := by
    rw [skipGaps_append hgap, skipGaps_cons (by decide)]
  have hclosing : skipGaps (gap' ++ ']' :: rest) = ']' :: rest :=
    skipGaps_close hgap' (by decide) rest
  simp only [List.append_assoc, List.cons_append, List.nil_append] at hread ⊢
  rw [hread]
  simp only [suffixes, hopening, expression_skipGaps, hkey _ hclose, hclosing]

section

variable {closing : Char} {gap : List Char}

/-- The items of a list are read as a whole up to where the list is closed. -/
def ReadsItems (depth : Nat) (items : List (Expr × List Word)) : Prop :=
  ∀ item ∈ items, ∀ cs, Word.Written item.2 cs → cs.length < depth → ReadsWhole depth item.1 cs

theorem mem_closers (hclosing : closing ∈ [']', ')']) : closing ∈ [')', ']', ','] := by
  obtain rfl | rfl : closing = ']' ∨ closing = ')' := by simpa using hclosing
  · decide
  · decide

theorem follows_items {items : List (Expr × List Word)} (hgap : ∀ c ∈ gap, Text.isGap c)
    (hclosing : closing ∈ [']', ')'])
    (hcs : Word.Written (items.flatMap fun item => .symbol "," :: item.2) cs) (rest : List Char) :
    Follows level (cs ++ (gap ++ closing :: rest)) := by
  cases items with
  | nil =>
    cases hcs
    exact follows_close hgap (mem_closers hclosing) rest
  | cons item items =>
    rw [List.flatMap_cons, List.cons_append] at hcs
    obtain ⟨before, after, rfl, hbefore, -⟩ := Word.written_symbol.1 hcs
    rw [List.append_assoc]
    exact follows_close hbefore (by decide) _

theorem moreItems_reads {items : List (Expr × List Word)} (h : ReadsItems depth items)
    (hgap : ∀ c ∈ gap, Text.isGap c) (hclosing : closing ∈ [']', ')'])
    (hcs : Word.Written (items.flatMap fun item => .symbol "," :: item.2) cs)
    (hdepth : cs.length < depth) (rest : List Char) (steps : Nat) (hsteps : cs.length ≤ steps) :
    moreItems (expression depth) steps (cs ++ (gap ++ closing :: rest)) =
      .found (items.map Prod.fst) (gap ++ closing :: rest) := by
  induction items generalizing cs steps with
  | nil =>
    cases hcs
    have hclose : skipGaps ([] ++ (gap ++ closing :: rest)) = closing :: rest :=
      skipGaps_close hgap (mem_closers hclosing) rest
    have hcomma : closing ≠ ',' := by
      rintro rfl
      contradiction
    cases steps with
    | zero => rfl
    | succ steps =>
      rw [moreItems]
      split
      · rename_i heq
        exact absurd (List.cons.inj (hclose.symm.trans heq)).1 hcomma
      · rfl
  | cons item items ih =>
    have hitem := h item List.mem_cons_self
    rw [List.flatMap_cons, List.cons_append] at hcs
    obtain ⟨before, after, rfl, hbefore, hafter⟩ := Word.written_symbol.1 hcs
    obtain ⟨used, more, rfl, hused, hmore⟩ := hafter.split
    have hlength : (before ++ (",".toList ++ (used ++ more))).length =
        before.length + 1 + used.length + more.length := by
      simp
      omega
    rw [hlength] at hdepth hsteps
    obtain ⟨steps, rfl⟩ : ∃ fewer, steps = fewer + 1 := ⟨steps - 1, by omega⟩
    have hcomma : skipGaps (before ++ (",".toList ++ (used ++ more)) ++ (gap ++ closing :: rest)) =
        ',' :: (used ++ (more ++ (gap ++ closing :: rest))) := by
      simp only [List.append_assoc]
      exact skipGaps_close hbefore (by decide) _
    have hread := hitem used hused (by omega) _ (follows_items hgap hclosing hmore rest)
    have hreads : ReadsItems depth items :=
      fun item hitem => h item (List.mem_cons_of_mem _ hitem)
    have htail := ih hreads hmore (by omega) steps (by omega)
    simp only [moreItems, hcomma, expression_skipGaps, hread, htail, List.map_cons]

theorem items_reads {list : List (Expr × List Word)} (h : ReadsItems depth list)
    (hgap : ∀ c ∈ gap, Text.isGap c) (hclosing : closing ∈ [']', ')'])
    (hcs : Word.Written (Word.separated (list.map Prod.snd)) cs) (hdepth : cs.length < depth)
    (rest : List Char) :
    items (expression depth) closing (cs ++ (gap ++ closing :: rest)) =
      .found (list.map Prod.fst) rest := by
  have hclose : skipGaps (gap ++ closing :: rest) = closing :: rest :=
    skipGaps_close hgap (mem_closers hclosing) rest
  cases list with
  | nil =>
    cases hcs
    have habsent : expression depth (closing :: rest) = .absent :=
      expression_close hclosing depth rest
    simp only [items, someItems, List.nil_append, hclose, habsent, if_true, List.map_nil]
  | cons item list =>
    rw [List.map_cons, Word.separated, List.flatMap_map] at hcs
    obtain ⟨used, more, rfl, hused, hmore⟩ := hcs.split
    rw [List.length_append] at hdepth
    have hitem := h item List.mem_cons_self used hused (by omega) _
      (follows_items hgap hclosing hmore rest)
    have hlist : ReadsItems depth list := fun item hitem => h item (List.mem_cons_of_mem _ hitem)
    have hmany := moreItems_reads hlist hgap hclosing hmore (by omega) rest
      (more ++ (gap ++ closing :: rest)).length (by simp)
    rw [List.append_assoc]
    simp only [items, someItems, expression_skipGaps, hitem, hmany, hclose, if_true, List.map_cons]

end

end

section

variable {depth : Nat} {e : Expr} {gap cs rest : List Char} (exp : List Char → Reply Expr)

theorem skipGaps_start (hgap : ∀ c ∈ gap, Text.isGap c) {c : Char} (hc : startsPrimary c)
    (cs : List Char) : skipGaps (gap ++ c :: cs) = c :: cs := by
  rw [skipGaps_append hgap, skipGaps_cons (isGap_eq_false hc)]

/-- A name is none of the other forms. -/
theorem primaryForm_startsName {c : Char} (hc : startsName c) :
    primaryForm exp (c :: cs) = wordForm exp (c :: cs) := by
  have hne : ∀ d, startsName d = false → c ≠ d := by
    rintro d hd rfl
    rw [hd] at hc
    contradiction
  have hquote : Text.isQuote c = false := by
    have hsingle := hne '\x27' (by decide)
    have hdouble := hne '"' (by decide)
    simp [Text.isQuote, hsingle, hdouble]
  have hsquare := hne '[' (by decide)
  have hround := hne '(' (by decide)
  unfold primaryForm
  simp only [isDigit_of_startsName hc, hquote, hsquare, hround, Bool.false_eq_true, if_false]

theorem primaryForm_name {name : String} (hname : IsName name) (hrest : Stops rest) :
    primaryForm exp (name.toList ++ rest) = .found (ofWord name) rest := by
  obtain ⟨c, cs, hcs, hc, -⟩ := id hname
  have hword : name? (name.toList ++ rest) = some (name, rest) := name?_append hname hrest.name
  rw [hcs, List.cons_append] at hword ⊢
  rw [primaryForm_startsName exp hc]
  unfold wordForm
  rw [hword]
  dsimp only
  split
  · rename_i hcall
    exact absurd (by rw [hcall]; rfl) hrest.call
  · rfl

theorem primaryForm_call {name : String} (hname : IsName name) (hgap : ∀ c ∈ gap, Text.isGap c)
    {inside : List Char} {es : List Expr} (h : items exp ')' inside = .found es rest) :
    primaryForm exp (name.toList ++ (gap ++ '(' :: inside)) = .found (.call name es) rest := by
  obtain ⟨c, cs, hcs, hc, -⟩ := id hname
  have hnext : ∀ c ∈ (gap ++ '(' :: inside).head?, continuesName c = false := by
    cases gap with
    | nil => simp [continuesName]
    | cons g gap =>
      intro d hd
      obtain rfl : g = d := by simpa using hd
      exact continuesName_of_isGap (hgap g List.mem_cons_self)
  have hword := name?_append hname hnext
  have hopen : skipGaps (gap ++ '(' :: inside) = '(' :: inside := skipGaps_start hgap (by decide) _
  rw [hcs, List.cons_append] at hword ⊢
  rw [primaryForm_startsName exp hc]
  simp only [wordForm, hword, hopen, h]

theorem primaryForm_number {v : Value} (h : number? cs = some (v, rest)) :
    primaryForm exp cs = .found (.literal v) rest := by
  cases cs with
  | nil => contradiction
  | cons c cs =>
    cases hc : c.isDigit with
    | false => simp [number?, hc] at h
    | true => simp only [primaryForm, hc, if_true, h]

theorem primaryForm_quote {mark : Char} (hmark : Text.isQuote mark) {body : List Char}
    (h : stringBody? mark cs = some (body, rest)) :
    primaryForm exp (mark :: cs) = .found (.literal (.text (String.ofList body))) rest := by
  have hdigit : mark.isDigit = false := by
    simp only [Text.isQuote, Bool.or_eq_true, decide_eq_true_eq] at hmark
    rcases hmark with rfl | rfl <;> rfl
  simp only [primaryForm, hdigit, hmark, Bool.false_eq_true, if_false, if_true, h]

theorem primaryForm_literal {w : Word} {v : Value} (hw : w.Denotes v) (hcs : w.Spelling cs)
    (hrest : Stops rest) : primaryForm exp (cs ++ rest) = .found (.literal v) rest := by
  have hkeyword : ∀ name : String, IsName name → ofWord name = .literal v →
      cs = name.toList → primaryForm exp (cs ++ rest) = .found (.literal v) rest := by
    intro name hname hword hcs
    rw [hcs, primaryForm_name exp hname hrest, hword]
  cases hcs with
  | name name =>
    cases hw with
    | null => exact hkeyword "null" (by decide) rfl rfl
    | true => exact hkeyword "true" (by decide) rfl rfl
    | false => exact hkeyword "false" (by decide) rfl rfl
  | number hne hdigits =>
    cases hw with
    | number hbound => exact primaryForm_number exp (number?_whole hne hdigits hbound hrest)
  | decimal whole fraction =>
    cases hw with
    | decimal hwhole hfraction hdigits =>
      exact primaryForm_number exp (number?_decimal hwhole hfraction hdigits hrest)
  | text hmark hbody =>
    cases hw with
    | text content =>
      rw [List.append_assoc, List.cons_append]
      exact primaryForm_quote exp hmark
        (stringBody?_quoted (ne_backslash_of_isQuote hmark) hbody rest)
  | symbol symbol => cases hw

theorem primaryForm_list {inside : List Char} {es : List Expr}
    (h : items exp ']' inside = .found es rest) :
    primaryForm exp ('[' :: inside) = .found (.list es) rest := by
  have hdigit : Char.isDigit '[' = false := rfl
  have hquote : Text.isQuote '[' = false := rfl
  simp only [primaryForm, hdigit, hquote, Bool.false_eq_true, if_false, if_true, h]

theorem primaryForm_bracketed {inside after : List Char}
    (h : exp (skipGaps inside) = .found e after) (hafter : skipGaps after = ')' :: rest) :
    primaryForm exp ('(' :: inside) = .found e rest := by
  have hdigit : Char.isDigit '(' = false := rfl
  have hquote : Text.isQuote '(' = false := rfl
  have hsquare : '(' ≠ '[' := by decide
  simp only [primaryForm, hdigit, hquote, hsquare, Bool.false_eq_true, if_false, if_true, h, hafter]

theorem reads_primary {used : List Char} (hgap : ∀ c ∈ gap, Text.isGap c)
    (hused : ∃ c cs, used = c :: cs ∧ startsPrimary c)
    (h : ∀ rest, Stops rest →
      primaryForm (expression depth) (used ++ rest) = .found e rest) :
    Reads depth 0 e (gap ++ used) := by
  intro rest hrest
  refine ⟨rest.length, Nat.le_refl _, ?_⟩
  obtain ⟨c, cs, rfl, hc⟩ := hused
  have hform := h rest hrest
  have hprimary : primary (expression depth) (c :: cs ++ rest) = .found e rest := by
    unfold primary
    rw [hform]
  rw [List.append_assoc, List.cons_append, skipGaps_start hgap hc]
  unfold suffixed
  rw [List.cons_append] at hprimary
  rw [hprimary]

end

section

open Word

theorem readsItems {items : List (Expr × List Word)}
    (h : ∀ item ∈ items, ∀ {cs : List Char}, Written item.2 cs →
      ∀ depth, cs.length ≤ depth → Reads depth (BinaryOp.levels + 1) item.1 cs)
    (depth : Nat) : ReadsItems depth items :=
  fun item hitem _ hcs hdepth => readsWhole (h item hitem hcs) hdepth

theorem ofWord_of_not_mem {name : String} (h : name ∉ keywords) :
    ofWord name = .identifier name := by
  simp only [keywords, List.mem_cons, List.not_mem_nil, or_false, not_or] at h
  unfold ofWord
  rw [if_neg h.1, if_neg h.2.1, if_neg h.2.2]

/-- The induction is on the derivation; the depth that brackets need is bounded by the length of the
text they stand in. -/
theorem Derives.reads {bound : Nat} {e : Expr} {ws : List Word} (h : Derives bound e ws) :
    ∀ {cs : List Char}, Written ws cs → ∀ depth, cs.length ≤ depth → Reads depth bound e cs := by
  induction h with
  | literal hw =>
    intro cs hcs depth _
    obtain ⟨gap, used, rest, rfl, hgap, hspelling, hnil⟩ := written_cons.1 hcs
    cases hnil
    rw [List.append_nil]
    exact reads_primary hgap (starts_of_denotes hw hspelling) fun rest hrest =>
      primaryForm_literal _ hw hspelling hrest
  | @identifier name hname hkeyword =>
    intro cs hcs depth _
    obtain ⟨gap, used, rest, rfl, hgap, hspelling, hnil⟩ := written_cons.1 hcs
    cases hnil
    cases hspelling
    rw [List.append_nil]
    have hword : ofWord name = .identifier name := ofWord_of_not_mem hkeyword
    refine reads_primary hgap (starts_of_isName hname) fun rest hrest => ?_
    rw [primaryForm_name _ hname hrest, hword]
  | list items h ih =>
    intro cs hcs depth hdepth
    obtain ⟨gap, inner, gap', rfl, hgap, hinner, hgap'⟩ := hcs.enclosed
    have hitems := readsItems ih depth
    have hlength := length_lt_enclosed gap (by decide : "[" ≠ "") inner (gap' ++ "]".toList)
    refine reads_primary hgap ⟨'[', inner ++ (gap' ++ [']']), rfl, by decide⟩ fun rest _ => ?_
    have hread := items_reads hitems hgap' List.mem_cons_self hinner (by omega) rest
    simpa using primaryForm_list _ hread
  | call hname arguments h ih =>
    intro cs hcs depth hdepth
    rw [List.cons_append] at hcs
    obtain ⟨gap, used, rest, rfl, hgap, hspelling, hrest⟩ := written_cons.1 hcs
    cases hspelling
    obtain ⟨before, inner, gap', rfl, hbefore, hinner, hgap'⟩ := hrest.enclosed
    have hitems := readsItems ih depth
    have hlength := length_lt_enclosed before (by decide : "(" ≠ "") inner (gap' ++ ")".toList)
    rw [List.length_append, List.length_append] at hdepth
    refine reads_primary hgap ?_ fun rest _ => ?_
    · obtain ⟨c, cs, hname, hc⟩ := starts_of_isName hname
      rw [hname]
      exact ⟨c, _, rfl, hc⟩
    · have hread := items_reads hitems hgap' (by decide : ')' ∈ [']', ')']) hinner (by omega) rest
      simpa using primaryForm_call _ hname hbefore hread
  | @bracketed e ws h ih =>
    intro cs hcs depth hdepth
    obtain ⟨gap, inner, gap', rfl, hgap, hinner, hgap'⟩ := hcs.enclosed
    have hlength := length_lt_enclosed gap (by decide : "(" ≠ "") inner (gap' ++ ")".toList)
    have hwhole : ReadsWhole depth e inner := readsWhole (ih hinner) (by omega)
    refine reads_primary hgap ⟨'(', inner ++ (gap' ++ [')']), rfl, by decide⟩ fun rest _ => ?_
    have hclose : Follows BinaryOp.levels (gap' ++ ')' :: rest) :=
      follows_close hgap' (by decide) rest
    have hread : expression depth (skipGaps (inner ++ (gap' ++ ')' :: rest))) =
        .found e (gap' ++ ')' :: rest) := by
      rw [expression_skipGaps]
      exact hwhole _ hclose
    simpa using primaryForm_bracketed _ hread (skipGaps_close hgap' (by decide) rest)
  | member h hname ih =>
    intro cs hcs depth hdepth
    obtain ⟨before, after, rfl, hbefore, hafter⟩ := hcs.split
    obtain ⟨gap, rest, rfl, hgap, hrest⟩ := written_symbol.1 hafter
    obtain ⟨gap', used, rest, rfl, hgap', hspelling, hnil⟩ := written_cons.1 hrest
    cases hnil
    cases hspelling
    rw [List.length_append] at hdepth
    have htarget := ih hbefore depth (by omega)
    simpa using htarget.member hname hgap hgap'
  | @index target key ws keyWords h hkey ih ihkey =>
    intro cs hcs depth hdepth
    rw [List.append_assoc] at hcs
    obtain ⟨before, after, rfl, hbefore, hafter⟩ := hcs.split
    obtain ⟨gap, inner, gap', rfl, hgap, hinner, hgap'⟩ := hafter.enclosed
    have hlength := length_lt_enclosed gap (by decide : "[" ≠ "") inner (gap' ++ "]".toList)
    rw [List.length_append] at hdepth
    have htarget := ih hbefore depth (by omega)
    have hwhole : ReadsWhole depth key inner := readsWhole (ihkey hinner) (by omega)
    exact htarget.index hwhole hgap hgap'
  | unary op h ih =>
    intro cs hcs depth hdepth
    obtain ⟨gap, rest, rfl, hgap, hrest⟩ := written_symbol.1 hcs
    simp only [List.length_append] at hdepth
    exact (ih hrest depth (by omega)).unary op hgap (h.head_ne hrest)
  | binary op hleft hright ihleft ihright =>
    intro cs hcs depth hdepth
    obtain ⟨before, after, rfl, hbefore, hafter⟩ := hcs.split
    obtain ⟨gap, rest, rfl, hgap, hrest⟩ := written_symbol.1 hafter
    simp only [List.length_append] at hdepth
    have hl := ihleft hbefore depth (by omega)
    have hr := ihright hrest depth (by omega)
    exact hl.binary hr hgap (hright.head_ne hrest)
  | @loosen bound e ws h ih =>
    intro cs hcs depth hdepth
    cases bound with
    | zero =>
      obtain ⟨gap, c, rest, hstart, hgap, hc, -⟩ := h.starts hcs
      have hc : startsPrimary c := by simpa [StartsAt] using hc
      exact (ih hcs depth hdepth).operand hgap hc hstart
    | succ level => exact (ih hcs depth hdepth).loosen

/-- A text that spells what the grammar derives is read as that. -/
theorem Derives.read {e : Expr} {ws : List Word} {text : List Char}
    (h : Derives (BinaryOp.levels + 1) e ws) (htext : Spelled ws text) : read text = .ok e := by
  obtain ⟨cs, gap, rfl, hcs, hgap⟩ := htext
  obtain ⟨before, c, rest, rfl, hbefore, hc, hrest⟩ := h.starts hcs
  have hstart : skipGaps (before ++ c :: rest ++ gap) = c :: rest ++ gap := by
    rw [List.append_assoc, skipGaps_append hbefore]
    exact skipGaps_cons (isGap_eq_false_of_startsAt hc) _
  have hdepth : (c :: rest).length < (c :: rest ++ gap).length + 1 := by
    rw [List.length_append]
    omega
  have hwhole : ReadsWhole ((c :: rest ++ gap).length + 1) e (c :: rest) :=
    readsWhole (h.reads hrest) hdepth
  unfold Expr.read
  rw [hstart]
  dsimp only
  rw [hwhole gap (follows_end hgap)]
  dsimp only
  rw [skipGaps_gap hgap]

end

end Phrasebook.Expr
