import Phrasebook.Proofs.Template.Grammar
import Phrasebook.Template.Reader

namespace Phrasebook

namespace Rule

variable {α : Type} {r : Rule α} {ts rest : List Token} {a : α} {as : List α} {kind : TokenKind}
  {t : Token}

theorem terminal_iff : terminal kind ts t rest ↔ ts = t :: rest ∧ t.kind = kind := by
  constructor
  · rintro ⟨h⟩
    exact ⟨rfl, h⟩
  · rintro ⟨rfl, h⟩
    exact .intro h

theorem many_cons_iff : many r ts (a :: as) rest ↔ ∃ mid, r ts a mid ∧ many r mid as rest := by
  constructor
  · intro h
    cases h with
    | cons h hmore => exact ⟨_, h, hmore⟩
  · rintro ⟨mid, h, hmore⟩
    exact .cons h hmore

theorem many1_iff : many1 r ts as rest ↔ as ≠ [] ∧ many r ts as rest := by
  constructor
  · rintro ⟨f, mid, as', ⟨a, ha, rfl⟩, has, rfl⟩
    exact ⟨List.cons_ne_nil _ _, .cons ha has⟩
  · rintro ⟨hne, h⟩
    cases h with
    | nil => contradiction
    | cons h hmore => exact ⟨_, _, _, ⟨_, h, rfl⟩, hmore, rfl⟩

end Rule

namespace Grammar

open Rule Template

variable {ts rest : List Token}

theorem expect_eq_ok_iff {kind : TokenKind} {t : Token} :
    expect kind ts = .ok (t, rest) ↔ terminal kind ts t rest := by
  rw [terminal_iff]
  cases ts with
  | nil => simp [expect]
  | cons u us =>
    rw [expect]
    split <;> grind

theorem endLine_eq_ok_iff : endLine ts = .ok rest ↔ newline ts () rest := by
  unfold endLine atLineEnd newline
  cases ts with
  | nil => simp [Token.nextKind, Token.peek, Token.endAt, terminal_iff, atEnd, afterNewline]
  | cons t ts =>
    simp only [Token.nextKind, Token.peek, afterNewline, orElse_iff, map_iff, terminal_iff, atEnd,
      List.head?_cons, Option.mem_some_iff, forall_eq']
    grind

theorem separated_iff {kind : TokenKind} {t : Token} :
    (terminal kind *> terminal .identifier) ts t rest ↔
      ∃ s, ts = s :: t :: rest ∧ s.kind = kind ∧ t.kind = .identifier := by
  simp only [seqRight_iff, terminal_iff]
  grind

theorem nameTail_stop {first : String} (h : Token.nextKind ts ≠ .dot) :
    nameTail first ts = .ok (first, ts) := by
  unfold nameTail
  split
  · rfl
  · exact if_neg h
  · exact if_neg h

/-- Two names joined by a dot count as the first of them from then on. -/
theorem intercalate_dot (first second : String) (names : List String) :
    ".".intercalate (first :: second :: names) =
      ".".intercalate ((first ++ "." ++ second) :: names) := rfl

/-- A dotted name is read as long as it goes on. -/
theorem nameTail_eq_ok_iff {first name : String} :
    nameTail first ts = .ok (name, rest) ↔
      (∃ more, many (terminal .dot *> terminal .identifier) ts more rest ∧
        ".".intercalate (first :: more.map Token.text) = name) ∧ Token.nextKind rest ≠ .dot := by
  constructor
  · intro h
    fun_induction nameTail first ts generalizing name with
    | case1 =>
      cases h
      exact ⟨⟨[], .nil, rfl⟩, by decide⟩
    | case2 => cases h
    | case3 first t hdot =>
      cases h
      exact ⟨⟨[], .nil, rfl⟩, hdot⟩
    | case4 first t u ts hdot hname ih =>
      obtain ⟨⟨more, hmore, hjoin⟩, hrest⟩ := ih h
      have hfirst : (terminal .dot *> terminal .identifier) (t :: u :: ts) u ts :=
        separated_iff.2 ⟨t, rfl, hdot, hname⟩
      exact ⟨⟨u :: more, .cons hfirst hmore, hjoin⟩, hrest⟩
    | case5 => cases h
    | case6 first t u ts hdot =>
      cases h
      exact ⟨⟨[], .nil, rfl⟩, hdot⟩
  · rintro ⟨⟨more, hmore, rfl⟩, hrest⟩
    induction hmore generalizing first with
    | nil => exact nameTail_stop hrest
    | @cons ts mid rest t more ht hmore ih =>
      obtain ⟨s, rfl, hdot, hname⟩ := separated_iff.1 ht
      rw [nameTail, if_pos hdot, if_pos hname, ih hrest, List.map_cons, intercalate_dot]

theorem readName_eq_ok_iff {first : String} :
    readName ts = .ok (first, rest) ↔ name ts first rest ∧ Token.nextKind rest ≠ .dot := by
  unfold readName name
  simp only [bind_eq_ok, Prod.exists, expect_eq_ok_iff, nameTail_eq_ok_iff, seq_iff, map_iff]
  constructor
  · rintro ⟨t, mid, ht, ⟨more, hmore, rfl⟩, hrest⟩
    exact ⟨⟨_, mid, more, ⟨t, ht, rfl⟩, hmore, rfl⟩, hrest⟩
  · rintro ⟨⟨_, mid, more, ⟨t, ht, rfl⟩, hmore, rfl⟩, hrest⟩
    exact ⟨t, mid, ht, ⟨more, hmore, rfl⟩, hrest⟩

/-- The parameters after the first go on up to the closing parenthesis. -/
theorem parameterTail_eq_ok_iff {names : List String} :
    parameterTail ts = .ok (names, rest) ↔
      ∃ more mid close, many (terminal .comma *> terminal .identifier) ts more mid ∧
        terminal .closeParen mid close rest ∧ more.map Token.text = names := by
  constructor
  · intro h
    fun_induction parameterTail ts generalizing names with
    | case3 t hcomma hclose =>
      cases h
      exact ⟨[], [t], t, .nil, .intro hclose, rfl⟩
    | case5 t u ts hcomma hname ih =>
      obtain ⟨⟨names', rest'⟩, htail, h⟩ := bind_eq_ok.1 h
      cases h
      obtain ⟨more, mid, close, hmore, hclose, rfl⟩ := ih htail
      have hfirst : (terminal .comma *> terminal .identifier) (t :: u :: ts) u ts :=
        separated_iff.2 ⟨t, rfl, hcomma, hname⟩
      exact ⟨u :: more, mid, close, .cons hfirst hmore, hclose, rfl⟩
    | case7 t u ts hcomma hclose =>
      cases h
      exact ⟨[], t :: u :: ts, t, .nil, .intro hclose, rfl⟩
    | _ => cases h
  · rintro ⟨more, mid, close, hmore, hclose, rfl⟩
    obtain ⟨rfl, hkind⟩ := terminal_iff.1 hclose
    clear hclose
    generalize hmid : close :: rest = mid at hmore
    induction hmore with
    | nil =>
      subst hmid
      cases rest <;> simp [parameterTail, hkind]
    | @cons ts mid' rest' t more ht hmore ih =>
      obtain ⟨s, rfl, hcomma, hname⟩ := separated_iff.1 ht
      rw [parameterTail, if_pos hcomma, if_pos hname, ih hmid]
      rfl

theorem nextKind_of_terminal {kind : TokenKind} {t : Token} (h : terminal kind ts t rest) :
    Token.nextKind ts = kind := by
  obtain ⟨rfl, hkind⟩ := terminal_iff.1 h
  exact hkind

theorem parameters_iff {names : List String} : parameters ts names rest ↔
    (∃ o mid first mid₁ more mid₂ close, terminal .openParen ts o mid ∧
      terminal .identifier mid first mid₁ ∧
      many (terminal .comma *> terminal .identifier) mid₁ more mid₂ ∧
      terminal .closeParen mid₂ close rest ∧ names = first.text :: more.map Token.text) ∨
    names = [] ∧ ts = rest := by
  simp only [parameters, orElse_iff, seqLeft_iff, seq_iff, map_iff, seqRight_iff, pure_iff]
  constructor
  · rintro (⟨mid₂, close, ⟨_, mid₁, more, ⟨first, ⟨mid, o, ho, hfirst⟩, rfl⟩, hmore, rfl⟩, hclose⟩ |
      ⟨rfl, rfl⟩)
    · exact .inl ⟨o, mid, first, mid₁, more, mid₂, close, ho, hfirst, hmore, hclose, rfl⟩
    · exact .inr ⟨rfl, rfl⟩
  · rintro (⟨o, mid, first, mid₁, more, mid₂, close, ho, hfirst, hmore, hclose, rfl⟩ | ⟨rfl, rfl⟩)
    · exact .inl ⟨mid₂, close, ⟨_, mid₁, more, ⟨first, ⟨mid, o, ho, hfirst⟩, rfl⟩, hmore, rfl⟩,
        hclose⟩
    · exact .inr ⟨rfl, rfl⟩

theorem readParameters_eq_ok_iff {names : List String} :
    readParameters ts = .ok (names, rest) ↔
      parameters ts names rest ∧ (names = [] → Token.nextKind rest ≠ .openParen) := by
  unfold readParameters
  rw [parameters_iff]
  by_cases hnext : Token.nextKind ts = .openParen
  · rw [if_pos hnext]
    simp only [bind_eq_ok, Prod.exists, expect_eq_ok_iff, parameterTail_eq_ok_iff]
    constructor
    · rintro ⟨o, mid, ho, first, mid₁, hfirst, _, _, ⟨more, mid₂, close, hmore, hclose, rfl⟩, h⟩
      cases h
      refine ⟨.inl ⟨o, mid, first, mid₁, more, mid₂, close, ho, hfirst, hmore, hclose, rfl⟩, ?_⟩
      exact fun hnil => absurd hnil (List.cons_ne_nil _ _)
    · rintro ⟨⟨o, mid, first, mid₁, more, mid₂, close, ho, hfirst, hmore, hclose, rfl⟩ | ⟨rfl, rfl⟩,
        hstop⟩
      · exact ⟨o, mid, ho, first, mid₁, hfirst, _, rest, ⟨more, mid₂, close, hmore, hclose, rfl⟩,
          rfl⟩
      · exact absurd hnext (hstop rfl)
  · rw [if_neg hnext]
    constructor
    · intro h
      cases h
      exact ⟨.inr ⟨rfl, rfl⟩, fun _ => hnext⟩
    · rintro ⟨⟨_, _, _, _, _, _, _, ho, -⟩ | ⟨rfl, rfl⟩, hstop⟩
      · exact absurd (nextKind_of_terminal ho) hnext
      · rfl

theorem plain_or_island {t : Token} (h : t.kind.isContent) :
    t.kind.isPlain ∨ ∃ s, segment? t = some s := by
  unfold segment?
  cases hkind : t.kind <;> simp_all [TokenKind.isContent, TokenKind.isPlain]

theorem isPlain_of_segment? {t : Token} {s : Segment} (h : segment? t = some s) :
    t.kind.isPlain = false := by
  unfold segment? at h
  cases hkind : t.kind <;> simp_all [TokenKind.isPlain]

theorem segments_island {t : Token} {s : Segment} (hs : segment? t = some s) (pending : String) :
    segments pending (t :: ts) =
      (if pending = "" then [] else [.text pending]) ++ s :: segments "" ts := by
  unfold segment? at hs
  rw [segments]
  cases hkind : t.kind <;> simp_all <;> split <;> simp_all

theorem segments_run {run : List Token} (hrun : ∀ t ∈ run, t.kind.isPlain) (pending : String) :
    segments pending (run ++ ts) =
      segments (run.foldl (fun text t => text ++ t.text) pending) ts := by
  induction run generalizing pending with
  | nil => rfl
  | cons t run ih =>
    rw [List.forall_mem_cons] at hrun
    have hplain := hrun.1
    have hstep : segments pending (t :: (run ++ ts)) =
        segments (pending ++ t.text) (run ++ ts) := by
      rw [segments]
      cases hkind : t.kind <;> simp_all [TokenKind.isPlain]
    rw [List.cons_append, hstep, ih hrun.2, List.foldl_cons]

theorem Joined.segments_eq {ss : List Segment} (h : Joined ts ss) : segments "" ts = ss := by
  induction h with
  | nil => rfl
  | island hs h ih =>
    rw [segments_island hs, ih]
    rfl
  | @plain run ts ss hne hrun hnext h ih =>
    have hjoin : run.foldl (fun text t => text ++ t.text) "" =
        String.join (run.map Token.text) := by
      rw [String.join, List.foldl_map]
    rw [segments_run hrun, hjoin, plainSegments, ← ih]
    cases h with
    | nil => simp [segments]
    | island hs h =>
      rw [segments_island hs, segments_island hs]
      rfl
    | @plain run' ts' ss' hne' hrun' =>
      obtain ⟨t, run', rfl⟩ := List.exists_cons_of_ne_nil hne'
      have hplain : t.kind.isPlain := hrun' t List.mem_cons_self
      have hhead : t.kind.isPlain = false := hnext t rfl
      rw [hplain] at hhead
      contradiction

/-- A plain token in front either goes on with the run that follows or is a run by itself. -/
theorem Joined.cons_plain {t : Token} {ss : List Segment} (ht : t.kind.isPlain)
    (h : Joined ts ss) : ∃ ss', Joined (t :: ts) ss' := by
  have hone : ∀ u ∈ [t], u.kind.isPlain := by simpa using ht
  cases h with
  | nil => exact ⟨_, .plain (List.cons_ne_nil t []) hone (by simp) .nil⟩
  | island hs h =>
    have hhead := isPlain_of_segment? hs
    exact ⟨_, .plain (List.cons_ne_nil t []) hone (by simpa using hhead) (.island hs h)⟩
  | @plain run ts ss hne hrun hnext h =>
    exact ⟨_, .plain (List.cons_ne_nil t run) (List.forall_mem_cons.2 ⟨ht, hrun⟩) hnext h⟩

theorem exists_joined (h : ∀ t ∈ ts, t.kind.isContent) : ∃ ss, Joined ts ss := by
  induction ts with
  | nil => exact ⟨[], .nil⟩
  | cons t ts ih =>
    rw [List.forall_mem_cons] at h
    obtain ⟨ss, hss⟩ := ih h.2
    rcases plain_or_island h.1 with hplain | ⟨s, hs⟩
    · exact hss.cons_plain hplain
    · exact ⟨s :: ss, .island hs hss⟩

theorem joined_segments (h : ∀ t ∈ ts, t.kind.isContent) : Joined ts (segments "" ts) := by
  obtain ⟨ss, hss⟩ := exists_joined h
  rw [hss.segments_eq]
  exact hss

theorem line_iff {l : Line} : line ts l rest ↔ ∃ dash used mid ss,
    ts = dash :: (used ++ mid) ∧ dash.kind = .dash ∧ (∀ t ∈ used, t.kind.isContent) ∧
      Joined used ss ∧ newline mid () rest ∧ l = ⟨ss, dash.location⟩ := by
  simp only [line, seqLeft_iff, seq_iff, map_iff, terminal_iff, content]
  constructor
  · rintro ⟨mid, ⟨⟩, ⟨_, _, ss, ⟨dash, ⟨rfl, hdash⟩, rfl⟩, ⟨used, rfl, hused, hss⟩, rfl⟩, hnewline⟩
    exact ⟨dash, used, mid, ss, rfl, hdash, hused, hss, hnewline, rfl⟩
  · rintro ⟨dash, used, mid, ss, rfl, hdash, hused, hss, hnewline, rfl⟩
    exact ⟨mid, (), ⟨_, _, ss, ⟨dash, ⟨rfl, hdash⟩, rfl⟩, ⟨used, rfl, hused, hss⟩, rfl⟩, hnewline⟩

theorem atLineEnd_of_newline (h : newline ts () rest) : atLineEnd ts ∧ afterNewline ts = rest := by
  have hok := endLine_eq_ok_iff.2 h
  unfold endLine at hok
  split at hok
  · rename_i hend
    cases hok
    exact ⟨hend, rfl⟩
  · contradiction

/-- What ends a line is neither content nor a blank nor a keyword. -/
theorem head_of_atLineEnd (h : atLineEnd ts) :
    ∀ t ∈ ts.head?, t.kind = .newline ∨ t.kind = .endOfInput := by
  cases ts with
  | nil => simp
  | cons t ts =>
    have hkind : Token.nextKind (t :: ts) = .newline ∨ Token.nextKind (t :: ts) = .endOfInput := by
      simpa [atLineEnd] using h
    intro u hu
    obtain rfl : t = u := by simpa using hu
    exact hkind

theorem content_append {used : List Token} (hused : ∀ t ∈ used, t.kind.isContent)
    (hmid : atLineEnd ts) :
    Template.content (used ++ ts) = used ∧ afterContent (used ++ ts) = ts := by
  unfold Template.content afterContent
  rw [List.takeWhile_append_of_pos hused, List.dropWhile_append_of_pos hused]
  cases ts with
  | nil => simp
  | cons t ts =>
    have hkind : t.kind.isContent = false := by
      rcases head_of_atLineEnd hmid t rfl with hkind | hkind <;> rw [hkind] <;> rfl
    simp [hkind]

/-- Behind a dash, neither content nor what ends a line is the keyword of a clause. -/
theorem startsLine_append {dash : Token} {used : List Token} (hdash : dash.kind = .dash)
    (hused : ∀ t ∈ used, t.kind.isContent) (hmid : atLineEnd ts) :
    startsLine (dash :: (used ++ ts)) = true ∧
      startsClause .caseKeyword (dash :: (used ++ ts)) = false := by
  have hnext : ∀ t ∈ (used ++ ts).head?, t.kind ≠ .caseKeyword ∧ t.kind ≠ .defaultKeyword := by
    intro t ht
    cases used with
    | nil =>
      rcases head_of_atLineEnd hmid t ht with hkind | hkind <;> rw [hkind] <;> decide
    | cons u used =>
      obtain rfl : u = t := by simpa using ht
      have hcontent := hused u List.mem_cons_self
      constructor <;> intro hkind <;> rw [hkind] at hcontent <;> contradiction
  generalize used ++ ts = tail at hnext
  cases tail with
  | nil => simp [startsLine, startsClause, Token.nextKind, Token.peek, hdash]
  | cons t tail =>
    obtain ⟨hcase, hdefault⟩ := hnext t rfl
    simp [startsLine, startsClause, Token.nextKind, Token.peek, hdash, hcase, hdefault]

theorem readLines_eq_ok_iff {ls : List Line} :
    readLines ts = .ok (ls, rest) ↔ many line ts ls rest ∧ startsLine rest = false := by
  constructor
  · intro h
    fun_induction readLines ts generalizing ls rest with
    | case1 =>
      cases h
      exact ⟨.nil, rfl⟩
    | case2 dash ts hstarts hend more rest' heq ih =>
      cases h
      obtain ⟨hmore, hstop⟩ := ih heq
      have hsplit : ts = Template.content ts ++ afterContent ts :=
        List.takeWhile_append_dropWhile.symm
      have hdash : dash.kind = .dash := by
        simp only [startsLine, Bool.and_eq_true, decide_eq_true_eq] at hstarts
        exact hstarts.1.1
      have hcontent : ∀ t ∈ Template.content ts, t.kind.isContent :=
        fun t ht => List.all_eq_true.1 List.all_takeWhile t ht
      have hnewline : newline (afterContent ts) () (afterNewline (afterContent ts)) := by
        apply endLine_eq_ok_iff.1
        unfold endLine
        rw [if_pos hend]
      have hline : line (dash :: ts) ⟨segments "" (Template.content ts), dash.location⟩
          (afterNewline (afterContent ts)) :=
        line_iff.2 ⟨dash, _, _, _, congrArg (dash :: ·) hsplit, hdash, hcontent,
          joined_segments hcontent, hnewline, rfl⟩
      exact ⟨.cons hline hmore, hstop⟩
    | case3 => cases h
    | case4 => cases h
    | case5 dash ts hstop =>
      cases h
      exact ⟨.nil, by simpa using hstop⟩
  · rintro ⟨hmany, hstop⟩
    induction hmany with
    | @nil ts =>
      cases ts with
      | nil => rw [readLines]
      | cons dash ts => rw [readLines, if_neg (by simp [hstop])]
    | cons hline hmore ih =>
      obtain ⟨dash, used, mid, ss, rfl, hdash, hused, hss, hnewline, rfl⟩ := line_iff.1 hline
      obtain ⟨hend, hafter⟩ := atLineEnd_of_newline hnewline
      obtain ⟨hcontent, hrest⟩ := content_append hused hend
      rw [readLines, if_pos (startsLine_append hdash hused hend).1, hcontent, hrest, if_pos hend,
        hafter, ih hstop, hss.segments_eq]

theorem readBodyLines_eq_ok_iff {ls : List Line} :
    readBodyLines ts = .ok (ls, rest) ↔ lines ts ls rest ∧ startsLine rest = false := by
  unfold readBodyLines lines
  rw [many1_iff, and_assoc, ← readLines_eq_ok_iff]
  cases hread : readLines ts with
  | error e => simp
  | ok found =>
    obtain ⟨ls', rest'⟩ := found
    cases ls' with
    | nil => simp +contextual
    | cons l ls' => simp +contextual [eq_comm]

theorem blanks_skipBlanks (ts : List Token) : ∃ bs, blanks ts bs (skipBlanks ts) := by
  unfold blanks skipBlanks
  induction ts with
  | nil => exact ⟨[], .nil⟩
  | cons t ts ih =>
    by_cases hblank : t.kind = .blanks
    · obtain ⟨bs, hbs⟩ := ih
      rw [List.dropWhile_cons_of_pos (by simpa using hblank)]
      exact ⟨t :: bs, .cons (.intro hblank) hbs⟩
    · rw [List.dropWhile_cons_of_neg (by simpa using hblank)]
      exact ⟨[], .nil⟩

/-- The blanks behind the head of a clause are those in front of the newline. -/
theorem endLine_skipBlanks_iff :
    endLine (skipBlanks ts) = .ok rest ↔ ∃ mid bs, blanks ts bs mid ∧ newline mid () rest := by
  constructor
  · intro h
    obtain ⟨bs, hbs⟩ := blanks_skipBlanks ts
    exact ⟨_, bs, hbs, endLine_eq_ok_iff.1 h⟩
  · rintro ⟨mid, bs, hbs, hnewline⟩
    induction hbs with
    | @nil ts =>
      have hend := (atLineEnd_of_newline hnewline).1
      have hskip : skipBlanks ts = ts := by
        cases ts with
        | nil => rfl
        | cons t ts =>
          apply List.dropWhile_cons_of_neg
          rcases head_of_atLineEnd hend t rfl with hkind | hkind <;> simp [hkind]
      rw [hskip]
      exact endLine_eq_ok_iff.2 hnewline
    | cons ht hbs ih =>
      obtain ⟨rfl, hblank⟩ := terminal_iff.1 ht
      rw [skipBlanks, List.dropWhile_cons_of_pos (by simpa using hblank)]
      exact ih hnewline

theorem readCondition_eq_ok_iff {condition : String} :
    readCondition ts = .ok (condition, rest) ↔
      ∃ t mid mid' bs, terminal .expression ts t mid ∧ blanks mid bs mid' ∧
        newline mid' () rest ∧ (Segment.expression t.text).inner = condition := by
  unfold readCondition
  simp only [bind_eq_ok, Prod.exists, expect_eq_ok_iff, endLine_skipBlanks_iff]
  constructor
  · rintro ⟨t, mid, ht, rest', ⟨mid', bs, hbs, hnewline⟩, h⟩
    cases h
    exact ⟨t, mid, mid', bs, ht, hbs, hnewline, rfl⟩
  · rintro ⟨t, mid, mid', bs, ht, hbs, hnewline, rfl⟩
    exact ⟨t, mid, ht, rest, ⟨mid', bs, hbs, hnewline⟩, rfl⟩

theorem startsClause_iff {keyword : TokenKind} : startsClause keyword ts = true ↔
    ∃ dash k tail, ts = dash :: k :: tail ∧ dash.kind = .dash ∧ k.kind = keyword := by
  match ts with
  | [] => simp [startsClause]
  | [t] => simp [startsClause]
  | t :: u :: tail =>
    simp only [startsClause, Bool.and_eq_true, decide_eq_true_eq]
    grind

theorem startsLine_of_startsClause {keyword : TokenKind} (h : startsClause keyword ts = true)
    (hkeyword : keyword = .caseKeyword ∨ keyword = .defaultKeyword) : startsLine ts = false := by
  rcases hkeyword with rfl | rfl <;> simp [startsLine, h]

theorem caseRule_iff {clause : Clause} : caseRule ts clause rest ↔
    ∃ dash keyword tail condition mid ls, ts = dash :: keyword :: tail ∧ dash.kind = .dash ∧
      keyword.kind = .caseKeyword ∧ readCondition tail = .ok (condition, mid) ∧ lines mid ls rest ∧
        clause = ⟨some condition, ls, dash.location⟩ := by
  simp only [caseRule, seqLeft_iff, seq_iff, map_iff, terminal_iff, readCondition_eq_ok_iff]
  constructor
  · rintro ⟨_, mid, ls, ⟨mid₁, ⟨⟩, ⟨mid₂, bs, ⟨_, _, t, ⟨_, keyword, ⟨dash, ⟨rfl, hdash⟩, rfl⟩, rfl,
      hkeyword⟩, ⟨rfl, ht⟩, rfl⟩, hbs⟩, hnewline⟩, hls, rfl⟩
    exact ⟨dash, keyword, _, _, mid, ls, rfl, hdash, hkeyword,
      ⟨t, _, mid₁, bs, ⟨rfl, ht⟩, hbs, hnewline, rfl⟩, hls, rfl⟩
  · rintro ⟨dash, keyword, tail, condition, mid, ls, rfl, hdash, hkeyword,
      ⟨t, _, mid₁, bs, ⟨rfl, ht⟩, hbs, hnewline, rfl⟩, hls, rfl⟩
    exact ⟨_, mid, ls, ⟨mid₁, (), ⟨_, bs, ⟨_, _, t, ⟨_, keyword, ⟨dash, ⟨rfl, hdash⟩, rfl⟩, rfl,
      hkeyword⟩, ⟨rfl, ht⟩, rfl⟩, hbs⟩, hnewline⟩, hls, rfl⟩

theorem defaultRule_iff {clause : Clause} : defaultRule ts clause rest ↔
    ∃ dash keyword tail mid ls, ts = dash :: keyword :: tail ∧ dash.kind = .dash ∧
      keyword.kind = .defaultKeyword ∧ endLine (skipBlanks tail) = .ok mid ∧ lines mid ls rest ∧
        clause = ⟨none, ls, dash.location⟩ := by
  simp only [defaultRule, seqLeft_iff, seq_iff, map_iff, terminal_iff, endLine_skipBlanks_iff]
  constructor
  · rintro ⟨_, mid, ls, ⟨mid₁, ⟨⟩, ⟨mid₂, bs, ⟨_, keyword, ⟨dash, ⟨rfl, hdash⟩, rfl⟩, rfl,
      hkeyword⟩, hbs⟩, hnewline⟩, hls, rfl⟩
    exact ⟨dash, keyword, _, mid, ls, rfl, hdash, hkeyword, ⟨mid₁, bs, hbs, hnewline⟩, hls, rfl⟩
  · rintro ⟨dash, keyword, tail, mid, ls, rfl, hdash, hkeyword, ⟨mid₁, bs, hbs, hnewline⟩, hls, rfl⟩
    exact ⟨_, mid, ls, ⟨mid₁, (), ⟨_, bs, ⟨_, keyword, ⟨dash, ⟨rfl, hdash⟩, rfl⟩, rfl,
      hkeyword⟩, hbs⟩, hnewline⟩, hls, rfl⟩

theorem startsClause_of_caseRule {clause : Clause} (h : caseRule ts clause rest) :
    startsClause .caseKeyword ts = true := by
  obtain ⟨dash, keyword, tail, -, -, -, rfl, hdash, hkeyword, -⟩ := caseRule_iff.1 h
  exact startsClause_iff.2 ⟨dash, keyword, tail, rfl, hdash, hkeyword⟩

theorem startsClause_of_defaultRule {clause : Clause} (h : defaultRule ts clause rest) :
    startsClause .defaultKeyword ts = true ∧ startsClause .caseKeyword ts = false := by
  obtain ⟨dash, keyword, tail, -, -, rfl, hdash, hkeyword, -⟩ := defaultRule_iff.1 h
  exact ⟨startsClause_iff.2 ⟨dash, keyword, tail, rfl, hdash, hkeyword⟩, by
    simp [startsClause, hkeyword]⟩

theorem readCases_stop (h : startsClause .caseKeyword ts = false) :
    readCases ts = .ok ([], ts) := by
  match ts with
  | [] => rw [readCases]; simp
  | [t] => rw [readCases]; simp
  | t :: u :: tail => rw [readCases, if_neg (by simp [h])]

theorem startsLine_of_caseRule {clause : Clause} (h : caseRule ts clause rest) :
    startsLine ts = false :=
  startsLine_of_startsClause (startsClause_of_caseRule h) (.inl rfl)

/-- Cases are read as long as they go on; behind the last of them no further line of it may
start. -/
theorem readCases_eq_ok_iff {cases : List Clause} :
    readCases ts = .ok (cases, rest) ↔ many caseRule ts cases rest ∧
      startsClause .caseKeyword rest = false ∧ (cases ≠ [] → startsLine rest = false) := by
  constructor
  · intro h
    fun_induction readCases ts generalizing cases rest with
    | case4 dash keyword tail hstarts condition mid hcondition ls mid' hlines more rest' heq ih =>
      cases h
      obtain ⟨hmore, hstop, hline⟩ := ih heq
      obtain ⟨hls, hafter⟩ := readBodyLines_eq_ok_iff.1 hlines
      obtain ⟨_, _, _, hts, hdash, hkeyword⟩ := startsClause_iff.1 hstarts
      cases hts
      have hcase := caseRule_iff.2
        ⟨dash, keyword, tail, condition, mid, ls, rfl, hdash, hkeyword, hcondition, hls, rfl⟩
      refine ⟨.cons hcase hmore, hstop, fun _ => ?_⟩
      cases more with
      | nil =>
        cases hmore
        exact hafter
      | cons clause more => exact hline (List.cons_ne_nil _ _)
    | case5 dash keyword tail hstop =>
      cases h
      exact ⟨.nil, by simpa using hstop, fun hne => absurd rfl hne⟩
    | case6 other hshort =>
      cases h
      have hstop : startsClause .caseKeyword other = false := by
        cases other with
        | nil => rfl
        | cons t others =>
          cases others with
          | nil => rfl
          | cons u tail => exact absurd rfl (hshort t u tail)
      exact ⟨.nil, hstop, fun hne => absurd rfl hne⟩
    | _ => cases h
  · rintro ⟨hmany, hstop, hline⟩
    induction hmany with
    | nil => exact readCases_stop hstop
    | @cons ts mid rest clause more hcase hmore ih =>
      have hread := ih hstop fun _ => hline (List.cons_ne_nil _ _)
      have hmid : startsLine mid = false := by
        cases hmore with
        | nil => exact hline (List.cons_ne_nil _ _)
        | cons hnext _ => exact startsLine_of_caseRule hnext
      have hstarts := startsClause_of_caseRule hcase
      obtain ⟨dash, keyword, tail, condition, mid', ls, rfl, -, -, hcondition, hls, rfl⟩ :=
        caseRule_iff.1 hcase
      have hlines := readBodyLines_eq_ok_iff.2 ⟨hls, hmid⟩
      rw [readCases, if_pos hstarts]
      split
      · simp_all
      · split
        · simp_all
        · simp_all

theorem readDefault_eq_ok_iff {clause : Clause} : readDefault ts = .ok (clause, rest) ↔
    defaultRule ts clause rest ∧ startsLine rest = false := by
  constructor
  · intro h
    unfold readDefault at h
    split at h
    · rename_i dash keyword tail
      split at h
      · rename_i hstarts
        obtain ⟨mid, hend, h⟩ := bind_eq_ok.1 h
        obtain ⟨⟨ls, rest'⟩, hlines, h⟩ := bind_eq_ok.1 h
        cases h
        obtain ⟨hls, hafter⟩ := readBodyLines_eq_ok_iff.1 hlines
        obtain ⟨_, _, _, hts, hdash, hkeyword⟩ := startsClause_iff.1 hstarts
        cases hts
        have hdefault := defaultRule_iff.2
          ⟨dash, keyword, tail, mid, ls, rfl, hdash, hkeyword, hend, hls, rfl⟩
        exact ⟨hdefault, hafter⟩
      · cases h
    · cases h
  · rintro ⟨hdefault, hafter⟩
    have hstarts := (startsClause_of_defaultRule hdefault).1
    obtain ⟨dash, keyword, tail, mid, ls, rfl, -, -, hend, hls, rfl⟩ := defaultRule_iff.1 hdefault
    have hlines := readBodyLines_eq_ok_iff.2 ⟨hls, hafter⟩
    rw [readDefault, if_pos hstarts]
    exact bind_eq_ok.2 ⟨_, hend, bind_eq_ok.2 ⟨_, hlines, rfl⟩⟩

/-- A line starts with a dash that no keyword of a clause follows. -/
theorem startsLine_of_line {l : Line} (h : line ts l rest) :
    startsLine ts = true ∧ startsClause .caseKeyword ts = false := by
  obtain ⟨dash, used, mid, ss, rfl, hdash, hused, -, hnewline, -⟩ := line_iff.1 h
  exact startsLine_append hdash hused (atLineEnd_of_newline hnewline).1

theorem body_iff {b : Body} : body ts b rest ↔ (∃ ls, lines ts ls rest ∧ b = .choice ls) ∨
    ∃ cases mid otherwise, cases ≠ [] ∧ many caseRule ts cases mid ∧
      defaultRule mid otherwise rest ∧ b = .conditional cases otherwise := by
  simp only [body, orElse_iff, map_iff, seq_iff, many1_iff]
  constructor
  · rintro (⟨ls, hls, rfl⟩ | ⟨_, mid, otherwise, ⟨cases, ⟨hne, hcases⟩, rfl⟩, hdefault, rfl⟩)
    · exact .inl ⟨ls, hls, rfl⟩
    · exact .inr ⟨cases, mid, otherwise, hne, hcases, hdefault, rfl⟩
  · rintro (⟨ls, hls, rfl⟩ | ⟨cases, mid, otherwise, hne, hcases, hdefault, rfl⟩)
    · exact .inl ⟨ls, hls, rfl⟩
    · exact .inr ⟨_, mid, otherwise, ⟨cases, ⟨hne, hcases⟩, rfl⟩, hdefault, rfl⟩

/-- The first token behind the dash tells the two forms of a body apart. -/
theorem startsClause_of_lines {ls : List Line} (h : lines ts ls rest) :
    startsClause .caseKeyword ts = false := by
  obtain ⟨hne, hls⟩ := many1_iff.1 h
  obtain ⟨l, more, rfl⟩ := List.exists_cons_of_ne_nil hne
  obtain ⟨mid, hline, -⟩ := many_cons_iff.1 hls
  exact (startsLine_of_line hline).2

theorem startsClause_of_cases {cases : List Clause} (hne : cases ≠ [])
    (h : many caseRule ts cases rest) : startsClause .caseKeyword ts = true := by
  obtain ⟨clause, more, rfl⟩ := List.exists_cons_of_ne_nil hne
  obtain ⟨mid, hcase, -⟩ := many_cons_iff.1 h
  exact startsClause_of_caseRule hcase

theorem readBody_eq_ok_iff {b : Body} :
    readBody ts = .ok (b, rest) ↔ body ts b rest ∧ startsLine rest = false := by
  unfold readBody
  rw [body_iff]
  by_cases hstarts : startsClause .caseKeyword ts = true
  · rw [if_pos hstarts]
    simp only [bind_eq_ok, Prod.exists, readCases_eq_ok_iff, readDefault_eq_ok_iff]
    constructor
    · rintro ⟨cases, mid, ⟨hcases, hstop, hline⟩, otherwise, rest', ⟨hdefault, hafter⟩, h⟩
      cases h
      have hne : cases ≠ [] := by
        rintro rfl
        cases hcases
        rw [hstarts] at hstop
        contradiction
      exact ⟨.inr ⟨cases, mid, otherwise, hne, hcases, hdefault, rfl⟩, hafter⟩
    · rintro ⟨⟨ls, hls, rfl⟩ | ⟨cases, mid, otherwise, hne, hcases, hdefault, rfl⟩, hafter⟩
      · rw [startsClause_of_lines hls] at hstarts
        contradiction
      · have hstop := startsClause_of_defaultRule hdefault
        have hline := startsLine_of_startsClause hstop.1 (.inr rfl)
        have hread := And.intro hcases (And.intro hstop.2 fun _ : cases ≠ [] => hline)
        exact ⟨cases, mid, hread, otherwise, rest, ⟨hdefault, hafter⟩, rfl⟩
  · rw [if_neg hstarts]
    simp only [bind_eq_ok, Prod.exists, readBodyLines_eq_ok_iff]
    constructor
    · rintro ⟨ls, rest', ⟨hls, hafter⟩, h⟩
      cases h
      exact ⟨.inl ⟨ls, hls, rfl⟩, hafter⟩
    · rintro ⟨⟨ls, hls, rfl⟩ | ⟨cases, mid, otherwise, hne, hcases, -, rfl⟩, hafter⟩
      · exact ⟨ls, rest, ⟨hls, hafter⟩, rfl⟩
      · exact absurd (startsClause_of_cases hne hcases) hstarts

theorem definition_iff {hash : Token} (hhash : hash.kind = .hash) {t : Template} :
    definition (hash :: ts) t rest ↔ ∃ n mid ps mid₁ mid₂ b, name ts n mid ∧
      parameters mid ps mid₁ ∧ newline mid₁ () mid₂ ∧ body mid₂ b rest ∧
        t = ⟨n, ps, b, hash.location⟩ := by
  simp only [definition, seqLeft_iff, seq_iff, map_iff, terminal_iff]
  constructor
  · rintro ⟨_, mid₂, b, ⟨mid₁, ⟨⟩, ⟨_, mid, ps, ⟨_, _, n, ⟨_, ⟨hts, -⟩, rfl⟩, hname, rfl⟩, hps,
      rfl⟩, hnewline⟩, hbody, rfl⟩
    cases hts
    exact ⟨n, mid, ps, mid₁, mid₂, b, hname, hps, hnewline, hbody, rfl⟩
  · rintro ⟨n, mid, ps, mid₁, mid₂, b, hname, hps, hnewline, hbody, rfl⟩
    exact ⟨_, mid₂, b, ⟨mid₁, (), ⟨_, mid, ps, ⟨_, _, n, ⟨hash, ⟨rfl, hhash⟩, rfl⟩, hname, rfl⟩,
      hps, rfl⟩, hnewline⟩, hbody, rfl⟩

theorem nextKind_of_newline (h : newline ts () rest) :
    Token.nextKind ts = .newline ∨ Token.nextKind ts = .endOfInput := by
  have hend := (atLineEnd_of_newline h).1
  simpa [atLineEnd] using hend

/-- The head of a definition ends its line, so its name and its parameters end where they are read
to end. -/
theorem head_stops {ps : List String} {mid : List Token} (hps : parameters ts ps mid)
    (hnewline : newline mid () rest) :
    Token.nextKind ts ≠ .dot ∧ (ps = [] → Token.nextKind mid ≠ .openParen) := by
  have hend := nextKind_of_newline hnewline
  have hmid : Token.nextKind mid ≠ .openParen := by
    rcases hend with hend | hend <;> rw [hend] <;> decide
  refine ⟨?_, fun _ => hmid⟩
  rcases parameters_iff.1 hps with ⟨_, _, _, _, _, _, _, hopen, -⟩ | ⟨-, rfl⟩
  · rw [nextKind_of_terminal hopen]
    decide
  · rcases hend with hend | hend <;> rw [hend] <;> decide

theorem readDefinition_eq_ok_iff {hash : Token} (hhash : hash.kind = .hash) {t : Template} :
    readDefinition hash.location ts = .ok (t, rest) ↔
      definition (hash :: ts) t rest ∧ startsLine rest = false := by
  unfold readDefinition
  simp only [definition_iff hhash, bind_eq_ok, Prod.exists, readName_eq_ok_iff,
    readParameters_eq_ok_iff, endLine_eq_ok_iff, readBody_eq_ok_iff]
  constructor
  · rintro ⟨n, mid, ⟨hname, -⟩, ps, mid₁, ⟨hps, -⟩, mid₂, hnewline, b, rest', ⟨hbody, hafter⟩, h⟩
    cases h
    exact ⟨⟨n, mid, ps, mid₁, mid₂, b, hname, hps, hnewline, hbody, rfl⟩, hafter⟩
  · rintro ⟨⟨n, mid, ps, mid₁, mid₂, b, hname, hps, hnewline, hbody, rfl⟩, hafter⟩
    obtain ⟨hdot, hopen⟩ := head_stops hps hnewline
    exact ⟨n, mid, ⟨hname, hdot⟩, ps, mid₁, ⟨hps, hopen⟩, mid₂, hnewline, b, rest,
      ⟨hbody, hafter⟩, rfl⟩

theorem paragraph_iff {p : Option Template} : paragraph ts p rest ↔
    (newline ts () rest ∧ p = none) ∨ ∃ t, definition ts t rest ∧ p = some t := by
  simp only [paragraph, orElse_iff, map_iff]
  grind

theorem head_of_definition {t : Template} (h : definition ts t rest) :
    ∃ hash tail, ts = hash :: tail ∧ hash.kind = .hash := by
  obtain ⟨_, _, _, ⟨_, _, ⟨_, _, _, ⟨_, _, _, ⟨hash, hhash, _⟩, _⟩, _⟩, _⟩, _⟩ := h
  obtain ⟨rfl, hkind⟩ := terminal_iff.1 hhash
  exact ⟨hash, _, rfl, hkind⟩

/-- No paragraph starts with a line of a body. -/
theorem startsLine_of_paragraph {p : Option Template} (h : paragraph ts p rest) :
    startsLine ts = false := by
  have hkind : Token.nextKind ts ≠ .dash := by
    rcases paragraph_iff.1 h with ⟨hnewline, -⟩ | ⟨t, hdefinition, -⟩
    · rcases nextKind_of_newline hnewline with hkind | hkind <;> rw [hkind] <;> decide
    · obtain ⟨hash, tail, rfl, hhash⟩ := head_of_definition hdefinition
      rw [Token.nextKind, Token.peek, hhash]
      decide
  simp [startsLine, hkind]

theorem readAll_of_endOfInput (h : Token.nextKind ts = .endOfInput) : readAll ts = .ok [] := by
  cases ts with
  | nil => rw [readAll]
  | cons t ts =>
    have hkind : t.kind = .endOfInput := h
    rw [readAll, hkind]

/-- The paragraphs are read up to the first token that marks the end of the input. -/
theorem readAll_eq_ok_iff {templates : List Template} : readAll ts = .ok templates ↔
    ∃ ps rest, many paragraph ts ps rest ∧ Token.nextKind rest = .endOfInput ∧
      ps.filterMap id = templates := by
  constructor
  · intro h
    fun_induction readAll ts generalizing templates with
    | case1 =>
      cases h
      exact ⟨[], [], .nil, rfl, rfl⟩
    | case2 t ts hkind ih =>
      obtain ⟨ps, rest, hps, hrest, rfl⟩ := ih h
      have hnewline : paragraph (t :: ts) none ts :=
        paragraph_iff.2 (.inl ⟨.inl ⟨t, .intro hkind, rfl⟩, rfl⟩)
      exact ⟨none :: ps, rest, .cons hnewline hps, hrest, rfl⟩
    | case3 t ts hkind =>
      cases h
      exact ⟨[], t :: ts, .nil, hkind, rfl⟩
    | case4 => cases h
    | case5 => cases h
    | case6 t ts hkind template mid hread more heq ih =>
      cases h
      obtain ⟨ps, rest, hps, hrest, rfl⟩ := ih heq
      have hdefinition := ((readDefinition_eq_ok_iff hkind).1 hread).1
      have hparagraph := paragraph_iff.2 (.inr ⟨template, hdefinition, rfl⟩)
      exact ⟨some template :: ps, rest, .cons hparagraph hps, hrest, rfl⟩
    | case7 => cases h
  · rintro ⟨ps, rest, hps, hrest, rfl⟩
    induction hps with
    | nil => exact readAll_of_endOfInput hrest
    | @cons ts mid rest p ps hp hps ih =>
      have hread := ih hrest
      rcases paragraph_iff.1 hp with ⟨⟨t, ht, -⟩ | ⟨hend, rfl⟩, rfl⟩ | ⟨template, hdefinition, rfl⟩
      · obtain ⟨rfl, hkind⟩ := terminal_iff.1 ht
        rw [readAll, hkind]
        exact hread
      · exact hread
      · have hmid : startsLine mid = false := by
          cases hps with
          | nil => simp [startsLine, hrest]
          | cons hnext _ => exact startsLine_of_paragraph hnext
        obtain ⟨hash, tail, rfl, hhash⟩ := head_of_definition hdefinition
        have hbody := (readDefinition_eq_ok_iff hhash).2 ⟨hdefinition, hmid⟩
        rw [readAll, hhash]
        simp only
        split <;> simp_all

end Grammar

end Phrasebook
