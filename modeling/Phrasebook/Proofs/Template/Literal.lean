import Phrasebook.Engine
import Phrasebook.Proofs.Evaluator.Discipline
import Phrasebook.Proofs.Registry.Loading
import Phrasebook.Proofs.Template.Recognition
import Phrasebook.Proofs.Token.Concatenation

namespace Phrasebook

namespace Text

/-- The characters that a backslash takes their meaning from. -/
def special : List Char := ['{', '}', '[', ']', '\\', '\x60', '-', '#']

/-- A backslash in front of every special character. -/
def escape (text : List Char) : List Char :=
  text.flatMap fun c => if c ∈ special then ['\\', c] else [c]

@[simp] theorem escape_nil : escape [] = [] := rfl

theorem escape_special {c : Char} (cs : List Char) (h : c ∈ special) :
    escape (c :: cs) = '\\' :: c :: escape cs := by
  rw [escape, List.flatMap_cons, if_pos h]
  rfl

theorem escape_other {c : Char} (cs : List Char) (h : c ∉ special) :
    escape (c :: cs) = c :: escape cs := by
  rw [escape, List.flatMap_cons, if_neg h]
  rfl

theorem takeWhile_escape {p : Char → Bool} (hline : p '\n' = false)
    (hspecial : ∀ c, p c = true → c ∉ special) (cs rest : List Char) :
    (escape cs ++ '\n' :: rest).takeWhile p = cs.takeWhile p ∧
      (escape cs ++ '\n' :: rest).dropWhile p = escape (cs.dropWhile p) ++ '\n' :: rest := by
  induction cs with
  | nil => simp [hline]
  | cons c cs ih =>
    by_cases hc : c ∈ special
    · have hslash : p '\\' = false := by
        by_contra h
        exact hspecial '\\' (by simpa using h) (by decide)
      have hstop : p c = false := by
        by_contra h
        exact hspecial c (by simpa using h) hc
      simp [escape_special cs hc, hslash, hstop]
    · rw [escape_other cs hc, List.cons_append]
      cases hp : p c
      · simp [hp, escape_other cs hc]
      · simp [hp, ih]

theorem head?_escape (c : Char) (cs : List Char) :
    (escape (c :: cs)).head? = some (if c ∈ special then '\\' else c) := by
  by_cases hc : c ∈ special
  · rw [escape_special cs hc, if_pos hc]
    rfl
  · rw [escape_other cs hc, if_neg hc]
    rfl

/-- A word without special characters begins the text whether that is escaped or not. -/
theorem isPrefixOf_escape {word : List Char} (hword : ∀ c ∈ word, c ∉ special) (cs : List Char) :
    word.isPrefixOf (escape cs) = word.isPrefixOf cs := by
  induction word generalizing cs with
  | nil => simp
  | cons d word ih =>
    rw [List.forall_mem_cons] at hword
    cases cs with
    | nil => rfl
    | cons c cs =>
      by_cases hc : c ∈ special
      · have hd : (d == '\\') = false ∧ (d == c) = false := by
          refine ⟨?_, ?_⟩ <;> rw [beq_eq_false_iff_ne] <;> rintro rfl
          · exact hword.1 (by decide)
          · exact hword.1 hc
        rw [escape_special cs hc, List.isPrefixOf, List.isPrefixOf, hd.1, hd.2]
        rfl
      · rw [escape_other cs hc, List.isPrefixOf, List.isPrefixOf, ih hword.2]

/-- Text of one line that does not stop within the end of the line. -/
structure Whole (text : List Char) : Prop where
  line : '\n' ∉ text
  complete : text.getLast? ≠ some '\r'

theorem Whole.of_append {front back : List Char} (h : Whole (front ++ back)) : Whole back where
  line hback := h.line (List.mem_append_right _ hback)
  complete hback := h.complete (by rw [List.getLast?_append, hback, Option.some_or])

/-- A text that can stand behind the dash of a line: neither blanks nor the keyword of a clause are
in front. -/
structure Literal (text : List Char) : Prop extends Whole text where
  start : text.head? ≠ some ' ' ∧ text.head? ≠ some '\t'
  word : ∀ word ∈ ["CASE:", "case:", "DEFAULT:", "default:"], ¬ word.toList <+: text

end Text

namespace Token

open Text

/-- Plain tokens whose texts make up the text. -/
structure Spell (run : List Token) (text : List Char) : Prop where
  plain : ∀ t ∈ run, t.kind.isPlain
  text : String.join (run.map Token.text) = String.ofList text

theorem Spell.nil : Spell [] [] := ⟨by simp, rfl⟩

theorem Spell.cons {t : Token} {run : List Token} {front back : List Char} (ht : t.kind.isPlain)
    (htext : t.text = String.ofList front) (h : Spell run back) :
    Spell (t :: run) (front ++ back) where
  plain := List.forall_mem_cons.2 ⟨ht, h.plain⟩
  text := by rw [List.map_cons, String.join_cons, htext, h.text, String.ofList_append]

theorem mem_special_iff {c : Char} : c ∈ special ↔ isEscapable c = true := by
  simp [special, isEscapable]

theorem not_fence {c : Char} (cs : List Char) (hc : c ∉ special) :
    fence.isPrefixOf (c :: cs) = false := by
  have hne : ('\x60' == c) = false := by
    rw [beq_eq_false_iff_ne]
    rintro rfl
    exact hc (by decide)
  rw [fence, List.isPrefixOf, hne, Bool.false_and]

/-- The characters of a text that a run of text goes over. -/
def runsOn (c : Char) : Bool := !endsText c && !isEscapable c

/-- No fence stands in an escaped text, so a run of text ends where its characters do. -/
theorem textLength_escape (cs rest : List Char) :
    textLength (escape cs ++ '\n' :: rest) = runLength runsOn cs := by
  induction cs with
  | nil => rfl
  | cons c cs ih =>
    unfold runLength at ih ⊢
    by_cases hc : c ∈ special
    · have hstop : runsOn c = false := by simp [runsOn, mem_special_iff.1 hc]
      rw [escape_special cs hc, List.takeWhile_cons, hstop]
      rfl
    · have hstop : runsOn c = !endsText c := by simp [runsOn, mt mem_special_iff.2 hc]
      rw [escape_other cs hc, List.cons_append, textLength, not_fence _ hc, ih, List.takeWhile_cons,
        hstop, Bool.or_false]
      cases endsText c <;> rfl

/-- The region behind the first character of the content of a line. -/
abbrev inLine : Region := .line false false

/-- A run of characters is one token; what follows starts with the rest of the text. -/
theorem scan_run {p : Char → Bool} {c : Char} {cs rest : List Char} {kind : TokenKind}
    (hline : p '\n' = false) (hspecial : ∀ d, p d = true → d ∉ special)
    (h : step inLine c (escape cs ++ '\n' :: rest) =
      .ok ⟨.token kind, runLength p cs, inLine⟩) (place : Position) :
    scan inLine place (c :: (escape cs ++ '\n' :: rest)) =
      (scan inLine (place.after (c :: cs.takeWhile p))
        (escape (cs.dropWhile p) ++ '\n' :: rest)).map
          (⟨kind, String.ofList (c :: cs.takeWhile p),
            .ofPosition place (byteLength (c :: cs.takeWhile p))⟩ :: ·) := by
  obtain ⟨htake, hdrop⟩ := takeWhile_escape hline hspecial cs rest
  have hlength : runLength p cs = runLength p (escape cs ++ '\n' :: rest) := by
    rw [runLength, runLength, htake]
  rw [scan_of_token h, hlength, take_runLength, drop_runLength, htake, hdrop]

theorem step_special {c : Char} (cs : List Char) (hc : c ∈ special) :
    step inLine '\\' (c :: cs) = .ok ⟨.escape, 1, inLine⟩ := by
  have hfence : fence.isPrefixOf ('\\' :: c :: cs) = false := rfl
  have hescape : (c :: cs).head?.any isEscapable = true := by simpa using mem_special_iff.1 hc
  change stepContent '\\' (c :: cs) = _
  rw [stepContent, hfence, hescape]
  rfl

theorem not_special_of_blank {c : Char} (h : isBlank c = true) : c ∉ special := by
  simp only [isBlank, Bool.or_eq_true, decide_eq_true_eq] at h
  rcases h with rfl | rfl <;> decide

/-- Within a line, a carriage return does not stand in front of the line feed. -/
theorem newlineMore_escape {c : Char} {cs : List Char} (h : Whole (c :: cs)) (rest : List Char) :
    newlineMore c (escape cs ++ '\n' :: rest) = none := by
  have hne : ¬ c = '\n' := fun hc => h.line (hc ▸ List.mem_cons_self)
  rw [newlineMore, if_neg hne, if_neg]
  rintro ⟨rfl, hhead⟩
  cases cs with
  | nil => exact h.complete rfl
  | cons d ds =>
    rw [List.head?_append, head?_escape, Option.some_or, Option.some.injEq] at hhead
    split at hhead
    · exact absurd hhead (by decide)
    · exact h.line (hhead ▸ List.mem_cons_of_mem _ List.mem_cons_self)

/-- A character that is not special starts a run of plain text: blanks, a bracket or a carriage
return by itself, or other characters. -/
theorem step_other {c : Char} {cs : List Char} (hc : c ∉ special) (h : Whole (c :: cs))
    (rest : List Char) :
    ∃ (p : Char → Bool) (kind : TokenKind), p '\n' = false ∧ (∀ d, p d = true → d ∉ special) ∧
      kind.isPlain ∧ step inLine c (escape cs ++ '\n' :: rest) =
        .ok ⟨.token kind, runLength p cs, inLine⟩ := by
  have hmore := newlineMore_escape h rest
  have hcontent : step inLine c (escape cs ++ '\n' :: rest) =
      stepContent c (escape cs ++ '\n' :: rest) := by
    change stepLine false false c _ = _
    rw [stepLine, hmore]
    rfl
  have hneq {d : Char} (hd : d ∈ special) : c ≠ d := by
    rintro rfl
    exact hc hd
  rw [hcontent, stepContent, not_fence _ hc, if_neg (by simp), if_neg (hneq (by decide)),
    if_neg (hneq (by decide)), if_neg (fun h => hneq (by decide) h.1)]
  by_cases hblank : isBlank c = true
  · have hrun := (takeWhile_escape (p := isBlank) rfl (fun d => not_special_of_blank) cs rest).1
    rw [if_pos hblank, runLength, hrun]
    exact ⟨isBlank, .blanks, rfl, fun d => not_special_of_blank, rfl, rfl⟩
  rw [if_neg hblank]
  by_cases halone : standsAlone c = true
  · rw [if_pos halone]
    refine ⟨fun _ => false, .separator, rfl, by simp, rfl, ?_⟩
    cases cs <;> rfl
  · rw [if_neg halone, if_neg (hneq (by decide)), textLength_escape]
    refine ⟨runsOn, .text, by decide, fun d hd hspecial => ?_, rfl, rfl⟩
    simp [runsOn, mem_special_iff.1 hspecial] at hd

/-- The escaped text is read as plain tokens that spell the text, up to the end of its line. -/
theorem scan_escape {cs : List Char} (h : Whole cs) (place : Position) (rest : List Char) :
    ∃ run newline q, Spell run cs ∧ newline.kind = .newline ∧
      scan inLine place (escape cs ++ '\n' :: rest) =
        (scan .between q rest).map (run ++ newline :: ·) := by
  match cs, h with
  | [], _ => exact ⟨[], _, _, .nil, rfl, scan_of_step (step_lineFeed inLine rest)⟩
  | c :: cs, h =>
    by_cases hc : c ∈ special
    · have hcs : Whole ([c] ++ cs) := h
      obtain ⟨run, newline, q, hrun, hnewline, hscan⟩ :=
        scan_escape hcs.of_append (place.after ['\\', c]) rest
      let t : Token := ⟨.text, String.ofList [c], .ofPosition place (byteLength ['\\', c])⟩
      have hall : Spell (t :: run) ([c] ++ cs) := hrun.cons rfl rfl
      refine ⟨t :: run, newline, q, hall, hnewline, ?_⟩
      have hstep := step_special (escape cs ++ '\n' :: rest) hc
      rw [escape_special cs hc, List.cons_append, List.cons_append, scan_of_step hstep]
      change Except.map _ (scan inLine (place.after ['\\', c]) (escape cs ++ '\n' :: rest)) = _
      rw [hscan]
      cases scan .between q rest <;> rfl
    · obtain ⟨p, kind, hp, hspecial, hkind, hstep⟩ := step_other hc h rest
      have hsplit : c :: cs = (c :: cs.takeWhile p) ++ cs.dropWhile p := by simp
      obtain ⟨run, newline, q, hrun, hnewline, hscan⟩ :=
        scan_escape (hsplit ▸ h).of_append (place.after (c :: cs.takeWhile p)) rest
      let t : Token := ⟨kind, String.ofList (c :: cs.takeWhile p),
        .ofPosition place (byteLength (c :: cs.takeWhile p))⟩
      have hall : Spell (t :: run) (c :: cs) := hsplit ▸ hrun.cons hkind rfl
      refine ⟨t :: run, newline, q, hall, hnewline, ?_⟩
      rw [escape_other cs hc, List.cons_append, scan_run hp hspecial hstep, hscan]
      cases scan .between q rest <;> rfl
termination_by cs.length
decreasing_by
  · simp
  · rw [List.length_cons]
    exact Nat.lt_succ_of_le (List.dropWhile_suffix p).length_le

theorem keyword?_escape {cs : List Char} (h : Literal cs) (rest : List Char) :
    keyword? (escape cs ++ '\n' :: rest) = none := by
  have hplain : ∀ word ∈ ["CASE:", "case:", "DEFAULT:", "default:"],
      ∀ c ∈ word.toList, c ∉ special := by simp [special]
  have hword : ∀ word ∈ ["CASE:", "case:", "DEFAULT:", "default:"],
      word.toList.isPrefixOf (escape cs) = false := by
    intro word hmem
    rw [isPrefixOf_escape (hplain word hmem), ← Bool.not_eq_true, List.isPrefixOf_iff_prefix]
    exact h.word word hmem
  rw [keyword?_line, keyword?, hword "CASE:" (by simp), hword "case:" (by simp),
    hword "DEFAULT:" (by simp), hword "default:" (by simp)]
  rfl

theorem isBlank_head_escape {cs : List Char} (h : Literal cs) (rest : List Char) :
    ∃ c tail, escape cs ++ '\n' :: rest = c :: tail ∧ isBlank c = false := by
  cases cs with
  | nil => exact ⟨'\n', rest, rfl, rfl⟩
  | cons d ds =>
    by_cases hd : d ∈ special
    · rw [escape_special ds hd]
      exact ⟨'\\', _, rfl, rfl⟩
    · rw [escape_other ds hd]
      refine ⟨d, _, rfl, ?_⟩
      have hstart := h.start
      simpa [isBlank] using hstart

/-- At its start a literal text is read as it is anywhere in the line. -/
theorem scan_start {cs : List Char} (h : Literal cs) (place : Position) (rest : List Char) :
    scan (.line true true) place (' ' :: (escape cs ++ '\n' :: rest)) =
      scan inLine (place.after [' ']) (escape cs ++ '\n' :: rest) := by
  have hword := keyword?_escape h rest
  obtain ⟨c, tail, heq, hc⟩ := isBlank_head_escape h rest
  rw [heq] at hword ⊢
  have hskip : step (.line true true) ' ' (c :: tail) = .ok ⟨.nothing, 0, .line true true⟩ := by
    change stepLine true true ' ' (c :: tail) = _
    rw [stepLine, if_pos rfl, runLength, List.takeWhile_cons, hc]
    rfl
  have hsame : step (.line true true) c tail = step inLine c tail := by
    change stepLine true true c tail = stepLine false false c tail
    rw [stepLine, stepLine, hc, hword]
    rfl
  rw [scan_of_nothing hskip, List.drop_zero, List.take_zero, scan, scan, hsame]

theorem ofSource_literal {text : List Char} (h : Literal text) :
    ∃ name newline run newline' q, name.kind = .identifier ∧ name.text = "T" ∧
      newline.kind = .newline ∧ Spell run text ∧ newline'.kind = .newline ∧
      ofSource ("# T\n- " ++ String.ofList (escape text) ++ "\n") =
        .ok (⟨.hash, "#", ⟨1, 1, 0, 1, none⟩⟩ :: name :: newline ::
          ⟨.dash, "-", ⟨2, 1, 4, 1, none⟩⟩ :: (run ++ [newline', .endAt q])) := by
  obtain ⟨run, newline', q, hrun, hnewline', hscan⟩ :=
    scan_escape h.toWhole (Position.start.after ['#', ' ', 'T', '\n', '-', ' ']) []
  refine ⟨⟨.identifier, "T", ⟨1, 3, 2, 1, none⟩⟩, ⟨.newline, "\n", ⟨1, 4, 3, 1, none⟩⟩, run,
    newline', q, rfl, rfl, rfl, hrun, hnewline', ?_⟩
  have hchars : ("# T\n- " ++ String.ofList (escape text) ++ "\n").toList =
      '#' :: ' ' :: 'T' :: '\n' :: '-' :: ' ' :: (escape text ++ ['\n']) := by
    simp
  have hhash (cs : List Char) : step .between '#' cs = .ok ⟨.token .hash, 0, .nameLine⟩ := rfl
  have hblank (cs : List Char) :
      step .nameLine ' ' ('T' :: cs) = .ok ⟨.nothing, 0, .nameLine⟩ := rfl
  have hname (cs : List Char) :
      step .nameLine 'T' ('\n' :: cs) = .ok ⟨.token .identifier, 0, .nameLine⟩ := rfl
  have hdash (cs : List Char) : step .between '-' cs = .ok ⟨.token .dash, 0, .line true true⟩ := rfl
  rw [ofSource, hchars, scan_of_token (hhash _), List.drop_zero, scan_of_nothing (hblank _),
    List.drop_zero, scan_of_token (hname _), List.drop_zero,
    scan_of_token (step_lineFeed .nameLine _), List.drop_zero, scan_of_token (hdash _),
    List.drop_zero, scan_start h]
  simp only [List.take_zero, ← Position.after_append, List.cons_append, List.nil_append]
  rw [hscan, scan]
  rfl

end Token

namespace Grammar

open Rule

theorem isContent_of_isPlain {kind : TokenKind} (h : kind.isPlain = true) :
    kind.isContent = true := by
  cases kind <;> first | rfl | contradiction

theorem joined_of_plain {run : List Token} (h : ∀ t ∈ run, t.kind.isPlain) :
    Joined run (plainSegments run) := by
  cases run with
  | nil => exact .nil
  | cons t run => simpa using Joined.plain (List.cons_ne_nil t run) h (by simp) .nil

/-- The template whose body is one line of plain tokens. -/
theorem definition_of_spell {hash name newline dash newline' : Token} {run : List Token}
    {text : String} (hhash : hash.kind = .hash) (hname : name.kind = .identifier)
    (hnewline : newline.kind = .newline) (hdash : dash.kind = .dash)
    (h : Token.Spell run text.toList) (hnewline' : newline'.kind = .newline) (rest : List Token) :
    definition (hash :: name :: newline :: dash :: (run ++ newline' :: rest))
      ⟨name.text, [], .choice [⟨if text = "" then [] else [.text text], dash.location⟩],
        hash.location⟩ rest := by
  have hjoined := joined_of_plain h.plain
  rw [plainSegments, h.text, String.ofList_toList] at hjoined
  have hcontent : ∀ t ∈ run, t.kind.isContent := fun t ht => isContent_of_isPlain (h.plain t ht)
  have hend {t : Token} {ts : List Token} (ht : t.kind = .newline) :
      Grammar.newline (t :: ts) () ts := .inl ⟨t, .intro ht, rfl⟩
  have hline := line_iff.2 ⟨dash, run, newline' :: rest, _, rfl, hdash, hcontent, hjoined,
    hend hnewline', rfl⟩
  have hlines := many1_iff.2 ⟨List.cons_ne_nil _ [], .cons hline .nil⟩
  have hhead : Grammar.name (name :: newline :: dash :: (run ++ newline' :: rest)) name.text
      (newline :: dash :: (run ++ newline' :: rest)) :=
    ⟨_, _, [], ⟨name, .intro hname, rfl⟩, .nil, rfl⟩
  exact (definition_iff hhash).2 ⟨name.text, _, [], _, _, _, hhead, .inr ⟨rfl, rfl⟩, hend hnewline,
    body_iff.2 (.inl ⟨_, hlines, rfl⟩), rfl⟩

end Grammar

theorem SourceFile.parse_literal {text : String} (h : Text.Literal text.toList) :
    parse ("# T\n- " ++ String.ofList (Text.escape text.toList) ++ "\n") =
      .ok ⟨[⟨"T", [], .choice [⟨if text = "" then [] else [.text text], ⟨2, 1, 4, 1, none⟩⟩],
        ⟨1, 1, 0, 1, none⟩⟩], none⟩ := by
  obtain ⟨name, newline, run, newline', q, hname, htext, hnewline, hrun, hnewline', htokens⟩ :=
    Token.ofSource_literal h
  have hhash : (⟨.hash, "#", ⟨1, 1, 0, 1, none⟩⟩ : Token).kind = .hash := rfl
  have hdash : (⟨.dash, "-", ⟨2, 1, 4, 1, none⟩⟩ : Token).kind = .dash := rfl
  have hdefinition := Grammar.definition_of_spell hhash hname hnewline hdash hrun hnewline'
    [.endAt q]
  rw [htext] at hdefinition
  have hread := Grammar.readAll_eq_ok_iff.2
    ⟨_, _, .cons (Grammar.paragraph_iff.2 (.inr ⟨_, hdefinition, rfl⟩)) .nil, rfl, rfl⟩
  unfold parse
  exact bind_eq_ok.2 ⟨_, htokens, bind_eq_ok.2 ⟨_, hread, rfl⟩⟩

namespace Frame

variable {σ : Type} (f : Frame (StateM σ))

/-- With one line there is a choice still, but it decides nothing. -/
theorem renderChoice_one (l : Line) (state : σ) : ((f.renderChoice [l]).run.run state).1 =
    ((f.renderSegments l.segments).run.run (f.pick 1 state).2).1 := by
  have hindex (index : Nat) : [l][min index 0]?.getD l = l := by
    rw [Nat.min_zero]
    rfl
  rw [renderChoice]
  simp only [List.length_nil, hindex]
  rfl

theorem renderSegments_text (text : String) :
    f.renderSegments (if text = "" then [] else [.text text]) = pure text := by
  split
  · rename_i h
    rw [h]
    rfl
  · simp [renderSegments, renderSegment]

end Frame

/-- Every text that can stand behind a dash is written as a line by putting a backslash in front of
its special characters. The template has this text as its only segment, unless it is empty, and
renders it whatever the scope is and however lines are chosen. -/
theorem Session.render_literal {text : String} (h : Text.Literal text.toList) :
    let source := "# T\n- " ++ String.ofList (Text.escape text.toList) ++ "\n"
    let line : Line := ⟨if text = "" then [] else [.text text], ⟨2, 1, 4, 1, none⟩⟩
    SourceFile.parse source = .ok ⟨[⟨"T", [], .choice [line], ⟨1, 1, 0, 1, none⟩⟩], none⟩ ∧
      ∃ r, Registry.ofSource source = .ok r ∧
        ∀ (σ : Type) (fallback : Functions) (picker : Picker σ) (state : σ) (scope : Value),
          ((start ⟨r, fallback, picker⟩ state).render "T" scope).1 = .ok text := by
  intro source line
  have hparse := SourceFile.parse_literal h
  refine ⟨hparse, ?_⟩
  let t : Template := ⟨"T", [], .choice [line], ⟨1, 1, 0, 1, none⟩⟩
  have hnames : ([t].map Template.name).Nodup := by simp
  obtain ⟨r, hr, htemplates⟩ := Registry.ofTemplates_distinct .reject hnames
  refine ⟨r, (Registry.ofSource_of_parse hparse).trans hr, fun σ fallback picker state scope => ?_⟩
  obtain ⟨log, -, hrender⟩ := (idle_start ⟨r, fallback, picker⟩ state).render_eq "T" scope
  have hget : r.get? "T" = some t := by
    rw [r.get?_eq_find?, htemplates]
    rfl
  rw [hrender]
  change ((Library.render ⟨r, fallback, picker⟩ [] "T" scope).run.run state).1 = .ok text
  rw [Library.render_known _ scope hget (by simp)]
  rw [Frame.renderBody, Frame.renderChoice_one, Frame.renderSegments_text]
  rfl

/-- Fences, brackets, backslashes, a carriage return and blanks at the end of a line. -/
theorem Session.render_literal_fences :
    let text := "-```\x7ba\x7d\\[b]` CASE:\r(#) \t"
    let source := "# T\n- \\-\\`\\`\\`\\\x7ba\\\x7d\\\\\\[b\\]\\` CASE:\r(\\#) \t\n"
    Text.Literal text.toList ∧ ∃ r, Registry.ofSource source = .ok r ∧
      ((start ⟨r, Functions.standard, Picker.fixed 7⟩ ()).render "T" .null).1 = .ok text := by
  intro text source
  have hliteral : Text.Literal text.toList :=
    ⟨⟨by decide +kernel, by decide +kernel⟩, by decide +kernel, by decide +kernel⟩
  have hsource : "# T\n- " ++ String.ofList (Text.escape text.toList) ++ "\n" = source := by
    decide +kernel
  obtain ⟨-, r, hr, hrender⟩ := render_literal hliteral
  rw [hsource] at hr
  exact ⟨hliteral, r, hr, hrender Unit Functions.standard (Picker.fixed 7) () .null⟩

end Phrasebook
