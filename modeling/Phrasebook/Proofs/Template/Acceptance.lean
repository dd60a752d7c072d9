import Mathlib.Control.Monad.Basic
import Phrasebook.Proofs.Template.Recognition

namespace Phrasebook

/-- The last token, and no other, marks the end of the input. -/
def Token.Closed (ts : List Token) : Prop :=
  ∃ front last, ts = front ++ [last] ∧ last.kind = .endOfInput ∧ ∀ t ∈ front, t.kind ≠ .endOfInput

namespace Rule

variable {α β : Type}

/-- The rule looks at kinds only and leaves the end of the input where it is. -/
structure ByKinds (r : Rule α) : Prop where
  used {ts rest : List Token} {a : α} (h : r ts a rest) :
    ∃ used, ts = used ++ rest ∧ ∀ t ∈ used, t.kind ≠ .endOfInput
  transfer {ts ts' rest : List Token} {a : α} (h : r ts a rest)
    (hkinds : ts'.map Token.kind = ts.map Token.kind) :
    ∃ a' rest', r ts' a' rest' ∧ rest'.map Token.kind = rest.map Token.kind

theorem used_append {ts mid rest used used' : List Token} (h : ts = used ++ mid)
    (hused : ∀ t ∈ used, t.kind ≠ .endOfInput) (h' : mid = used' ++ rest)
    (hused' : ∀ t ∈ used', t.kind ≠ .endOfInput) :
    ∃ used, ts = used ++ rest ∧ ∀ t ∈ used, t.kind ≠ .endOfInput := by
  refine ⟨used ++ used', by rw [h, h', List.append_assoc], ?_⟩
  exact List.forall_mem_append.2 ⟨hused, hused'⟩

theorem seqLeft_eq_seq (r : Rule α) (s : Rule β) : r <* s = (fun a _ => a) <$> r <*> s := by
  funext ts a rest
  apply propext
  constructor
  · rintro ⟨mid, b, ha, hb⟩
    exact ⟨_, mid, b, ⟨a, ha, rfl⟩, hb, rfl⟩
  · rintro ⟨_, mid, b, ⟨a, ha, rfl⟩, hb, rfl⟩
    exact ⟨mid, b, ha, hb⟩

theorem seqRight_eq_seq (r : Rule α) (s : Rule β) : r *> s = (fun _ b => b) <$> r <*> s := by
  funext ts b rest
  apply propext
  constructor
  · rintro ⟨mid, a, ha, hb⟩
    exact ⟨_, mid, b, ⟨a, ha, rfl⟩, hb, rfl⟩
  · rintro ⟨_, mid, b, ⟨a, ha, rfl⟩, hb, rfl⟩
    exact ⟨mid, a, ha, hb⟩

namespace ByKinds

theorem pure (a : α) : ByKinds (Pure.pure a : Rule α) where
  used := by
    rintro ts rest b ⟨-, rfl⟩
    exact ⟨[], rfl, by simp⟩
  transfer := by
    rintro ts ts' rest b ⟨rfl, rfl⟩ hkinds
    exact ⟨a, ts', ⟨rfl, rfl⟩, hkinds⟩

theorem map {r : Rule α} (hr : ByKinds r) (f : α → β) : ByKinds (f <$> r) where
  used := by
    rintro ts rest b ⟨a, h, rfl⟩
    exact hr.used h
  transfer := by
    rintro ts ts' rest b ⟨a, h, rfl⟩ hkinds
    obtain ⟨a', rest', h', hrest⟩ := hr.transfer h hkinds
    exact ⟨f a', rest', ⟨a', h', rfl⟩, hrest⟩

theorem seq {r : Rule (α → β)} {s : Rule α} (hr : ByKinds r) (hs : ByKinds s) :
    ByKinds (r <*> s) where
  used := by
    rintro ts rest b ⟨f, mid, a, hf, ha, rfl⟩
    obtain ⟨used, hts, hused⟩ := hr.used hf
    obtain ⟨used', hmid, hused'⟩ := hs.used ha
    exact used_append hts hused hmid hused'
  transfer := by
    rintro ts ts' rest b ⟨f, mid, a, hf, ha, rfl⟩ hkinds
    obtain ⟨f', mid', hf', hmid⟩ := hr.transfer hf hkinds
    obtain ⟨a', rest', ha', hrest⟩ := hs.transfer ha hmid
    exact ⟨f' a', rest', ⟨f', mid', a', hf', ha', rfl⟩, hrest⟩

theorem seqLeft {r : Rule α} {s : Rule β} (hr : ByKinds r) (hs : ByKinds s) :
    ByKinds (r <* s) := by
  rw [seqLeft_eq_seq]
  exact (hr.map _).seq hs

theorem seqRight {r : Rule α} {s : Rule β} (hr : ByKinds r) (hs : ByKinds s) :
    ByKinds (r *> s) := by
  rw [seqRight_eq_seq]
  exact (hr.map _).seq hs

theorem orElse {r s : Rule α} (hr : ByKinds r) (hs : ByKinds s) : ByKinds (r <|> s) where
  used := by
    rintro ts rest a (h | h)
    · exact hr.used h
    · exact hs.used h
  transfer := by
    rintro ts ts' rest a (h | h) hkinds
    · obtain ⟨a', rest', h', hrest⟩ := hr.transfer h hkinds
      exact ⟨a', rest', .inl h', hrest⟩
    · obtain ⟨a', rest', h', hrest⟩ := hs.transfer h hkinds
      exact ⟨a', rest', .inr h', hrest⟩

theorem terminal {kind : TokenKind} (hkind : kind ≠ .endOfInput) : ByKinds (terminal kind) where
  used := by
    intro ts rest t h
    obtain ⟨rfl, rfl⟩ := terminal_iff.1 h
    exact ⟨[t], rfl, by simpa using hkind⟩
  transfer := by
    intro ts ts' rest t h hkinds
    obtain ⟨rfl, rfl⟩ := terminal_iff.1 h
    obtain ⟨t', rest', rfl, hhead, hrest⟩ := List.map_eq_cons_iff.1 hkinds
    exact ⟨t', rest', .intro hhead, hrest⟩

theorem atEnd : ByKinds atEnd where
  used := by
    rintro ts rest _ ⟨-, rfl⟩
    exact ⟨[], rfl, by simp⟩
  transfer := by
    rintro ts ts' rest _ ⟨hend, rfl⟩ hkinds
    refine ⟨(), ts', ⟨?_, rfl⟩, hkinds⟩
    intro t' ht'
    have hhead : (ts.map Token.kind).head? = some t'.kind := by
      rw [← hkinds, List.head?_map, ht', Option.map_some]
    obtain ⟨t, ht, hkind⟩ := Option.map_eq_some_iff.1 (List.head?_map.symm.trans hhead)
    rw [← hkind]
    exact hend t ht

theorem many {r : Rule α} (hr : ByKinds r) : ByKinds (many r) where
  used := by
    intro ts rest as h
    induction h with
    | nil => exact ⟨[], rfl, by simp⟩
    | cons ha _ ih =>
      obtain ⟨used, hts, hused⟩ := hr.used ha
      obtain ⟨used', hmid, hused'⟩ := ih
      exact used_append hts hused hmid hused'
  transfer := by
    intro ts ts' rest as h hkinds
    induction h generalizing ts' with
    | nil => exact ⟨[], ts', .nil, hkinds⟩
    | cons ha _ ih =>
      obtain ⟨a', mid', ha', hmid⟩ := hr.transfer ha hkinds
      obtain ⟨as', rest', has', hrest⟩ := ih hmid
      exact ⟨a' :: as', rest', .cons ha' has', hrest⟩

theorem many1 {r : Rule α} (hr : ByKinds r) : ByKinds (many1 r) :=
  (hr.map _).seq hr.many

end ByKinds

theorem many_concat {r : Rule α} {ts mid rest : List Token} {a : α} {as : List α}
    (has : many r ts as mid) (ha : r mid a rest) : many r ts (as ++ [a]) rest := by
  induction has with
  | nil => exact .cons ha .nil
  | cons h _ ih => exact .cons h (ih ha)

end Rule

namespace Grammar

open Rule

theorem newline_byKinds : ByKinds newline :=
  ((ByKinds.terminal (by decide)).map _).orElse .atEnd

theorem name_byKinds : ByKinds name :=
  ((ByKinds.terminal (by decide)).map _).seq
    ((ByKinds.terminal (by decide)).seqRight (.terminal (by decide))).many

theorem parameters_byKinds : ByKinds parameters :=
  ((((((ByKinds.terminal (by decide)).seqRight (.terminal (by decide))).map _).seq
    ((ByKinds.terminal (by decide)).seqRight (.terminal (by decide))).many).seqLeft
      (.terminal (by decide)))).orElse (.pure [])

/-- Kinds decide which tokens are the content of a line, and any such tokens describe segments. -/
theorem content_byKinds : ByKinds content where
  used := by
    rintro ts rest ss ⟨used, rfl, hused, -⟩
    refine ⟨used, rfl, fun t ht hkind => ?_⟩
    have hcontent := hused t ht
    rw [hkind] at hcontent
    contradiction
  transfer := by
    rintro ts ts' rest ss ⟨used, rfl, hused, -⟩ hkinds
    rw [List.map_append] at hkinds
    obtain ⟨used', rest', rfl, husedKinds, hrest⟩ := List.map_eq_append_iff.1 hkinds
    have hused' : ∀ t ∈ used', t.kind.isContent := by
      intro t ht
      have hmem : t.kind ∈ used.map Token.kind := by
        rw [← husedKinds]
        exact List.mem_map_of_mem ht
      obtain ⟨u, hu, hkind⟩ := List.mem_map.1 hmem
      rw [← hkind]
      exact hused u hu
    obtain ⟨ss', hss'⟩ := exists_joined hused'
    exact ⟨ss', rest', ⟨used', rfl, hused', hss'⟩, hrest⟩

theorem line_byKinds : ByKinds line :=
  (((ByKinds.terminal (by decide)).map _).seq content_byKinds).seqLeft newline_byKinds

theorem lines_byKinds : ByKinds lines := line_byKinds.many1

theorem blanks_byKinds : ByKinds blanks := (ByKinds.terminal (by decide)).many

theorem caseRule_byKinds : ByKinds caseRule :=
  ((((((ByKinds.terminal (by decide)).map _).seqLeft (.terminal (by decide))).seq
    (.terminal (by decide))).seqLeft blanks_byKinds).seqLeft newline_byKinds).seq lines_byKinds

theorem defaultRule_byKinds : ByKinds defaultRule :=
  (((((ByKinds.terminal (by decide)).map _).seqLeft (.terminal (by decide))).seqLeft
    blanks_byKinds).seqLeft newline_byKinds).seq lines_byKinds

theorem body_byKinds : ByKinds body :=
  (lines_byKinds.map _).orElse ((caseRule_byKinds.many1.map _).seq defaultRule_byKinds)

theorem definition_byKinds : ByKinds definition :=
  (((((ByKinds.terminal (by decide)).map _).seq name_byKinds).seq parameters_byKinds).seqLeft
    newline_byKinds).seq body_byKinds

theorem paragraph_byKinds : ByKinds paragraph :=
  (newline_byKinds.map _).orElse (definition_byKinds.map _)

/-- Tokens of these kinds, in this order, are a file. -/
def Derivable (kinds : List TokenKind) : Prop :=
  ∃ ts source, ts.map Token.kind = kinds ∧ file ts source []

theorem file_iff {ts rest : List Token} {source : SourceFile} : file ts source rest ↔
    ∃ ps last, ps ≠ [] ∧ many paragraph ts ps (last :: rest) ∧ last.kind = .endOfInput ∧
      source = ⟨ps.filterMap id, none⟩ := by
  simp only [file, seqLeft_iff, map_iff, many1_iff, terminal_iff]
  constructor
  · rintro ⟨_, last, ⟨ps, ⟨hne, hps⟩, rfl⟩, rfl, hlast⟩
    exact ⟨ps, last, hne, hps, hlast, rfl⟩
  · rintro ⟨ps, last, hne, hps, hlast, rfl⟩
    exact ⟨_, last, ⟨ps, ⟨hne, hps⟩, rfl⟩, rfl, hlast⟩

theorem closed_of_file {ts : List Token} {source : SourceFile} (h : file ts source []) :
    Token.Closed ts := by
  obtain ⟨ps, last, -, hps, hlast, -⟩ := file_iff.1 h
  obtain ⟨front, rfl, hfront⟩ := paragraph_byKinds.many.used hps
  exact ⟨front, last, rfl, hlast, hfront⟩

theorem file_of_kinds {ts ts' : List Token} {source : SourceFile} (h : file ts source [])
    (hkinds : ts'.map Token.kind = ts.map Token.kind) : ∃ source', file ts' source' [] := by
  obtain ⟨ps, last, hne, hps, hlast, -⟩ := file_iff.1 h
  have hps' := many1_iff.2 ⟨hne, hps⟩
  obtain ⟨ps', rest', hps', hrest⟩ := paragraph_byKinds.many1.transfer hps' hkinds
  obtain ⟨hne', hmany⟩ := many1_iff.1 hps'
  obtain ⟨last', rest'', rfl, hhead, htail⟩ := List.map_eq_cons_iff.1 hrest
  obtain rfl : rest'' = [] := List.map_eq_nil_iff.1 htail
  exact ⟨_, file_iff.2 ⟨ps', last', hne', hmany, hhead.trans hlast, rfl⟩⟩

/-- In a closed stream, what starts with the end of the input is its last token. -/
theorem eq_last_of_closed {ts rest : List Token} (hclosed : Token.Closed ts)
    (hsuffix : ∃ used, ts = used ++ rest ∧ ∀ t ∈ used, t.kind ≠ .endOfInput)
    (hrest : Token.nextKind rest = .endOfInput) :
    ∃ last, rest = [last] ∧ last.kind = .endOfInput := by
  obtain ⟨front, last, rfl, hlast, hfront⟩ := hclosed
  obtain ⟨used, hts, hused⟩ := hsuffix
  cases rest with
  | nil =>
    rw [List.append_nil] at hts
    have hmem : last ∈ used := by simp [← hts]
    exact absurd hlast (hused last hmem)
  | cons t rest =>
    rcases List.append_eq_append_iff.1 hts with ⟨more, rfl, hmore⟩ | ⟨more, rfl, hmore⟩
    · cases more with
      | nil => exact ⟨last, hmore.symm, hlast⟩
      | cons u more =>
        obtain ⟨rfl, -⟩ := List.cons.inj hmore
        exact absurd hlast (hused _ (by simp))
    · cases more with
      | nil => exact ⟨last, by simpa using hmore, hlast⟩
      | cons u more =>
        obtain ⟨rfl, -⟩ := List.cons.inj hmore
        exact absurd hrest (hfront t (by simp))

theorem ofTokens_eq_ok_iff {ts : List Token} (hclosed : Token.Closed ts) {source : SourceFile} :
    SourceFile.ofTokens ts = .ok source ↔ file ts source [] := by
  unfold SourceFile.ofTokens
  rw [bind_eq_ok]
  constructor
  · rintro ⟨templates, hread, h⟩
    cases h
    obtain ⟨ps, rest, hps, hrest, rfl⟩ := readAll_eq_ok_iff.1 hread
    obtain ⟨last, rfl, hlast⟩ := eq_last_of_closed hclosed (paragraph_byKinds.many.used hps) hrest
    -- the end of the input is one more newline, so there is a paragraph in any case
    have hend : paragraph [last] none [last] :=
      paragraph_iff.2 (.inl ⟨.inr ⟨by simpa using hlast, rfl⟩, rfl⟩)
    refine file_iff.2 ⟨ps ++ [none], last, by simp, many_concat hps hend, hlast, ?_⟩
    rw [List.filterMap_append, List.filterMap_cons_none rfl, List.filterMap_nil, List.append_nil]
  · intro h
    obtain ⟨ps, last, -, hps, hlast, rfl⟩ := file_iff.1 h
    exact ⟨ps.filterMap id, readAll_eq_ok_iff.2 ⟨ps, [last], hps, hlast, rfl⟩, rfl⟩

end Grammar

/-- Reading succeeds exactly on what the grammar derives, with the file that the derivation
describes; the kinds decide whether there is a derivation, and no two describe different files. -/
theorem SourceFile.ofTokens_recognises :
    (∀ ts, Token.Closed ts →
      ((∃ source, SourceFile.ofTokens ts = .ok source) ↔ Grammar.Derivable (ts.map Token.kind)) ∧
      ∀ source, SourceFile.ofTokens ts = .ok source ↔ Grammar.file ts source []) ∧
    ∀ ts source source', Grammar.file ts source [] → Grammar.file ts source' [] →
      source = source' := by
  constructor
  · intro ts hclosed
    refine ⟨⟨?_, ?_⟩, fun source => Grammar.ofTokens_eq_ok_iff hclosed⟩
    · rintro ⟨source, h⟩
      exact ⟨ts, source, rfl, (Grammar.ofTokens_eq_ok_iff hclosed).1 h⟩
    · rintro ⟨ts', source', hkinds, h'⟩
      obtain ⟨source, h⟩ := Grammar.file_of_kinds h' hkinds.symm
      exact ⟨source, (Grammar.ofTokens_eq_ok_iff hclosed).2 h⟩
  · intro ts source source' h h'
    have hclosed := Grammar.closed_of_file h
    have hread := (Grammar.ofTokens_eq_ok_iff hclosed).2 h
    have hread' := (Grammar.ofTokens_eq_ok_iff hclosed).2 h'
    exact Except.ok.inj (hread.symm.trans hread')

open TokenKind in
/-- The tokens of a conditional template with a dotted name and no newline at its end. -/
def greetingTokens : List Token :=
  [(hash, "#"), (identifier, "Hello"), (dot, "."), (identifier, "Guest"), (openParen, "("),
    (identifier, "name"), (comma, ","), (identifier, "late"), (closeParen, ")"), (newline, "\n"),
    (dash, "-"), (caseKeyword, "CASE:"), (expression, "\x7blate\x7d"), (blanks, " "),
    (newline, "\n"), (dash, "-"), (text, "Good"), (blanks, " "), (text, "night"),
    (reference, "[Name]"), (newline, "\n"), (dash, "-"), (defaultKeyword, "DEFAULT:"),
    (newline, "\n"), (dash, "-"), (text, "Hi"), (endOfInput, "")].map fun (kind, written) =>
      ⟨kind, written, .ofPosition .start 0⟩

theorem SourceFile.ofTokens_greetingTokens :
    let here : Location := .ofPosition .start 0
    let late : Clause := ⟨some "late", [⟨[.text "Good night", .reference "[Name]"], here⟩], here⟩
    let source : SourceFile := ⟨[⟨"Hello.Guest", ["name", "late"],
      .conditional [late] ⟨none, [⟨[.text "Hi"], here⟩], here⟩, here⟩], none⟩
    Token.Closed greetingTokens ∧ Grammar.Derivable (greetingTokens.map Token.kind) ∧
      Grammar.file greetingTokens source [] ∧
        ∀ other, Grammar.file greetingTokens other [] → other = source := by
  intro here late source
  have hclosed : Token.Closed greetingTokens :=
    ⟨greetingTokens.dropLast, .endAt .start, by decide, rfl, by decide⟩
  have hread : SourceFile.ofTokens greetingTokens = .ok source := by decide +kernel
  obtain ⟨hderivable, hfile⟩ := SourceFile.ofTokens_recognises.1 greetingTokens hclosed
  have hsource := (hfile source).1 hread
  refine ⟨hclosed, hderivable.1 ⟨source, hread⟩, hsource, fun other hother => ?_⟩
  exact SourceFile.ofTokens_recognises.2 greetingTokens other source hother hsource

end Phrasebook
