import Phrasebook.Proofs.Source.Location
import Phrasebook.Proofs.Token.Step

namespace Phrasebook.Token

variable {c : Char} {cs : List Char} {s : Step}

/-- What stands between two tokens: blanks and, outside names and bodies, one comment, which goes on
to the end of its line. -/
def Gap (outside : Bool) (gap rest : List Char) : Prop :=
  ∃ blanks comment, gap = blanks ++ comment ∧ (∀ c ∈ blanks, Text.isBlank c) ∧
    (comment = [] ∨ outside ∧ comment.head? = some '>' ∧
      (∀ c ∈ comment, Text.isLineEnd c = false) ∧ ∀ c ∈ rest.head?, Text.isLineEnd c)

/-- The text of a token is what it covers, save that an escape, a backslash and a byte, loses the
backslash. -/
def Spells (t : Token) (slice : List Char) : Prop :=
  t.text.toList = slice ∧ (∀ c, slice ≠ ['\\', c]) ∨
    t.kind = .text ∧ Text.byteLength slice = 2 ∧ slice = '\\' :: t.text.toList

theorem spells_escape {taken : List Char} {l : Location} (htaken : taken = ['\\', c])
    (hsize : c.utf8Size = 1) : Spells ⟨.text, String.ofList (taken.drop 1), l⟩ taken := by
  subst htaken
  refine .inr ⟨rfl, ?_, by simp⟩
  rw [Text.byteLength_cons, Text.byteLength_cons, hsize]
  rfl

/-- Behind `before`, the tokens lie one behind the other in the text up to its end; the flag tells
whether a comment may stand in front of the first. -/
inductive LaidOut : (outside : Bool) → (before text : List Char) → List Token → Prop where
  | last {outside : Bool} {before gap : List Char} {t : Token} (hgap : Gap outside gap [])
      (hplace : t.location.Marks (before ++ gap) []) (htext : t.text = "")
      (hkind : t.kind = .endOfInput) : LaidOut outside before gap [t]
  | cons {outside : Bool} {before gap slice text : List Char} {t : Token} {ts : List Token}
      (hgap : Gap outside gap (slice ++ text)) (hplace : t.location.Marks (before ++ gap) slice)
      (hspells : t.Spells slice) (hkind : t.kind ≠ .endOfInput)
      (hmore : LaidOut (t.kind = .newline) (before ++ gap ++ slice) text ts) :
      LaidOut outside before (gap ++ slice ++ text) (t :: ts)

theorem Gap.blanks_append {outside : Bool} {blanks gap rest : List Char}
    (hblanks : ∀ c ∈ blanks, Text.isBlank c) (h : Gap outside gap rest) :
    Gap outside (blanks ++ gap) rest := by
  obtain ⟨blanks', comment, rfl, hblanks', hcomment⟩ := h
  refine ⟨blanks ++ blanks', comment, (List.append_assoc ..).symm, ?_, hcomment⟩
  exact List.forall_mem_append.2 ⟨hblanks, hblanks'⟩

/-- Nothing stands between a comment and the end of its line. -/
theorem Gap.comment_append {comment gap rest : List Char} (hhead : comment.head? = some '>')
    (hcomment : ∀ c ∈ comment, Text.isLineEnd c = false)
    (hrest : ∀ c ∈ (gap ++ rest).head?, Text.isLineEnd c) (h : Gap true gap rest) :
    Gap true (comment ++ gap) rest := by
  have hnil : gap = [] := by
    obtain ⟨blanks, comment', rfl, hblanks, hcomment'⟩ := h
    cases blanks with
    | cons c blanks =>
      have hblank := hblanks c List.mem_cons_self
      have hend := hrest c rfl
      simp only [Text.isBlank, Text.isLineEnd, Bool.or_eq_true, decide_eq_true_eq] at hblank hend
      rcases hblank with rfl | rfl <;> simp at hend
    | nil =>
      rcases hcomment' with rfl | ⟨-, hhead', -⟩
      · rfl
      · have hend := hrest '>' (by simp [List.head?_append, hhead'])
        exact absurd hend (by decide)
  subst hnil
  exact ⟨[], comment, by simp, by simp, .inr ⟨rfl, hhead, hcomment, hrest⟩⟩

theorem LaidOut.blanks_append {outside : Bool} {before blanks text : List Char} {ts : List Token}
    (hblanks : ∀ c ∈ blanks, Text.isBlank c) (h : LaidOut outside (before ++ blanks) text ts) :
    LaidOut outside before (blanks ++ text) ts := by
  cases h with
  | last hgap hplace htext hkind =>
    rw [List.append_assoc] at hplace
    exact .last (hgap.blanks_append hblanks) hplace htext hkind
  | cons hgap hplace hspells hkind hmore =>
    rw [List.append_assoc before] at hplace hmore
    rw [← List.append_assoc, ← List.append_assoc]
    exact .cons (hgap.blanks_append hblanks) hplace hspells hkind hmore

theorem LaidOut.comment_append {before comment text : List Char} {ts : List Token}
    (hhead : comment.head? = some '>') (hcomment : ∀ c ∈ comment, Text.isLineEnd c = false)
    (hrest : ∀ c ∈ text.head?, Text.isLineEnd c) (h : LaidOut true (before ++ comment) text ts) :
    LaidOut true before (comment ++ text) ts := by
  cases h with
  | last hgap hplace htext hkind =>
    rw [List.append_assoc] at hplace
    have hrest' : ∀ c ∈ (text ++ []).head?, Text.isLineEnd c := by simpa using hrest
    exact .last (hgap.comment_append hhead hcomment hrest') hplace htext hkind
  | cons hgap hplace hspells hkind hmore =>
    rw [List.append_assoc before] at hplace hmore
    rw [List.append_assoc] at hrest
    rw [← List.append_assoc, ← List.append_assoc]
    exact .cons (hgap.comment_append hhead hcomment hrest) hplace hspells hkind hmore

theorem Gap.empty (outside : Bool) (rest : List Char) : Gap outside [] rest :=
  ⟨[], [], rfl, by simp, .inl rfl⟩

theorem Step.Lawful.of_token {region : Region} {taken rest : List Char} {kind : TokenKind}
    (h : s.Lawful region taken rest) (hyield : s.yield = .token kind) :
    kind ≠ .endOfInput ∧ decide (kind = .newline) = decide (s.next = .between) ∧
      ∀ d, taken ≠ ['\\', d] := by
  cases h with
  | token kind' hyield' hkind hnext hslash =>
    obtain rfl : kind' = kind := Yield.token.inj (hyield'.symm.trans hyield)
    exact ⟨hkind, decide_eq_decide.2 hnext.symm, hslash⟩
  | blanks hyield' | comment hyield' | escape _ hyield' =>
    rw [hyield] at hyield'
    contradiction

/-- One step of the scanner puts its characters in front of what the steps after it lay out. -/
theorem LaidOut.of_nothing {region : Region} {before taken rest : List Char} {ts : List Token}
    (hs : s.Lawful region taken rest) (hyield : s.yield = .nothing)
    (h : LaidOut (s.next = .between) (before ++ taken) rest ts) :
    LaidOut (region = .between) before (taken ++ rest) ts := by
  cases hs with
  | blanks _ hnext htaken =>
    rw [hnext] at h
    exact h.blanks_append htaken
  | comment _ hnext hregion hhead htaken hrest =>
    subst hregion
    rw [hnext] at h
    exact h.comment_append hhead htaken hrest
  | token _ hyield' | escape _ hyield' =>
    rw [hyield] at hyield'
    contradiction

theorem scan_laidOut {region : Region} (before : List Char) {text : List Char} {ts : List Token}
    (h : scan region (Position.start.after before) text = .ok ts) :
    LaidOut (region = .between) before text ts := by
  generalize hp : Position.start.after before = p at h
  fun_induction scan region p text generalizing before ts with
  | case1 region p =>
    cases h
    refine .last (Gap.empty _ _) ?_ rfl rfl
    rw [← hp, List.append_nil]
    exact Location.marks_ofPosition before []
  | case2 => cases h
  | case3 => cases h
  | case4 region p c cs s hs taken ts' hrest hyield =>
    rename_i ih
    cases h
    subst hp
    have hmore : LaidOut (s.next = .between) (before ++ taken) (cs.drop s.more) ts' :=
      ih (before ++ taken) (Position.after_append ..) hrest
    have hsplit : c :: cs = taken ++ cs.drop s.more := by simp [taken]
    rw [hsplit]
    exact hmore.of_nothing (step_lawful hs) hyield
  | case5 region p c cs s hs taken location ts' hrest kind =>
    rename_i hyield ih
    cases h
    subst hp
    have hmore : LaidOut (s.next = .between) (before ++ taken) (cs.drop s.more) ts' :=
      ih (before ++ taken) (Position.after_append ..) hrest
    have hsplit : c :: cs = [] ++ taken ++ cs.drop s.more := by simp [taken]
    obtain ⟨hkind, houtside, hslash⟩ := (step_lawful hs).of_token hyield
    rw [hsplit]
    have hplace := Location.marks_ofPosition before taken
    refine .cons (Gap.empty _ _) (by simpa using hplace) ?_ hkind ?_
    · exact .inl ⟨String.toList_ofList, hslash⟩
    · rw [List.append_nil]
      exact houtside ▸ hmore
  | case6 region p c cs s hs taken location ts' hrest =>
    rename_i hyield ih
    cases h
    subst hp
    have hmore : LaidOut (s.next = .between) (before ++ taken) (cs.drop s.more) ts' :=
      ih (before ++ taken) (Position.after_append ..) hrest
    have hsplit : c :: cs = [] ++ taken ++ cs.drop s.more := by simp [taken]
    cases step_lawful hs with
    | escape d _ hnext htaken hsize =>
      rw [hsplit]
      have hplace := Location.marks_ofPosition before taken
      refine .cons (Gap.empty _ _) (by simpa using hplace) ?_ (by simp) ?_
      · exact spells_escape htaken hsize
      · rw [List.append_nil]
        have hfalse : decide (s.next = .between) = decide (TokenKind.text = .newline) := by
          simp [hnext]
        exact hfalse ▸ hmore
    | blanks hyield' | comment hyield' | token _ hyield' =>
      rw [hyield] at hyield'
      contradiction

/-- The offset behind the token. -/
def stop (t : Token) : Nat := t.location.offset + t.location.length

def endsLine (t : Token) : Bool := t.kind = .newline

/-- Where a token lies that has the tokens of `front` before it and those of `back` after it.
Neither a name nor a body goes on where no token stands in front, or one that ends a line. -/
structure Placed (source : List Char) (front : List Token) (t : Token) (back : List Token)
    (before gap slice after : List Char) : Prop where
  split : source = before ++ gap ++ slice ++ after
  start : (front.map stop).getLastD 0 = Text.byteLength before
  between : Gap ((front.map endsLine).getLastD true) gap (slice ++ after)
  location : t.location.Marks (before ++ gap) slice
  text : t.Spells slice
  last : t.kind = .endOfInput ↔ back = []
  atEnd : t.kind = .endOfInput → slice = [] ∧ after = []

/-- Every token has its place in the source, and there is a token. -/
def Tile (source : List Char) (ts : List Token) : Prop :=
  ts ≠ [] ∧ ∀ front t back, ts = front ++ t :: back →
    ∃ before gap slice after, Placed source front t back before gap slice after

theorem stop_eq {t : Token} {before gap slice : List Char}
    (h : t.location.Marks (before ++ gap) slice) :
    t.stop = Text.byteLength (before ++ gap ++ slice) := by
  rw [stop, h.offset, h.length, Text.byteLength_append _ slice]

theorem LaidOut.ne_nil {outside : Bool} {before text : List Char} {ts : List Token}
    (h : LaidOut outside before text ts) : ts ≠ [] := by
  cases h <;> exact List.cons_ne_nil _ _

/-- The tokens of a text are placed in any source that has it behind what stands before. -/
theorem LaidOut.place {outside : Bool} {before text : List Char} {front back : List Token}
    {t : Token} (h : LaidOut outside before text (front ++ t :: back)) :
    ∃ before' gap slice after, before ++ text = before' ++ gap ++ slice ++ after ∧
      (front.map stop).getLastD (Text.byteLength before) = Text.byteLength before' ∧
      Gap ((front.map endsLine).getLastD outside) gap (slice ++ after) ∧
      t.location.Marks (before' ++ gap) slice ∧ t.Spells slice ∧
      (t.kind = .endOfInput ↔ back = []) ∧ (t.kind = .endOfInput → slice = [] ∧ after = []) := by
  generalize hts : front ++ t :: back = ts at h
  induction h generalizing front with
  | @last outside before gap last hgap hplace htext hkind =>
    obtain ⟨rfl, hcons⟩ : front = [] ∧ t :: back = [last] := by
      cases front with
      | nil => exact ⟨rfl, hts⟩
      | cons u front => simp at hts
    cases hcons
    have hspells : t.Spells [] := .inl ⟨by simp [htext], by simp⟩
    refine ⟨before, gap, [], [], by simp, rfl, hgap, hplace, hspells, ?_, ?_⟩
    · simp [hkind]
    · exact fun _ => ⟨rfl, rfl⟩
  | @cons outside before gap slice text u ts hgap hplace hspells hkind hmore ih =>
    cases front with
    | nil =>
      cases hts
      refine ⟨before, gap, slice, text, by simp, rfl, hgap, hplace, hspells, ?_, ?_⟩
      · simp [hkind, hmore.ne_nil]
      · exact fun hend => absurd hend hkind
    | cons v front =>
      cases hts
      obtain ⟨before', gap', slice', after, hsource, hstart, hgap', hrest⟩ := ih rfl
      refine ⟨before', gap', slice', after, ?_, ?_, ?_, hrest⟩
      · rw [← hsource]
        simp
      · rw [List.map_cons, List.getLastD_cons, stop_eq hplace, hstart]
      · rw [List.map_cons, List.getLastD_cons]
        exact hgap'

theorem LaidOut.offset_ge {outside : Bool} {before text : List Char} {ts : List Token}
    (h : LaidOut outside before text ts) :
    ∀ t ∈ ts, Text.byteLength before ≤ t.location.offset := by
  induction h with
  | last hgap hplace =>
    intro t ht
    obtain rfl := List.mem_singleton.1 ht
    rw [hplace.offset, Text.byteLength_append]
    exact Nat.le_add_right _ _
  | cons hgap hplace hspells hkind hmore ih =>
    intro t ht
    rcases List.mem_cons.1 ht with rfl | ht
    · rw [hplace.offset, Text.byteLength_append]
      exact Nat.le_add_right _ _
    · have hle := ih t ht
      rw [Text.byteLength_append, Text.byteLength_append] at hle
      omega

/-- No token starts in front of the end of an earlier one. -/
theorem LaidOut.in_order {outside : Bool} {before text : List Char} {ts : List Token}
    (h : LaidOut outside before text ts) : ts.Pairwise fun t u => t.stop ≤ u.location.offset := by
  induction h with
  | last => exact List.pairwise_singleton _ _
  | cons hgap hplace hspells hkind hmore ih =>
    refine List.pairwise_cons.2 ⟨fun u hu => ?_, ih⟩
    rw [stop_eq hplace]
    exact hmore.offset_ge u hu

theorem ofSource_tile {source : String} {ts : List Token} (h : ofSource source = .ok ts) :
    Tile source.toList ts ∧ ts.Pairwise fun t u => t.stop ≤ u.location.offset := by
  have hlaid : LaidOut true [] source.toList ts := scan_laidOut [] h
  refine ⟨⟨hlaid.ne_nil, ?_⟩, hlaid.in_order⟩
  rintro front t back rfl
  obtain ⟨before, gap, slice, after, hsource, hstart, hgap, hplace, hspells, hlast, hend⟩ :=
    hlaid.place
  exact ⟨before, gap, slice, after, ⟨hsource, hstart, hgap, hplace, hspells, hlast, hend⟩⟩

theorem LaidOut.fits {outside : Bool} {before text : List Char} {ts : List Token}
    (h : LaidOut outside before text ts) : ∀ t ∈ ts, t.location.Fits (before ++ text) := by
  intro t ht
  obtain ⟨front, back, rfl⟩ := List.append_of_mem ht
  obtain ⟨before', gap, slice, after, hsource, -, -, hplace, -⟩ := h.place
  exact ⟨before' ++ gap, slice, after, hsource, hplace⟩

/-- The scanner stops at a character of the source. -/
theorem scan_error_fits {region : Region} (before : List Char) {text : List Char} {e : ParseError}
    (h : scan region (Position.start.after before) text = .error e) :
    e.location.Fits (before ++ text) := by
  generalize hp : Position.start.after before = p at h
  fun_induction scan region p text generalizing before with
  | case1 => cases h
  | case2 region p c cs fault hfault =>
    cases h
    subst hp
    have hplace := Location.marks_ofPosition before [c]
    rw [Text.byteLength_cons, Text.byteLength_nil, Nat.add_zero] at hplace
    rw [step_fault hfault]
    exact ⟨before, [c], cs, by simp, hplace⟩
  | case3 region p c cs s hs taken e' hrest =>
    rename_i ih
    cases h
    subst hp
    have hfits : e.location.Fits (before ++ taken ++ cs.drop s.more) :=
      ih (before ++ taken) (Position.after_append ..) hrest
    simpa [taken] using hfits
  | _ => cases h

end Phrasebook.Token
