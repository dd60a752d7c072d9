import Mathlib.Data.String.Basic
import Phrasebook.Evaluator

namespace Phrasebook

namespace Island

/-- What may stand between the braces of an island. -/
structure IsBody (body : List Char) : Prop where
  ne_nil : body ≠ []
  braceless : ∀ c ∈ body, isBrace c = false

/-- What an island with this text between its braces asks for: a reference if the text stands in
brackets, and the value of an expression if it does not. -/
def Asks : Island → List Char → Prop
  | reference text, body => body = '[' :: (text.toList ++ [']'])
  | expression text, body => body = text.toList ∧ ∀ inside, body ≠ '[' :: (inside ++ [']'])

/-- From byte `start` to byte `stop` of the text there is an island. -/
def StandsAt (cs : List Char) (start stop : Nat) (i : Island) : Prop :=
  ∃ before body after, cs = before ++ ('@' :: '\x7b' :: (body ++ ['\x7d'])) ++ after ∧
    IsBody body ∧ start = Text.byteLength before ∧
    stop = start + Text.byteLength ('@' :: '\x7b' :: (body ++ ['\x7d'])) ∧ i.Asks body

theorem ofBody_bracketed (inside : List Char) :
    ofBody ('[' :: (inside ++ [']'])) = .reference (String.ofList inside) := by
  rw [ofBody]
  simp

theorem ofBody_unbracketed {body : List Char} (h : ∀ inside, body ≠ '[' :: (inside ++ [']'])) :
    ofBody body = .expression (String.ofList body) := by
  unfold ofBody
  split
  · rename_i rest
    split
    · rename_i inner hrest
      refine absurd ?_ (h inner.reverse)
      rw [← List.reverse_reverse rest, hrest, List.reverse_cons]
    · rfl
  · rfl

theorem asks_iff {i : Island} {body : List Char} : i.Asks body ↔ i = ofBody body := by
  by_cases hbody : ∃ inside, body = '[' :: (inside ++ [']'])
  · obtain ⟨inside, rfl⟩ := hbody
    rw [ofBody_bracketed]
    cases i with
    | reference text =>
      rw [Asks, reference.injEq, ← String.toList_inj, String.toList_ofList]
      simp [eq_comm]
    | expression text =>
      refine iff_of_false (fun h => h.2 inside rfl) (by simp)
  · have hplain : ∀ inside, body ≠ '[' :: (inside ++ [']']) := not_exists.1 hbody
    rw [ofBody_unbracketed hplain]
    cases i with
    | reference text => exact iff_of_false (hplain _) (by simp)
    | expression text =>
      rw [Asks, expression.injEq, ← String.toList_inj, String.toList_ofList]
      simp [eq_comm, hplain]

end Island

namespace BlockPart

open Text

variable {cs body before after rest : List Char} {offset start stop : Nat} {i : Island}

theorem source_island (body : List Char) :
    (island body).source = '@' :: '\x7b' :: (body ++ ['\x7d']) := rfl

theorem bodyAt?_island (h : Island.IsBody body) (rest : List Char) :
    bodyAt? ((island body).source ++ rest) = some body := by
  have hplain : ∀ c ∈ body, (!Island.isBrace c) = true := fun c hc => by
    rw [h.braceless c hc]
    rfl
  have htake : (body ++ '\x7d' :: rest).takeWhile (fun c => !Island.isBrace c) = body := by
    rw [List.takeWhile_append_of_pos hplain, List.takeWhile_cons_of_neg (by decide),
      List.append_nil]
  have hsource : (island body).source ++ rest = '@' :: '\x7b' :: (body ++ '\x7d' :: rest) := by
    simp [source]
  rw [hsource, bodyAt?]
  simp [htake, h.ne_nil]

theorem isBody_of_bodyAt? (h : bodyAt? cs = some body) : Island.IsBody body := by
  unfold bodyAt? at h
  split at h
  · obtain ⟨⟨hne, -⟩, hbody⟩ := Option.ite_none_right_eq_some.1 h
    rw [Option.some.inj hbody] at hne
    refine ⟨hne, fun c hc => ?_⟩
    rw [← Option.some.inj hbody] at hc
    simpa using List.all_eq_true.1 List.all_takeWhile c hc
  · contradiction

/-- An island stands at the start of a text whose first characters are those of an island. -/
theorem bodyAt?_eq_some_iff :
    bodyAt? cs = some body ↔ Island.IsBody body ∧ ∃ rest, cs = (island body).source ++ rest := by
  constructor
  · intro h
    exact ⟨isBody_of_bodyAt? h, _, eq_of_bodyAt? h⟩
  · rintro ⟨hbody, rest, rfl⟩
    exact bodyAt?_island hbody rest

/-- Inside an island no `@` has an opening brace behind it. -/
theorem ne_brace_behind {front back : List Char} (hbody : Island.IsBody body)
    (h : (island body).source = front ++ '@' :: back) (hne : front ≠ []) :
    ∃ c back', back = c :: back' ∧ c ≠ '\x7b' := by
  have hplain : ∀ c ∈ body ++ ['\x7d'], c ≠ '\x7b' := by
    rintro c hc rfl
    rcases List.mem_append.1 hc with hc | hc
    · exact absurd (hbody.braceless _ hc) (by decide)
    · simp at hc
  obtain ⟨d, front, rfl⟩ := List.exists_cons_of_ne_nil hne
  obtain ⟨-, hfront⟩ := List.cons.inj h
  cases front with
  | nil => simp at hfront
  | cons d front =>
    have hinside : body ++ ['\x7d'] = front ++ '@' :: back := (List.cons.inj hfront).2
    cases back with
    | nil =>
      have hlast := (List.append_inj' hinside rfl).2
      simp at hlast
    | cons c back =>
      refine ⟨c, back, rfl, hplain c ?_⟩
      rw [hinside]
      simp

/-- No island starts inside another one. -/
theorem no_island_inside {body' : List Char} (hbody : Island.IsBody body)
    (h : (island body).source ++ after = before ++ rest) (hrest : bodyAt? rest = some body') :
    before = [] ∨ ∃ between, before = (island body).source ++ between ∧ after = between ++ rest := by
  obtain ⟨-, rest', hrest'⟩ := bodyAt?_eq_some_iff.1 hrest
  rw [source_island, List.cons_append, List.cons_append] at hrest'
  rcases List.append_eq_append_iff.1 h with ⟨between, hbefore, hafter⟩ | ⟨inside, hsource, hinside⟩
  · exact .inr ⟨between, hbefore, hafter⟩
  cases inside with
  | nil => exact .inr ⟨[], by simp [hsource], hinside.symm⟩
  | cons c inside =>
    by_cases hbefore : before = []
    · exact .inl hbefore
    rw [hinside, List.cons_append] at hrest'
    obtain ⟨rfl, hbrace⟩ := List.cons.inj hrest'
    obtain ⟨d, back, rfl, hd⟩ := ne_brace_behind hbody hsource hbefore
    exact absurd (List.cons.inj hbrace).1 hd

/-- What is found are the places where an island starts. -/
theorem mem_islandsFrom_ofBlock : (start, stop, i) ∈ islandsFrom offset (ofBlock cs) ↔
    ∃ before rest body, cs = before ++ rest ∧ bodyAt? rest = some body ∧
      start = offset + byteLength before ∧ stop = start + byteLength (island body).source ∧
        i = Island.ofBody body := by
  induction cs using ofBlock.induct generalizing offset with
  | case1 =>
    rw [ofBlock]
    refine iff_of_false (by simp [islandsFrom]) ?_
    rintro ⟨before, rest, body, hcs, hbody, -⟩
    obtain ⟨-, rfl⟩ := List.append_eq_nil_iff.1 hcs.symm
    contradiction
  | case2 c rest body hbody ih =>
    have hsplit := eq_of_bodyAt? hbody
    have hdrop : (c :: rest).drop (body.length + 3) = rest.drop (body.length + 2) := rfl
    rw [hdrop] at hsplit
    rw [ofBlock, hbody]
    dsimp only
    rw [islandsFrom, List.mem_cons, ih]
    constructor
    · rintro (hfirst | ⟨before, rest', body', hcs, hbody', rfl, rfl, rfl⟩)
      · obtain ⟨rfl, rfl, rfl⟩ : start = offset ∧ stop = offset + byteLength (island body).source ∧
            i = Island.ofBody body := by simpa using hfirst
        exact ⟨[], c :: rest, body, rfl, hbody, rfl, rfl, rfl⟩
      · refine ⟨(island body).source ++ before, rest', body', ?_, hbody', ?_, rfl, rfl⟩
        · rw [hsplit, hcs, List.append_assoc]
        · rw [byteLength_append, Nat.add_assoc]
    · rintro ⟨before, rest', body', hcs, hbody', rfl, rfl, rfl⟩
      rcases no_island_inside (isBody_of_bodyAt? hbody) (hsplit.symm.trans hcs) hbody' with
        rfl | ⟨between, rfl, hbetween⟩
      · left
        rw [List.nil_append] at hcs
        rw [← hcs, hbody] at hbody'
        cases hbody'
        rfl
      · refine .inr ⟨between, rest', body', hbetween, hbody', ?_, rfl, rfl⟩
        rw [byteLength_append, Nat.add_assoc]
  | case3 c rest hnone ih =>
    rw [ofBlock, hnone]
    dsimp only
    rw [islandsFrom, ih]
    constructor
    · rintro ⟨before, rest', body, rfl, hbody, rfl, rfl, rfl⟩
      refine ⟨c :: before, rest', body, rfl, hbody, ?_, rfl, rfl⟩
      rw [byteLength_cons, Nat.add_assoc]
    · rintro ⟨before, rest', body, hcs, hbody, rfl, rfl, rfl⟩
      cases before with
      | nil =>
        rw [List.nil_append] at hcs
        rw [← hcs, hnone] at hbody
        contradiction
      | cons d before =>
        obtain ⟨rfl, rfl⟩ := List.cons.inj hcs
        refine ⟨before, rest', body, rfl, hbody, ?_, rfl, rfl⟩
        rw [byteLength_cons, Nat.add_assoc]

theorem offset_le_islandsFrom {parts : List BlockPart} :
    ∀ found ∈ islandsFrom offset parts, offset ≤ found.1 := by
  induction parts generalizing offset with
  | nil => simp [islandsFrom]
  | cons part parts ih =>
    cases part with
    | char c => exact fun found hfound => Nat.le_of_add_right_le (ih found hfound)
    | island body =>
      rw [islandsFrom, List.forall_mem_cons]
      exact ⟨Nat.le_refl _, fun found hfound => Nat.le_of_add_right_le (ih found hfound)⟩

/-- One island ends before the next one starts. -/
theorem pairwise_islandsFrom (offset : Nat) (parts : List BlockPart) :
    (islandsFrom offset parts).Pairwise fun found later => found.2.1 ≤ later.1 := by
  induction parts generalizing offset with
  | nil => exact .nil
  | cons part parts ih =>
    cases part with
    | char c => exact ih _
    | island body => exact .cons offset_le_islandsFrom (ih _)

end BlockPart

theorem Island.mem_all_iff {text : String} {start stop : Nat} {i : Island} :
    (start, stop, i) ∈ Island.all text ↔ StandsAt text.toList start stop i := by
  rw [all, BlockPart.mem_islandsFrom_ofBlock]
  constructor
  · rintro ⟨before, rest, body, hcs, hbody, rfl, rfl, hi⟩
    obtain ⟨hisBody, after, rfl⟩ := BlockPart.bodyAt?_eq_some_iff.1 hbody
    refine ⟨before, body, after, ?_, hisBody, Nat.zero_add _, rfl, asks_iff.2 hi⟩
    rw [hcs, List.append_assoc]
    rfl
  · rintro ⟨before, body, after, hcs, hbody, rfl, rfl, hi⟩
    refine ⟨before, (BlockPart.island body).source ++ after, body, ?_,
      BlockPart.bodyAt?_island hbody after, (Nat.zero_add _).symm, rfl, asks_iff.1 hi⟩
    rw [hcs, List.append_assoc]
    rfl

namespace Text

theorem byteLength_eq_utf8Len (cs : List Char) : byteLength cs = String.utf8Len cs := by
  induction cs with
  | nil => rfl
  | cons c cs ih => rw [byteLength_cons, String.utf8Len_cons, ih, Nat.add_comm]

/-- What stands in a text from one byte to another. -/
theorem extract_between {text : String} {before mid after : List Char}
    (h : text.toList = before ++ mid ++ after) :
    String.Pos.Raw.extract text ⟨byteLength before⟩ ⟨byteLength before + byteLength mid⟩ =
      String.ofList mid := by
  obtain rfl : text = String.ofList (before ++ mid ++ after) := by rw [← h, String.ofList_toList]
  rw [byteLength_eq_utf8Len, byteLength_eq_utf8Len]
  exact String.extract_of_valid before mid after

/-- A text with some of its ranges replaced, from a byte on. Each range has its first byte, the
byte behind its last one, and what is put in its place. -/
def replaceFrom (text : String) (cursor : Nat) : List (Nat × Nat × String) → String
  | [] => String.Pos.Raw.extract text ⟨cursor⟩ text.rawEndPos
  | (start, stop, value) :: more =>
    String.Pos.Raw.extract text ⟨cursor⟩ ⟨start⟩ ++ value ++ replaceFrom text stop more

theorem replaceFrom_nil {text : String} {before kept : List Char}
    (h : text.toList = before ++ kept) :
    replaceFrom text (byteLength before) [] = String.ofList kept := by
  have hend : text.rawEndPos = ⟨byteLength before + byteLength kept⟩ := by
    rw [← byteLength_append, ← h, byteLength_eq_utf8Len, ← String.rawEndPos_ofList,
      String.ofList_toList]
  rw [← List.append_nil (before ++ kept)] at h
  rw [replaceFrom, hend, extract_between h]

theorem replaceFrom_cons {text : String} {before kept rest : List Char}
    (h : text.toList = before ++ kept ++ rest) (stop : Nat) (value : String)
    (more : List (Nat × Nat × String)) :
    replaceFrom text (byteLength before)
        ((byteLength before + byteLength kept, stop, value) :: more) =
      String.ofList kept ++ value ++ replaceFrom text stop more := by
  rw [replaceFrom, extract_between h]

end Text

namespace Frame

open Text

variable {m : Type → Type} [Monad m]

/-- Renders an island that was found; its text is to go where it stands. -/
def renderFound (f : Frame m) (found : Nat × Nat × Island) :
    ExceptT EvaluationError m (Nat × Nat × String) := do
  let value ← f.renderIsland found.2.2
  return (found.1, found.2.1, value)

/-- The characters that are kept since the last island go in front of the next one. The induction
is on the parts, with these characters growing. -/
theorem renderParts_kept [LawfulMonad m] (f : Frame m) {text : String} {before kept : List Char}
    {parts : List BlockPart}
    (h : text.toList = before ++ kept ++ parts.flatMap BlockPart.source) :
    (do
      let rest ← f.renderParts parts
      return String.ofList kept ++ rest) = (do
      let filled ← (BlockPart.islandsFrom (byteLength before + byteLength kept) parts).mapM
        f.renderFound
      return replaceFrom text (byteLength before) filled) := by
  induction parts generalizing before kept with
  | nil =>
    rw [List.flatMap_nil, List.append_nil] at h
    simp [renderParts, BlockPart.islandsFrom, replaceFrom_nil h]
  | cons part parts ih =>
    rw [List.flatMap_cons, ← List.append_assoc] at h
    cases part with
    | char c =>
      have hkept (rest : String) : String.ofList kept ++ (String.singleton c ++ rest) =
          String.ofList (kept ++ [c]) ++ rest := String.toList_inj.1 (by simp)
      have hmore := @ih before (kept ++ [c]) (by rw [h, ← List.append_assoc]; rfl)
      rw [byteLength_append, byteLength_cons, byteLength_nil, Nat.add_zero] at hmore
      rw [BlockPart.islandsFrom, Nat.add_assoc, ← hmore, renderParts]
      simp [hkept]
    | island body =>
      have hmore := @ih (before ++ kept ++ (BlockPart.island body).source) []
        (by rw [h, List.append_nil])
      have hnil (rest : String) : String.ofList [] ++ rest = rest := String.toList_inj.1 (by simp)
      simp only [byteLength_append, byteLength_nil, Nat.add_zero, hnil, bind_pure] at hmore
      rw [BlockPart.islandsFrom, renderParts]
      rw [List.append_assoc] at h
      simp only [renderFound, List.mapM_cons, bind_assoc, pure_bind, hmore, replaceFrom_cons h,
        String.append_assoc]

/-- In a block the islands are replaced by their renderings, which are made in order, and every
other character stays where it is. -/
theorem renderParts_ofBlock [LawfulMonad m] (f : Frame m) (text : String) :
    f.renderParts (BlockPart.ofBlock text.toList) = do
      let filled ← (Island.all text).mapM f.renderFound
      return replaceFrom text 0 filled := by
  have hkept := @renderParts_kept m _ _ f text [] [] (BlockPart.ofBlock text.toList)
    (BlockPart.flatMap_source_ofBlock text.toList).symm
  have hnil (rest : String) : String.ofList [] ++ rest = rest := String.toList_inj.1 (by simp)
  simp only [hnil, bind_pure] at hkept
  exact hkept

end Frame

/-- The search of a text finds every island that stands in it, and nothing else, each with its range
and what it asks for. They come in order and do not overlap. Rendered as a block, the text keeps
every character but those of the ranges, where it has the renderings of the islands. -/
theorem Island.found_and_replaced (text : String) :
    (∀ start stop i, (start, stop, i) ∈ Island.all text ↔ StandsAt text.toList start stop i) ∧
      ((Island.all text).Pairwise fun found later => found.2.1 ≤ later.1) ∧
      ∀ (m : Type → Type) [Monad m] [LawfulMonad m] (f : Frame m),
        f.renderParts (BlockPart.ofBlock text.toList) = do
          let filled ← (Island.all text).mapM f.renderFound
          return Text.replaceFrom text 0 filled :=
  ⟨fun _ _ _ => mem_all_iff, BlockPart.pairwise_islandsFrom 0 _,
    fun _ _ _ f => f.renderParts_ofBlock text⟩

/-- Braces that open twice, that have nothing between them, and that do not close. -/
theorem Island.found_and_replaced_tangled :
    let text := "é@\x7ba@\x7bx\x7d@\x7b\x7d@\x7b[T]\x7d\x7b@\x7b[]@\x7by"
    StandsAt text.toList 5 9 (.expression "x") ∧ StandsAt text.toList 12 18 (.reference "T") ∧
      (∀ stop i, ¬ StandsAt text.toList 2 stop i) ∧
      ∀ (σ : Type) (f : Frame (Process σ)), f.renderParts (BlockPart.ofBlock text.toList) = do
        let value ← f.renderExpression "x"
        let rendered ← f.renderReference "T"
        return "é@\x7ba" ++ value ++ ("@\x7b\x7d" ++ rendered ++ "\x7b@\x7b[]@\x7by") := by
  intro text
  have hall : Island.all text = [(5, 9, .expression "x"), (12, 18, .reference "T")] := by
    decide +kernel
  obtain ⟨hmem, -, hrender⟩ := found_and_replaced text
  refine ⟨?_, ?_, ?_, fun σ f => ?_⟩
  · exact (hmem _ _ _).1 (by simp [hall])
  · exact (hmem _ _ _).1 (by simp [hall])
  · intro stop i h
    simpa [hall] using (hmem _ _ _).2 h
  · have hfirst : String.Pos.Raw.extract text 0 ⟨5⟩ = "é@\x7ba" := by decide +kernel
    have hsecond : String.Pos.Raw.extract text ⟨9⟩ ⟨12⟩ = "@\x7b\x7d" := by decide +kernel
    have hlast : String.Pos.Raw.extract text ⟨18⟩ text.rawEndPos = "\x7b@\x7b[]@\x7by" := by
      decide +kernel
    rw [hrender, hall]
    simp [Frame.renderFound, Frame.renderIsland, Text.replaceFrom, hfirst, hsecond, hlast]

end Phrasebook
