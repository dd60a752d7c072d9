import Phrasebook.Evaluator

namespace Phrasebook

variable {σ ε ε' α β : Type}

/-- The run from `e` has the result `a` and ends in `e'`. -/
def Yields (x : ExceptT ε (Process σ) α) (e : Evaluation σ) (a : α) (e' : Evaluation σ) : Prop :=
  x.run e = some (.ok a, e')

/-- The run from `e` ends with the error. -/
def FailsWith (x : ExceptT ε (Process σ) α) (e : Evaluation σ) (error : ε) : Prop :=
  ∃ e', x.run e = some (.error error, e')

section

variable {x : ExceptT ε (Process σ) α} {f : α → ExceptT ε (Process σ) β} {e e' : Evaluation σ}
  {error : ε}

theorem run_bind (x : ExceptT ε (Process σ) α) (f : α → ExceptT ε (Process σ) β)
    (e : Evaluation σ) :
    (x >>= f).run e = (x.run e).bind fun result => match result.1 with
      | .ok a => (f a).run result.2
      | .error error => some (.error error, result.2) := by
  change Option.bind (x.run e) _ = _
  congr 1
  funext result
  obtain ⟨outcome, e'⟩ := result
  cases outcome <;> rfl

theorem run_bind_of_yields {a : α} (h : Yields x e a e') : (x >>= f).run e = (f a).run e' := by
  rw [run_bind, h]
  rfl

/-- A sequence fails in its first part, or in the second one after the first. -/
theorem failsWith_bind : FailsWith (x >>= f) e error ↔
    FailsWith x e error ∨ ∃ a e', Yields x e a e' ∧ FailsWith (f a) e' error := by
  unfold FailsWith Yields
  rw [run_bind]
  cases hx : x.run e with
  | none => simp
  | some result =>
    obtain ⟨outcome, e₁⟩ := result
    cases outcome with
    | ok a =>
      constructor
      · intro h
        exact .inr ⟨a, e₁, rfl, h⟩
      · rintro (⟨e', h⟩ | ⟨a', e', h, hmore⟩)
        · cases h
        · cases h
          exact hmore
    | error first => simp

theorem yields_bind {b : β} : Yields (x >>= f) e b e' ↔
    ∃ a e₁, Yields x e a e₁ ∧ Yields (f a) e₁ b e' := by
  unfold Yields
  rw [run_bind]
  cases hx : x.run e with
  | none => simp
  | some result =>
    obtain ⟨outcome, e₁⟩ := result
    cases outcome with
    | ok a =>
      constructor
      · intro h
        exact ⟨a, e₁, rfl, h⟩
      · rintro ⟨a', e₂, h, hmore⟩
        cases h
        exact hmore
    | error first => simp

@[simp] theorem yields_pure {a b : α} : Yields (pure a : ExceptT ε (Process σ) α) e b e' ↔
    a = b ∧ e = e' := by
  change some (Except.ok a, e) = some (Except.ok b, e') ↔ _
  simp

@[simp] theorem failsWith_pure (a : α) :
    ¬ FailsWith (pure a : ExceptT ε (Process σ) α) e error := by
  rintro ⟨e', h⟩
  change some (Except.ok a, e) = some (Except.error error, e') at h
  cases h

@[simp] theorem failsWith_throw {first : ε} :
    FailsWith (throw first : ExceptT ε (Process σ) α) e error ↔ first = error := by
  constructor
  · rintro ⟨e', h⟩
    change some (Except.error first, e) = some (Except.error error, e') at h
    cases h
    rfl
  · rintro rfl
    exact ⟨e, rfl⟩

theorem run_ofResult (result : Except ε α) :
    (ofResult result : ExceptT ε (Process σ) α).run e = some (result, e) := by
  cases result <;> rfl

theorem ofResult_bind (result : Except ε α) (f : α → Except ε β) :
    (ofResult (result >>= f) : ExceptT ε (Process σ) β) =
      ofResult result >>= fun a => ofResult (f a) := by
  cases result <;> rfl

@[simp] theorem failsWith_ofResult {result : Except ε α} :
    FailsWith (ofResult result : ExceptT ε (Process σ) α) e error ↔ result = .error error := by
  cases result with
  | ok a => simp [ofResult]
  | error first => simp [ofResult]

@[simp] theorem yields_ofResult {result : Except ε α} {a : α} :
    Yields (ofResult result : ExceptT ε (Process σ) α) e a e' ↔ result = .ok a ∧ e = e' := by
  cases result with
  | ok b => simp [ofResult]
  | error first =>
    simp only [reduceCtorEq, false_and, iff_false]
    intro h
    cases h

@[simp] theorem failsWith_lift (x : Process σ α) :
    ¬ FailsWith (ExceptT.lift x : ExceptT ε (Process σ) α) e error := by
  rintro ⟨e', h⟩
  change Option.bind (x e) _ = _ at h
  cases hx : x e with
  | none =>
    rw [hx] at h
    cases h
  | some result =>
    rw [hx] at h
    cases h

/-- What is done with a result makes no failure. -/
@[simp] theorem failsWith_map {g : α → β} : FailsWith (g <$> x) e error ↔ FailsWith x e error := by
  rw [map_eq_pure_bind, failsWith_bind]
  simp

/-- A failure that is wrapped comes from the same failure. -/
theorem failsWith_adapt {g : ε → ε'} (hg : Function.Injective g) :
    FailsWith (ExceptT.adapt g x) e (g error) ↔ FailsWith x e error := by
  unfold FailsWith
  have hrun : (ExceptT.adapt g x).run e =
      (x.run e).map fun result => (result.1.mapError g, result.2) := by
    change Option.bind (x.run e) _ = _
    cases x.run e <;> rfl
  rw [hrun]
  cases hx : x.run e with
  | none => simp
  | some result =>
    obtain ⟨outcome, e₁⟩ := result
    simp [mapError_eq_error, hg.eq_iff]

end

/-- The turn of an element comes after those in front of it had theirs. -/
inductive Turn (f : β → ExceptT ε (Process σ) α) :
    List β → Evaluation σ → β → Evaluation σ → Prop where
  | here {b : β} {bs : List β} {e : Evaluation σ} : Turn f (b :: bs) e b e
  | later {b c : β} {bs : List β} {a : α} {e e₁ e' : Evaluation σ} (h : Yields (f b) e a e₁)
      (hmore : Turn f bs e₁ c e') : Turn f (b :: bs) e c e'

theorem Turn.mem {f : β → ExceptT ε (Process σ) α} {bs : List β} {b : β} {e e' : Evaluation σ}
    (h : Turn f bs e b e') : b ∈ bs := by
  induction h with
  | here => exact List.mem_cons_self
  | later h hmore ih => exact List.mem_cons_of_mem _ ih

/-- A list fails where one of its elements does at its turn. -/
theorem failsWith_mapM {f : β → ExceptT ε (Process σ) α} {bs : List β} {e : Evaluation σ}
    {error : ε} : FailsWith (bs.mapM f) e error ↔
      ∃ b e', Turn f bs e b e' ∧ FailsWith (f b) e' error := by
  induction bs generalizing e with
  | nil =>
    rw [List.mapM_nil]
    constructor
    · intro h
      exact absurd h (failsWith_pure _)
    · rintro ⟨b, e', hturn, -⟩
      cases hturn
  | cons c bs ih =>
    rw [List.mapM_cons, failsWith_bind]
    simp only [failsWith_bind, failsWith_pure, and_false, exists_false, or_false, ih]
    constructor
    · rintro (h | ⟨a, e₁, ha, b, e', hturn, h⟩)
      · exact ⟨c, e, .here, h⟩
      · exact ⟨b, e', .later ha hturn, h⟩
    · rintro ⟨b, e', hturn, h⟩
      cases hturn with
      | here => exact .inl h
      | later ha hmore => exact .inr ⟨_, _, ha, b, e', hmore, h⟩

namespace Frame

section

variable {m : Type → Type} [Monad m]

def chooseLine (f : Frame m) (lines : List Line) : ExceptT EvaluationError m (Option Line) :=
  match lines with
  | [] => pure none
  | first :: more => do
    let index ← f.choose (more.length + 1)
    return some ((first :: more)[min index more.length]?.getD first)

/-- The lines to choose from: those of the first case whose condition holds, or of the default. -/
def linesOfCases (f : Frame m) (otherwise : Clause) :
    List Clause → ExceptT EvaluationError m (List Line)
  | [] => pure otherwise.lines
  | clause :: clauses => do
    if ← f.holds clause.test then return clause.lines else f.linesOfCases otherwise clauses

/-- The line of a body that is rendered, if there is one. -/
def chosenLine (f : Frame m) : Body → ExceptT EvaluationError m (Option Line)
  | .choice lines => f.chooseLine lines
  | .conditional cases otherwise => do
    let lines ← f.linesOfCases otherwise cases
    f.chooseLine lines

variable [LawfulMonad m] (f : Frame m)

theorem renderChoice_eq (lines : List Line) :
    f.renderChoice lines =
      f.chooseLine lines >>= fun line => f.renderSegments (line.elim [] Line.segments) := by
  cases lines with
  | nil => simp [renderChoice, chooseLine, renderSegments]
  | cons first more => simp [renderChoice, chooseLine]

theorem renderCases_eq (otherwise : Clause) (cases : List Clause) :
    f.renderCases otherwise cases = f.linesOfCases otherwise cases >>= f.renderChoice := by
  induction cases with
  | nil => simp [renderCases, linesOfCases]
  | cons clause clauses ih =>
    rw [renderCases, linesOfCases, bind_assoc]
    congr 1
    funext holds
    cases holds with
    | true => simp
    | false => simpa using ih

/-- A body is rendered by choosing a line and rendering that. -/
theorem renderBody_eq (b : Body) : f.renderBody b =
    f.chosenLine b >>= fun line => f.renderSegments (line.elim [] Line.segments) := by
  cases b with
  | choice lines => exact f.renderChoice_eq lines
  | conditional cases otherwise =>
    rw [renderBody, chosenLine, renderCases_eq, bind_assoc]
    congr 1
    funext lines
    exact f.renderChoice_eq lines

theorem evalArguments_eq_mapM (texts : List String) :
    f.evalArguments texts = texts.mapM f.evalExpression := by
  induction texts with
  | nil => rw [evalArguments, List.mapM_nil]
  | cons text texts ih => rw [evalArguments, List.mapM_cons, ih]

theorem renderParts_islands (parts : List BlockPart) :
    (do let _ ← f.renderParts parts; return ()) =
      (do let _ ← (parts.filterMap BlockPart.island?).mapM f.renderIsland; return ()) := by
  induction parts with
  | nil => simp [renderParts]
  | cons part parts ih =>
    cases part with
    | char c =>
      rw [List.filterMap_cons_none rfl, ← ih]
      simp [renderParts]
    | island body =>
      have hcons : (BlockPart.island body :: parts).filterMap BlockPart.island? =
          Island.ofBody body :: parts.filterMap BlockPart.island? := rfl
      rw [hcons, List.mapM_cons]
      simp only [renderParts, bind_assoc, pure_bind]
      congr 1
      funext text
      exact ih

theorem renderSegment_islands (s : Segment) :
    (do let _ ← f.renderSegment s; return ()) =
      (do let _ ← s.islands.mapM f.renderIsland; return ()) := by
  cases s with
  | text raw => simp [renderSegment, Segment.islands]
  | expression raw => simp [renderSegment, Segment.islands, renderIsland]
  | reference raw => simp [renderSegment, Segment.islands, renderIsland]
  | block raw =>
    rw [Segment.islands_block]
    exact f.renderParts_islands _

theorem renderSegments_islands (ss : List Segment) :
    (do let _ ← f.renderSegments ss; return ()) =
      (do let _ ← (ss.flatMap Segment.islands).mapM f.renderIsland; return ()) := by
  induction ss with
  | nil => simp [renderSegments]
  | cons s ss ih =>
    have hfirst := f.renderSegment_islands s
    calc (do let _ ← f.renderSegments (s :: ss); return ())
        = (do let _ ← f.renderSegment s; return ()) >>= fun _ =>
            (do let _ ← f.renderSegments ss; return ()) := by simp [renderSegments]
      _ = (do let _ ← s.islands.mapM f.renderIsland; return ()) >>= fun _ =>
            (do let _ ← (ss.flatMap Segment.islands).mapM f.renderIsland; return ()) := by
          rw [hfirst, ih]
      _ = (do let _ ← ((s :: ss).flatMap Segment.islands).mapM f.renderIsland; return ()) := by
          simp

end

section

variable {f : Frame (Process σ)} {e e' : Evaluation σ} {error : EvaluationError}

theorem failsWith_renderSegments {ss : List Segment} :
    FailsWith (f.renderSegments ss) e error ↔
      ∃ i e', Turn f.renderIsland (ss.flatMap Segment.islands) e i e' ∧
        FailsWith (f.renderIsland i) e' error := by
  have hdone {α : Type} (x : ExceptT EvaluationError (Process σ) α) :
      FailsWith (do let _ ← x; return ()) e error ↔ FailsWith x e error := by
    simp
  rw [← failsWith_mapM, ← hdone, ← hdone ((ss.flatMap Segment.islands).mapM f.renderIsland),
    renderSegments_islands]

theorem not_failsWith_chooseLine (lines : List Line) :
    ¬ FailsWith (f.chooseLine lines) e error := by
  cases lines with
  | nil => exact failsWith_pure none
  | cons first more =>
    unfold chooseLine choose
    simp

theorem not_failsWith_linesOfCases (otherwise : Clause) (cases : List Clause) :
    ¬ FailsWith (f.linesOfCases otherwise cases) e error := by
  induction cases generalizing e with
  | nil => exact failsWith_pure _
  | cons clause clauses ih =>
    rw [linesOfCases, failsWith_bind]
    rintro (h | ⟨holds, e', -, h⟩)
    · unfold Frame.holds at h
      exact failsWith_lift _ h
    · cases holds with
      | true => exact failsWith_pure _ h
      | false => exact ih h

/-- Conditions and choices make no failure. -/
theorem not_failsWith_chosenLine (b : Body) : ¬ FailsWith (f.chosenLine b) e error := by
  cases b with
  | choice lines => exact not_failsWith_chooseLine lines
  | conditional cases otherwise =>
    rw [chosenLine, failsWith_bind]
    rintro (h | ⟨lines, e', -, h⟩)
    · exact not_failsWith_linesOfCases otherwise cases h
    · exact not_failsWith_chooseLine lines h

/-- A body fails where an island of the chosen line does at its turn. -/
theorem failsWith_renderBody {b : Body} : FailsWith (f.renderBody b) e error ↔
    ∃ line e₁ i e₂, Yields (f.chosenLine b) e (some line) e₁ ∧
      Turn f.renderIsland line.islands e₁ i e₂ ∧ FailsWith (f.renderIsland i) e₂ error := by
  rw [renderBody_eq, failsWith_bind]
  constructor
  · rintro (h | ⟨line, e₁, hline, h⟩)
    · exact absurd h (not_failsWith_chosenLine b)
    · obtain ⟨i, e₂, hturn, hisland⟩ := failsWith_renderSegments.1 h
      cases line with
      | none => cases hturn
      | some line => exact ⟨line, e₁, i, e₂, hline, hturn, hisland⟩
  · rintro ⟨line, e₁, i, e₂, hline, hturn, h⟩
    exact .inr ⟨some line, e₁, hline, failsWith_renderSegments.2 ⟨i, e₂, hturn, h⟩⟩

theorem mem_of_chooseLine {lines : List Line} {line : Line}
    (h : Yields (f.chooseLine lines) e (some line) e') : line ∈ lines := by
  cases lines with
  | nil =>
    have hnone := (yields_pure.1 h).1
    contradiction
  | cons first more =>
    unfold chooseLine at h
    obtain ⟨index, e₁, -, h⟩ := yields_bind.1 h
    have hline := Option.some.inj (yields_pure.1 h).1
    rw [← hline]
    cases hfound : (first :: more)[min index more.length]? with
    | none => exact List.mem_cons_self
    | some found => exact List.mem_of_getElem? hfound

theorem mem_of_linesOfCases {otherwise : Clause} {cases : List Clause} {lines : List Line}
    (h : Yields (f.linesOfCases otherwise cases) e lines e') :
    ∃ clause ∈ cases ++ [otherwise], clause.lines = lines := by
  induction cases generalizing e with
  | nil => exact ⟨otherwise, by simp, (yields_pure.1 h).1⟩
  | cons clause clauses ih =>
    rw [linesOfCases] at h
    obtain ⟨holds, e₁, -, h⟩ := yields_bind.1 h
    cases holds with
    | true => exact ⟨clause, List.mem_cons_self, (yields_pure.1 h).1⟩
    | false =>
      obtain ⟨found, hfound, hlines⟩ := ih h
      exact ⟨found, List.mem_cons_of_mem clause hfound, hlines⟩

theorem mem_of_chosenLine {b : Body} {line : Line}
    (h : Yields (f.chosenLine b) e (some line) e') : line ∈ b.allLines := by
  cases b with
  | choice lines => exact mem_of_chooseLine h
  | conditional cases otherwise =>
    obtain ⟨lines, e₁, hlines, h⟩ := yields_bind.1 h
    obtain ⟨clause, hclause, rfl⟩ := mem_of_linesOfCases hlines
    exact List.mem_flatMap.2 ⟨clause, hclause, mem_of_chooseLine h⟩

end

end Frame

end Phrasebook
