import Phrasebook.Proofs.Evaluator.Demands
import Phrasebook.Proofs.Registry.Loading

namespace Phrasebook

variable {σ : Type}

namespace Builtin

/-- The names of the function that renders a template for each item and joins the renderings. -/
def joiners : List String := ["foreachThenJoin", "humanize", "newParameter"]

theorem named?_of_mem_joiners {m : Type → Type} [Monad m] (r : Registry) (enter : Enter m)
    {function : String} (h : function ∈ joiners) :
    named? r enter function = some (foreachThenJoin r enter function) := by
  unfold joiners at h
  simp only [List.mem_cons, List.not_mem_nil, or_false] at h
  obtain rfl | rfl | rfl := h <;> rfl

/-- Up to two texts have `last` between them. Of more, the final one has `last` in front of it, and
those before it have `separator` between them. -/
inductive Listed (separator last : String) : List String → String → Prop where
  | few {texts : List String} (h : texts.length < 3) :
    Listed separator last texts ((" " ++ last ++ " ").intercalate texts)
  | many {texts : List String} (h : 2 ≤ texts.length) (final : String) :
    Listed separator last (texts ++ [final])
      ((separator ++ " ").intercalate texts ++ " " ++ last ++ " " ++ final)

section

variable {separator last text : String} {texts : List String}

theorem joinWithLast_of_length_lt (h : texts.length < 3) :
    joinWithLast separator last texts = (" " ++ last ++ " ").intercalate texts := by
  unfold joinWithLast
  split
  · rename_i hreverse
    have hlength := congrArg List.length hreverse
    rw [List.length_reverse] at hlength
    simp only [List.length_cons] at hlength
    omega
  · rfl

theorem joinWithLast_append (h : 2 ≤ texts.length) (final : String) :
    joinWithLast separator last (texts ++ [final]) =
      (separator ++ " ").intercalate texts ++ " " ++ last ++ " " ++ final := by
  unfold joinWithLast
  rw [List.reverse_append, List.reverse_singleton, List.singleton_append]
  obtain ⟨c, b, rest, hreverse⟩ : ∃ c b rest, texts.reverse = c :: b :: rest := by
    match hreverse : texts.reverse with
    | c :: b :: rest => exact ⟨c, b, rest, rfl⟩
    | [] | [_] =>
      have hlength := congrArg List.length hreverse
      rw [List.length_reverse] at hlength
      simp only [List.length_cons, List.length_nil] at hlength
      omega
  rw [hreverse]
  dsimp only
  rw [← hreverse, List.reverse_reverse]
  rfl

theorem listed_iff : Listed separator last texts text ↔ joinWithLast separator last texts = text := by
  constructor
  · rintro (h | ⟨h, final⟩)
    · exact joinWithLast_of_length_lt h
    · exact joinWithLast_append h final
  · rintro rfl
    by_cases hfew : texts.length < 3
    · rw [joinWithLast_of_length_lt hfew]
      exact .few hfew
    · have hne : texts ≠ [] := by
        rintro rfl
        exact hfew (by decide)
      rw [← List.dropLast_append_getLast hne]
      have hmany : 2 ≤ texts.dropLast.length := by
        rw [List.length_dropLast]
        omega
      rw [joinWithLast_append hmany]
      exact .many hmany _

end

/-- Outcomes that are the same, or refusals of arguments for the same reason: the first by
`function`, the second by one of `others`. -/
inductive SameButName {α : Type} (function : String) (others : List String) :
    Except EvaluationError α → Except EvaluationError α → Prop where
  | same (outcome : Except EvaluationError α) : SameButName function others outcome outcome
  | refused {other : String} (h : other ∈ others) (why : String) :
    SameButName function others (.error (.argumentShape function why))
      (.error (.argumentShape other why))

section

variable {α : Type} {function other : String} {others : List String}

theorem SameButName.ok_iff {one two : Except EvaluationError α}
    (h : SameButName function others one two) (a : α) : one = .ok a ↔ two = .ok a := by
  cases h with
  | same => rfl
  | refused => simp

theorem sameButName_listItems (h : other ∈ others) (v : Value) :
    SameButName function others (listItems function v) (listItems other v) := by
  cases v with
  | list items => exact .same _
  | _ => exact .refused h _

theorem sameButName_templateName (h : other ∈ others) (v : Value) :
    SameButName function others (templateName function v) (templateName other v) := by
  cases v with
  | text name => exact .same _
  | _ => exact .refused h _

/-- Both computations end, in the same state, with outcomes that are the same but for names. -/
def otherName (σ : Type) (function : String) (others : List String) :
    Correspondence (ExceptT EvaluationError (Process σ)) (ExceptT EvaluationError (Process σ)) where
  Rel x y := ∀ e, ∃ one two e', x.run e = some (one, e') ∧ y.run e = some (two, e') ∧
    SameButName function others one two
  pure a := fun e => ⟨.ok a, .ok a, e, rfl, rfl, .same _⟩
  bind := by
    intro α β x y f g hx hf e
    obtain ⟨one, two, e', hone, htwo, hsame⟩ := hx e
    rw [run_bind, run_bind, hone, htwo]
    -- After a refusal neither goes on; otherwise both go on from the same state.
    cases hsame with
    | refused h why => exact ⟨_, _, e', rfl, rfl, .refused h why⟩
    | same =>
      cases one with
      | ok a => exact hf a e'
      | error error => exact ⟨_, _, e', rfl, rfl, .same _⟩

theorem otherName_throws (error : EvaluationError) : (otherName σ function others).Throws error :=
  fun _ e => ⟨_, _, e, rfl, rfl, .same _⟩

theorem otherName_ofResult {one two : Except EvaluationError α}
    (h : SameButName function others one two) :
    (otherName σ function others).Rel (ofResult one) (ofResult two) := by
  intro e
  exact ⟨one, two, e, run_ofResult one, run_ofResult two, h⟩

theorem otherName_evaluate (l : Library σ) (name : String) (scope : Value) :
    (otherName σ function others).Rel (l.evaluate name scope) (l.evaluate name scope) := by
  intro e
  obtain ⟨outcome, e', hrun, -⟩ := l.evaluate_restores e.calls name scope e rfl
  exact ⟨outcome, outcome, e', hrun, hrun, .same _⟩

variable (l : Library σ)

theorem otherName_renderEach (h : other ∈ others) (list name : Value) :
    (otherName σ function others).Rel (renderEach l.registry l.evaluate function list name)
      (renderEach l.registry l.evaluate other list name) := by
  have hthrow (error : EvaluationError) (_ : ¬ error.IsCycle) :
      (otherName σ function others).Throws error := otherName_throws error
  have hregistry := Registry.Matches.refl hthrow l.registry
  unfold renderEach
  refine (otherName σ function others).bind (otherName_ofResult (sameButName_listItems h list))
    fun items => ?_
  refine (otherName σ function others).bind (otherName_ofResult (sameButName_templateName h name))
    fun name => ?_
  exact hregistry.known name
    (rel_renderItems hregistry name (fun scope => otherName_evaluate l name scope) items)

theorem renderEach_ends (function : String) (list name : Value) (e : Evaluation σ) :
    ∃ outcome e',
      (renderEach l.registry l.evaluate function list name).run e = some (outcome, e') := by
  have hself : (otherName σ function [function]).Rel _ _ :=
    otherName_renderEach l (List.mem_singleton_self function) list name
  obtain ⟨outcome, -, e', hrun, -, -⟩ := hself e
  exact ⟨outcome, e', hrun⟩

@[simp] theorem map_toText_text (texts : List String) :
    (texts.map Value.text).map Value.toText = texts := by
  rw [List.map_map]
  exact List.map_id texts

theorem join_list (function : String) (items : List Value) (separator last : Value) :
    join function [.list items, separator, last] = (do
      let separator ← separatorText function separator
      let last ← separatorText function last
      return .text (joinWithLast separator last (items.map Value.toText))) := rfl

/-- With two texts as separators a list comes to the text in which those of its items are listed,
and with anything else to a refusal. -/
theorem join_eq_ok_iff {items : List Value} {separator last v : Value} :
    join function [.list items, separator, last] = .ok v ↔
      ∃ comma word text, separator = .text comma ∧ last = .text word ∧
        Listed comma word (items.map Value.toText) text ∧ v = .text text := by
  rw [join_list]
  constructor
  · intro h
    obtain ⟨comma, hcomma, h⟩ := bind_eq_ok.1 h
    obtain ⟨word, hword, h⟩ := bind_eq_ok.1 h
    cases separator <;> cases hcomma
    cases last <;> cases hword
    cases h
    exact ⟨_, _, _, rfl, rfl, listed_iff.2 rfl, rfl⟩
  · rintro ⟨comma, word, text, rfl, rfl, hlisted, rfl⟩
    rw [← listed_iff.1 hlisted]
    rfl

theorem sameButName_join (h : other ∈ others) (items : List Value) (separator last : Value) :
    SameButName function others (join function [.list items, separator, last])
      (join other [.list items, separator, last]) := by
  rw [join_list, join_list]
  cases separator with
  | text comma =>
    cases last with
    | text word => exact .same _
    | _ => exact .refused h _
  | _ => exact .refused h _

/-- `foreach`, and `join` on what it gives. -/
def joinAfterForeach (list name separator last : Value) :
    ExceptT EvaluationError (Process σ) Value := do
  let rendered ← foreach l.registry l.evaluate "foreach" [list, name]
  ofResult (join "join" [rendered, separator, last])

theorem joinAfterForeach_eq (list name separator last : Value) :
    joinAfterForeach l list name separator last =
      renderEach l.registry l.evaluate "foreach" list name >>= fun texts =>
        ofResult (join "join" [.list (texts.map Value.text), separator, last]) := by
  unfold joinAfterForeach foreach
  rw [bind_assoc]
  simp only [pure_bind]

theorem foreachThenJoin_eq (list name separator last : Value) :
    foreachThenJoin l.registry l.evaluate function [list, name, separator, last] =
      renderEach l.registry l.evaluate function list name >>= fun texts =>
        ofResult (join function [.list (texts.map Value.text), separator, last]) := by
  unfold foreachThenJoin joinEach
  dsimp only
  congr 1
  funext texts
  rw [join_list, map_toText_text, ofResult_bind]
  congr 1
  funext separator
  rw [ofResult_bind]
  rfl

theorem foreachThenJoin_default (function : String) (list name separator : Value) :
    foreachThenJoin l.registry l.evaluate function [list, name, separator] =
      foreachThenJoin l.registry l.evaluate function [list, name, separator, .text "and"] := rfl

theorem otherName_joinAfterForeach (list name separator last : Value) :
    (otherName σ function ["foreach", "join"]).Rel
      (foreachThenJoin l.registry l.evaluate function [list, name, separator, last])
      (joinAfterForeach l list name separator last) := by
  rw [foreachThenJoin_eq, joinAfterForeach_eq]
  refine (otherName σ function _).bind (otherName_renderEach l (by decide) list name)
    fun texts => ?_
  exact otherName_ofResult (sameButName_join (by decide) _ separator last)

variable {r : Registry} {enter : Enter (Process σ)} {e e' : Evaluation σ} {texts : List String}

theorem length_of_renderItems {name : String} {items : List Value}
    (h : Yields (renderItems r enter name items) e texts e') : texts.length = items.length := by
  induction items generalizing e e' texts with
  | nil =>
    obtain ⟨rfl, -⟩ := yields_pure.1 h
    rfl
  | cons item items ih =>
    obtain ⟨scope, e₁, -, h⟩ := yields_bind.1 h
    obtain ⟨text, e₂, -, h⟩ := yields_bind.1 h
    obtain ⟨more, e₃, hmore, h⟩ := yields_bind.1 h
    rw [← (yields_pure.1 h).1, List.length_cons, List.length_cons, ih hmore]

/-- Every item of the list has its text. -/
theorem exists_items_of_renderEach {list name : Value}
    (h : Yields (renderEach r enter function list name) e texts e') :
    ∃ items, list = .list items ∧ texts.length = items.length := by
  obtain ⟨items, e₁, hitems, h⟩ := yields_bind.1 h
  obtain ⟨template, e₂, -, h⟩ := yields_bind.1 h
  obtain ⟨hitems, -⟩ := yields_ofResult.1 hitems
  have hlist : list = .list items := by
    unfold listItems at hitems
    split at hitems <;> cases hitems
    rfl
  split at h
  · exact ⟨items, hlist, length_of_renderItems h⟩
  · cases h

/-- What items are rendered to within a bound, they are rendered to. -/
theorem renderEach_of_evaluateWithin {l : Library σ} {depth : Nat} {list name : Value}
    {result : Except EvaluationError (List String) × Evaluation σ}
    (h : (renderEach l.registry (l.evaluateWithin depth) function list name).run e = some result) :
    (renderEach l.registry l.evaluate function list name).run e = some result := by
  have hthrow (error : EvaluationError) (_ : ¬ error.IsCycle) :
      (Library.refinement.except EvaluationError).Throws (m := Process σ) (n := Process σ) error :=
    Library.refinement.except_throws error
  obtain hnone | hsame := rel_renderEach hthrow (.refl hthrow l.registry)
    (l.evaluateWithin_refines depth) function list name e
  · exact absurd (h.symm.trans hnone) (Option.some_ne_none result)
  · exact hsame.symm.trans h

end

end Builtin

namespace Session

variable {s : Session σ} {function : String}

section

variable {f : List Value → ExceptT EvaluationError (Process σ) Value}
  (hf : Builtin.named? s.library.registry s.library.evaluate function = some f)

include hf

/-- A function of templates is called by running it. -/
theorem call_eq_map (arguments : List Value) :
    s.call function arguments = ((f arguments).run s.evaluation).map fun (outcome, e) =>
      (outcome.mapError ExpressionError.template, ⟨s.library, e⟩) := by
  have hcalls : (s.library.frame s.library.evaluate).calls function = _ :=
    Builtin.calls_of_named s.library.fallback hf
  have hrun : (Builtin.inExpression (f arguments)).run s.evaluation =
      ((f arguments).run s.evaluation).map fun (outcome, e) =>
        (outcome.mapError ExpressionError.template, e) := by
    change Option.bind ((f arguments).run s.evaluation) _ = _
    cases (f arguments).run s.evaluation <;> rfl
  unfold call
  split
  · rename_i hnone
    rw [hcalls] at hnone
    cases hnone
  · rename_i g hg
    obtain rfl := Option.some.inj (hcalls.symm.trans hg)
    -- The call reads its result off a run that is known to end.
    obtain ⟨⟨outcome, e⟩, hend⟩ :=
      Option.isSome_iff_exists.1 (s.library.call_ends hg arguments s.evaluation)
    simp only [hend, Option.get_some]
    rw [hrun] at hend
    obtain ⟨⟨result, e'⟩, hresult, hmap⟩ := Option.map_eq_some_iff.1 hend
    cases hmap
    rw [hresult]
    rfl

theorem call_of_named {arguments : List Value} {outcome : Except EvaluationError Value}
    {e : Evaluation σ} (h : (f arguments).run s.evaluation = some (outcome, e)) :
    s.call function arguments =
      some (outcome.mapError ExpressionError.template, ⟨s.library, e⟩) := by
  rw [call_eq_map hf, h]
  rfl

theorem call_congr {arguments arguments' : List Value} (h : f arguments = f arguments') :
    s.call function arguments = s.call function arguments' := by
  rw [call_eq_map hf, call_eq_map hf, h]

end

theorem call_join (s : Session σ) (arguments : List Value) :
    s.call "join" arguments =
      some ((Builtin.join "join" arguments).mapError ExpressionError.template, s) := by
  apply call_of_named rfl
  cases Builtin.join "join" arguments <;> rfl

theorem call_foreach_of_renderEach {list name : Value}
    {outcome : Except EvaluationError (List String)} {e : Evaluation σ}
    (h : (Builtin.renderEach s.library.registry s.library.evaluate "foreach" list name).run
      s.evaluation = some (outcome, e)) :
    s.call "foreach" [list, name] =
      some ((outcome.map fun texts => .list (texts.map Value.text)).mapError
        ExpressionError.template, ⟨s.library, e⟩) := by
  have hforeach : (Builtin.foreach s.library.registry s.library.evaluate "foreach"
      [list, name]).run s.evaluation =
        some (outcome.map fun texts => .list (texts.map Value.text), e) := by
    unfold Builtin.foreach
    dsimp only
    rw [run_bind, h]
    cases outcome <;> rfl
  exact call_of_named rfl hforeach

/-- `foreach` makes a text of every item of a list, or fails. -/
theorem call_foreach (s : Session σ) (list name : Value) :
    (∃ items texts e, list = .list items ∧ texts.length = items.length ∧
      Yields (Builtin.renderEach s.library.registry s.library.evaluate "foreach" list name)
        s.evaluation texts e ∧
      s.call "foreach" [list, name] = some (.ok (.list (texts.map Value.text)), ⟨s.library, e⟩)) ∨
    ∃ error e,
      (Builtin.renderEach s.library.registry s.library.evaluate "foreach" list name).run
        s.evaluation = some (.error error, e) ∧
      s.call "foreach" [list, name] = some (.error (.template error), ⟨s.library, e⟩) := by
  obtain ⟨outcome, e, hrun⟩ := Builtin.renderEach_ends s.library "foreach" list name s.evaluation
  have hcall := call_foreach_of_renderEach hrun
  cases outcome with
  | ok texts =>
    obtain ⟨items, hlist, hlength⟩ := Builtin.exists_items_of_renderEach hrun
    exact .inl ⟨items, texts, e, hlist, hlength, hrun, hcall⟩
  | error error => exact .inr ⟨error, e, hrun, hcall⟩

/-- Calls `foreach`, and after it `join` with the separators on what that gave. A failure of
`foreach` is one of both. -/
def joinAfterForeach (s : Session σ) (list name separator last : Value) :
    Option (Except ExpressionError Value × Session σ) :=
  match s.call "foreach" [list, name] with
  | some (.ok rendered, after) => after.call "join" [rendered, separator, last]
  | failed => failed

theorem joinAfterForeach_eq {list name separator last : Value}
    {outcome : Except EvaluationError Value} {e : Evaluation σ}
    (h : (Builtin.joinAfterForeach s.library list name separator last).run s.evaluation =
      some (outcome, e)) :
    s.joinAfterForeach list name separator last =
      some (outcome.mapError ExpressionError.template, ⟨s.library, e⟩) := by
  rw [Builtin.joinAfterForeach_eq] at h
  unfold joinAfterForeach
  obtain ⟨items, texts, e₁, -, -, hrun, hcall⟩ | ⟨error, e₁, hrun, hcall⟩ :=
    s.call_foreach list name
  · rw [run_bind_of_yields hrun, run_ofResult] at h
    rw [hcall]
    cases h
    exact call_join _ _
  · rw [run_bind, hrun] at h
    rw [hcall]
    cases h
    rfl

/-- Both ways end in the same state, with outcomes that are the same but for names. -/
theorem call_joiner (s : Session σ) (h : function ∈ Builtin.joiners)
    (list name separator last : Value) : ∃ one two after,
      s.call function [list, name, separator, last] =
        some (one.mapError ExpressionError.template, after) ∧
      s.joinAfterForeach list name separator last =
        some (two.mapError ExpressionError.template, after) ∧
      Builtin.SameButName function ["foreach", "join"] one two := by
  obtain ⟨one, two, e, hone, htwo, hsame⟩ :=
    Builtin.otherName_joinAfterForeach s.library list name separator last s.evaluation
  have hnamed := Builtin.named?_of_mem_joiners s.library.registry s.library.evaluate h
  exact ⟨one, two, ⟨s.library, e⟩, call_of_named hnamed hone, joinAfterForeach_eq htwo, hsame⟩

/-- What joining after `foreach` comes to, if it succeeds. -/
theorem joinAfterForeach_ok_iff (s after : Session σ) (list name separator last v : Value) :
    s.joinAfterForeach list name separator last = some (.ok v, after) ↔
      ∃ items comma word texts text, list = .list items ∧ texts.length = items.length ∧
        separator = .text comma ∧ last = .text word ∧
        s.call "foreach" [list, name] = some (.ok (.list (texts.map Value.text)), after) ∧
        Builtin.Listed comma word texts text ∧ v = .text text := by
  unfold joinAfterForeach
  constructor
  · intro h
    obtain ⟨items, texts, e, hlist, hlength, -, hcall⟩ | ⟨error, e, -, hcall⟩ :=
      s.call_foreach list name
    · rw [hcall] at h
      obtain ⟨hjoin, rfl⟩ := Prod.mk.inj (Option.some.inj ((call_join _ _).symm.trans h))
      obtain ⟨comma, word, text, hseparator, hlast, hlisted, hv⟩ :=
        Builtin.join_eq_ok_iff.1 (mapError_eq_ok.1 hjoin)
      rw [Builtin.map_toText_text] at hlisted
      exact ⟨items, comma, word, texts, text, hlist, hlength, hseparator, hlast, hcall, hlisted, hv⟩
    · rw [hcall] at h
      cases h
  · rintro ⟨items, comma, word, texts, text, -, -, rfl, rfl, hcall, hlisted, rfl⟩
    have hjoin : Builtin.join "join" [.list (texts.map Value.text), .text comma, .text word] =
        .ok (.text text) := by
      apply Builtin.join_eq_ok_iff.2
      rw [Builtin.map_toText_text]
      exact ⟨comma, word, text, rfl, rfl, hlisted, rfl⟩
    rw [hcall]
    dsimp only
    rw [call_join, hjoin]
    rfl

/-- Under each of its names the function that joins renderings ends as `foreach` and `join` in turn
do, in the same state and with the same outcome, but for the name in a refusal of arguments. It
succeeds for two texts as separators only, and then with the text in which the renderings of the
items are listed. -/
theorem foreachThenJoin_is_join_after_foreach (s : Session σ) (h : function ∈ Builtin.joiners)
    (list name separator last : Value) :
    (∃ one two after,
      s.call function [list, name, separator, last] =
        some (one.mapError ExpressionError.template, after) ∧
      s.joinAfterForeach list name separator last =
        some (two.mapError ExpressionError.template, after) ∧
      Builtin.SameButName function ["foreach", "join"] one two) ∧
    (∀ v after, s.call function [list, name, separator, last] = some (.ok v, after) ↔
      s.joinAfterForeach list name separator last = some (.ok v, after)) ∧
    (∀ v after, s.joinAfterForeach list name separator last = some (.ok v, after) ↔
      ∃ items comma word texts text, list = .list items ∧ texts.length = items.length ∧
        separator = .text comma ∧ last = .text word ∧
        s.call "foreach" [list, name] = some (.ok (.list (texts.map Value.text)), after) ∧
        Builtin.Listed comma word texts text ∧ v = .text text) ∧
    s.call function [list, name, separator] =
      s.call function [list, name, separator, .text "and"] := by
  have hnamed := Builtin.named?_of_mem_joiners s.library.registry s.library.evaluate h
  have hdefault := Builtin.foreachThenJoin_default s.library function list name separator
  refine ⟨s.call_joiner h list name separator last, ?_,
    fun v after => s.joinAfterForeach_ok_iff after list name separator last v,
    call_congr hnamed hdefault⟩
  intro v after
  obtain ⟨one, two, end', hone, htwo, hsame⟩ := s.call_joiner h list name separator last
  rw [hone, htwo]
  simp only [Option.some.injEq, Prod.mk.injEq, mapError_eq_ok, hsame.ok_iff]

/-- A template that puts its argument between brackets. -/
def bracketing : Library Unit where
  registry :=
    .ofDistinct
      [⟨"Echo", ["x"],
        .choice [⟨[.text "<", .expression "\x7bx\x7d", .text ">"], ⟨2, 1, 10, 1, none⟩⟩],
        ⟨1, 1, 0, 1, none⟩⟩]
      (by decide)
  fallback := .standard
  picker := .fixed 0

theorem humanize_is_join_after_foreach :
    let s : Session Unit := .start bracketing ()
    let list : Value := .list [.text "a", .text "b", .text "c"]
    ∃ after,
      s.call "humanize" [list, .text "Echo", .text ","] =
        some (.ok (.text "<a>, <b> and <c>"), after) ∧
      s.joinAfterForeach list (.text "Echo") (.text ",") (.text "and") =
        some (.ok (.text "<a>, <b> and <c>"), after) := by
  intro s list
  have hname : "humanize" ∈ Builtin.joiners := by decide
  obtain ⟨-, hsame, hread, hdefault⟩ := s.foreachThenJoin_is_join_after_foreach hname list
    (.text "Echo") (.text ",") (.text "and")
  have hwithin : ((Builtin.renderEach s.library.registry (s.library.evaluateWithin 1) "foreach"
      list (.text "Echo")).run s.evaluation).map (fun r => r.1.toOption) =
        some (some ["<a>", "<b>", "<c>"]) := by decide +kernel
  obtain ⟨⟨outcome, e⟩, hrun, htexts⟩ := Option.map_eq_some_iff.1 hwithin
  have hforeach := call_foreach_of_renderEach (Builtin.renderEach_of_evaluateWithin hrun)
  cases outcome with
  | error error => cases htexts
  | ok texts =>
    cases htexts
    have hlisted : Builtin.Listed "," "and" ["<a>", "<b>", "<c>"] "<a>, <b> and <c>" :=
      Builtin.listed_iff.2 (by decide +kernel)
    have hturns := (hread (.text "<a>, <b> and <c>") ⟨bracketing, e⟩).2
      ⟨_, _, _, _, _, rfl, rfl, rfl, rfl, hforeach, hlisted, rfl⟩
    exact ⟨_, hdefault.trans ((hsame _ _).2 hturns), hturns⟩

end Session

end Phrasebook
