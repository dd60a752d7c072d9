import Mathlib.Data.List.Induction
import Phrasebook.Proofs.Evaluator.Discipline
import Phrasebook.Proofs.Registry.Loading
import Phrasebook.Template.Reader

namespace Phrasebook

variable {σ : Type}

namespace Fields

section

variable {pairs : List (String × Value)} {key : String} {v : Value}

theorem get?_ofPairs_concat (pairs : List (String × Value)) (k : String) (v : Value)
    (key : String) :
    get? (ofPairs (pairs ++ [(k, v)])) key =
      if k = key then some v else get? (ofPairs pairs) key := by
  rw [ofPairs_concat, get?_insert]

theorem isSome_get?_ofPairs :
    (get? (ofPairs pairs) key).isSome ↔ key ∈ pairs.map Prod.fst := by
  induction pairs using List.reverseRecOn with
  | nil => simp [ofPairs, get?]
  | append_singleton pairs pair ih =>
    rw [get?_ofPairs_concat]
    by_cases hk : pair.1 = key
    · simp [hk]
    · have hk' : key ≠ pair.1 := fun h => hk h.symm
      simp [hk, hk', ih]

theorem mem_of_get?_ofPairs (h : get? (ofPairs pairs) key = some v) : (key, v) ∈ pairs := by
  induction pairs using List.reverseRecOn with
  | nil => cases h
  | append_singleton pairs pair ih =>
    rw [get?_ofPairs_concat] at h
    by_cases hk : pair.1 = key
    · rw [if_pos hk, Option.some_inj] at h
      subst hk h
      simp
    · rw [if_neg hk] at h
      exact List.mem_append_left _ (ih h)

/-- The last pair with a key decides. -/
theorem get?_ofPairs_of_last {i : Nat} (hi : pairs[i]? = some (key, v))
    (hlast : ∀ j, i < j → ∀ w, pairs[j]? ≠ some (key, w)) :
    get? (ofPairs pairs) key = some v := by
  induction pairs using List.reverseRecOn with
  | nil => cases hi
  | append_singleton pairs pair ih =>
    obtain ⟨hlength, -⟩ := List.getElem?_eq_some_iff.1 hi
    rw [List.length_append, List.length_singleton] at hlength
    rw [get?_ofPairs_concat]
    by_cases heq : i = pairs.length
    · subst heq
      rw [List.getElem?_concat_length, Option.some_inj] at hi
      rw [hi, if_pos rfl]
    · have hlt : i < pairs.length := by omega
      have hother : pair.1 ≠ key := by
        intro hk
        apply hlast pairs.length hlt pair.2
        rw [List.getElem?_concat_length, ← hk]
      rw [if_neg hother]
      rw [List.getElem?_append_left hlt] at hi
      apply ih hi
      intro j hj w hjw
      obtain ⟨hjlt, -⟩ := List.getElem?_eq_some_iff.1 hjw
      apply hlast j hj w
      rw [List.getElem?_append_left hjlt]
      exact hjw

end

/-- Each parameter is bound to the argument in its place. -/
def Binds (fields : Fields) (parameters : List String) (arguments : List Value) : Prop :=
  ∀ (i : Nat) (parameter : String), parameters[i]? = some parameter →
    get? fields parameter = arguments[i]?

/-- What comes of binding parameters to as many arguments: nothing but the parameters is bound, each
to the argument in the last of its places. So no argument is lost if and only if parameters of the
same name have the same argument. -/
structure IsBinding (fields : Fields) (parameters : List String) (arguments : List Value) :
    Prop where
  keys : ∀ key, (get? fields key).isSome ↔ key ∈ parameters
  last : ∀ (i : Nat) (parameter : String), parameters[i]? = some parameter →
    parameter ∉ parameters.drop (i + 1) → get? fields parameter = arguments[i]?
  binds_iff : fields.Binds parameters arguments ↔
    ∀ i j : Nat, parameters[i]? = parameters[j]? → arguments[i]? = arguments[j]?
  binds_of_nodup : parameters.Nodup → fields.Binds parameters arguments

section

variable {parameters : List String} {arguments : List Value}
  (h : parameters.length = arguments.length)

include h

theorem isSome_get?_zip (key : String) :
    (get? (ofPairs (parameters.zip arguments)) key).isSome ↔ key ∈ parameters := by
  rw [isSome_get?_ofPairs, List.map_fst_zip (Nat.le_of_eq h)]

theorem get?_zip_of_last {i : Nat} {parameter : String} (hi : parameters[i]? = some parameter)
    (hlater : parameter ∉ parameters.drop (i + 1)) :
    get? (ofPairs (parameters.zip arguments)) parameter = arguments[i]? := by
  obtain ⟨hlt, -⟩ := List.getElem?_eq_some_iff.1 hi
  have hargument : arguments[i]? = some arguments[i] := List.getElem?_eq_getElem (h ▸ hlt)
  rw [hargument]
  apply get?_ofPairs_of_last (i := i)
  · exact List.getElem?_zip_eq_some.2 ⟨hi, hargument⟩
  · intro j hj w hw
    have hparameter : parameters[j]? = some parameter := (List.getElem?_zip_eq_some.1 hw).1
    apply hlater
    apply List.mem_of_getElem? (i := j - (i + 1))
    rw [List.getElem?_drop, Nat.add_sub_cancel' hj]
    exact hparameter

/-- What a name is bound to stands in one of its places. -/
theorem binds_zip_iff : Binds (ofPairs (parameters.zip arguments)) parameters arguments ↔
    ∀ i j : Nat, parameters[i]? = parameters[j]? → arguments[i]? = arguments[j]? := by
  constructor
  · intro hbinds i j hij
    cases hi : parameters[i]? with
    | none =>
      have hilt := List.getElem?_eq_none_iff.1 hi
      have hjlt := List.getElem?_eq_none_iff.1 (hij.symm.trans hi)
      rw [List.getElem?_eq_none (h ▸ hilt), List.getElem?_eq_none (h ▸ hjlt)]
    | some parameter =>
      have hleft := hbinds i parameter hi
      have hright := hbinds j parameter (hij.symm.trans hi)
      exact hleft.symm.trans hright
  · intro hsame i parameter hi
    have hsome := (isSome_get?_zip h parameter).2 (List.mem_of_getElem? hi)
    obtain ⟨v, hv⟩ := Option.isSome_iff_exists.1 hsome
    obtain ⟨j, hj⟩ := List.mem_iff_getElem?.1 (mem_of_get?_ofPairs hv)
    obtain ⟨hparameter, hargument⟩ := List.getElem?_zip_eq_some.1 hj
    rw [hv, hsame i j (hi.trans hparameter.symm)]
    exact hargument.symm

theorem isBinding_zip : IsBinding (ofPairs (parameters.zip arguments)) parameters arguments where
  keys := isSome_get?_zip h
  last i parameter := get?_zip_of_last h
  binds_iff := binds_zip_iff h
  binds_of_nodup := by
    intro hdistinct i parameter hi
    apply get?_zip_of_last h hi
    obtain ⟨hlt, rfl⟩ := List.getElem?_eq_some_iff.1 hi
    have hrest : (parameters.drop i).Nodup := hdistinct.sublist (List.drop_sublist i parameters)
    rw [List.drop_eq_getElem_cons hlt] at hrest
    exact (List.nodup_cons.1 hrest).1

end

end Fields

namespace Registry

variable {r : Registry} {name : String} {t : Template}

theorem bindArguments_whole (h : r.get? name = some t) (hparameters : t.parameters = [])
    (v : Value) : r.bindArguments name [v] = .ok v := by
  unfold bindArguments
  rw [Table.parameters?_of_get? h, hparameters]

theorem bindArguments_eq (h : r.get? name = some t) (arguments : List Value)
    (hwhole : ¬(t.parameters = [] ∧ arguments.length = 1)) :
    r.bindArguments name arguments =
      if t.parameters.length = arguments.length then
        .ok (.mapping (Fields.ofPairs (t.parameters.zip arguments)))
      else .error (.argumentCountMismatch name t.parameters.length arguments.length) := by
  unfold bindArguments
  rw [Table.parameters?_of_get? h]
  dsimp only
  split
  · simp_all
  · rfl

end Registry

namespace Builtin

variable {m : Type → Type} [Monad m] [LawfulMonad m] (r : Registry) (enter : Enter m)
  {name : String} (items : List Value)

theorem renderItems_eq_mapM (name : String) :
    renderItems r enter name items = items.mapM (fun item => do
      let scope ← ofResult (r.bindArguments name [item])
      enter name scope) := by
  induction items with
  | nil => rfl
  | cons item items ih =>
    rw [renderItems, List.mapM_cons, ih, bind_assoc]

/-- The items of a list are handed to a template that is known one after the other. -/
theorem foreach_known (h : r.contains name) :
    foreach r enter "foreach" [.list items, .text name] = (do
      let texts ← items.mapM fun item => do
        let scope ← ofResult (r.bindArguments name [item])
        enter name scope
      return .list (texts.map Value.text)) := by
  have heach : renderEach r enter "foreach" (.list items) (.text name) =
      renderItems r enter name items := by
    unfold renderEach listItems templateName ofResult
    rw [pure_bind, pure_bind, if_pos h]
  unfold foreach
  dsimp only
  rw [heach, renderItems_eq_mapM]

end Builtin

namespace Library

section

variable (l : Library σ)

/-- Renders the body of a template in a scope, on top of what is being rendered. -/
def enterBody (t : Template) (scope : Value) (e : Evaluation σ) :
    Option (Except EvaluationError String × Evaluation σ) :=
  (((l.frame l.evaluate).renderBody t.body).run (e.enter ⟨t.name, scope⟩)).map fun (outcome, e') =>
    (outcome, e'.leave t.name)

/-- Renders a template with arguments. -/
def call (name : String) (arguments : List Value) : ExceptT EvaluationError (Process σ) String := do
  let scope ← ofResult (l.registry.bindArguments name arguments)
  l.evaluate name scope

/-- The rule by which a template takes arguments: under the names of its parameters, or a single one
as its scope if it has no parameters. Where their numbers differ, its body is not entered. -/
structure TakesArguments (t : Template) (arguments : List Value) (e : Evaluation σ)
    (result : Option (Except EvaluationError String × Evaluation σ)) : Prop where
  bound : t.parameters ≠ [] → t.parameters.length = arguments.length →
    ∃ fields : Fields, fields.IsBinding t.parameters arguments ∧
      result = l.enterBody t (.mapping fields) e
  whole : ∀ v, t.parameters = [] → arguments = [v] → result = l.enterBody t v e
  empty : t.parameters = [] → arguments = [] → result = l.enterBody t (.mapping []) e
  refused : t.parameters.length ≠ arguments.length → ¬(t.parameters = [] ∧ arguments.length = 1) →
    result =
      some (.error (.argumentCountMismatch t.name t.parameters.length arguments.length), e)

theorem evalArguments_restores (c : CallStack) (texts : List String) :
    Restores c ((l.frame l.evaluate).evalArguments texts).run := by
  have hframe := l.frame_restores (l.evaluate_restores c)
  apply Frame.rel_evalArguments (R := (restoration c).except EvaluationError)
  intro text _
  exact hframe.evalExpression text

theorem renderReference_of_values {text name : String} {arguments : List String}
    (hparse : Reference.parse text = .ok ⟨name, some arguments⟩) {values : List Value}
    {e e' : Evaluation σ}
    (hvalues : ((l.frame l.evaluate).evalArguments arguments).run e = some (.ok values, e')) :
    ((l.frame l.evaluate).renderReference text).run e = (l.call name values).run e' := by
  unfold Frame.renderReference
  rw [hparse]
  change Option.bind (((l.frame l.evaluate).evalArguments arguments).run e) _ = _
  rw [hvalues]
  rfl

end

section

variable {l : Library σ} {t : Template} (ht : l.registry.get? t.name = some t)

include ht

theorem run_call_of_ok {arguments : List Value} {scope : Value}
    (h : l.registry.bindArguments t.name arguments = .ok scope) {e : Evaluation σ}
    (hnew : t.name ∉ e.calls.inFlight) :
    (l.call t.name arguments).run e = l.enterBody t scope e := by
  unfold call
  rw [h]
  change (l.evaluate t.name scope).run e = _
  rw [evaluate]
  exact l.enterOnce_known l.evaluate scope e ht hnew

theorem call_takesArguments (arguments : List Value) {e : Evaluation σ}
    (hnew : t.name ∉ e.calls.inFlight) :
    l.TakesArguments t arguments e ((l.call t.name arguments).run e) where
  bound := by
    intro hparameters hlength
    have hbind := Registry.bindArguments_eq ht arguments fun h => hparameters h.1
    rw [if_pos hlength] at hbind
    exact ⟨_, Fields.isBinding_zip hlength, run_call_of_ok ht hbind hnew⟩
  whole := by
    intro v hparameters harguments
    subst harguments
    exact run_call_of_ok ht (Registry.bindArguments_whole ht hparameters v) hnew
  empty := by
    intro hparameters harguments
    subst harguments
    have hbind := Registry.bindArguments_eq ht [] (by simp)
    rw [hparameters] at hbind
    exact run_call_of_ok ht hbind hnew
  refused := by
    intro hlength hwhole
    have hbind := Registry.bindArguments_eq ht arguments hwhole
    rw [if_neg hlength] at hbind
    unfold call
    rw [hbind]
    rfl

/-- A template that is not being rendered takes the arguments of a reference, once they have their
values, by the rule, and those of `foreach`, which are the items of a list, one by one by the same
rule. So it gets all its arguments if no two of its parameters share a name. -/
theorem arguments_make_scope :
    (∀ text arguments values (e e' : Evaluation σ), t.name ∉ e.calls.inFlight →
      Reference.parse text = .ok ⟨t.name, some arguments⟩ →
      ((l.frame l.evaluate).evalArguments arguments).run e = some (.ok values, e') →
      l.TakesArguments t values e' (((l.frame l.evaluate).renderReference text).run e)) ∧
    (∀ item (e : Evaluation σ), t.name ∉ e.calls.inFlight →
      l.TakesArguments t [item] e ((l.call t.name [item]).run e)) ∧
    ∃ foreach, (l.frame l.evaluate).calls "foreach" = some foreach ∧
      ∀ items, foreach [.list items, .text t.name] = Builtin.inExpression (do
        let texts ← items.mapM fun item => l.call t.name [item]
        return .list (texts.map Value.text)) := by
  refine ⟨?_, ?_, ?_⟩
  · intro text arguments values e e' hnew hparse hvalues
    rw [l.renderReference_of_values hparse hvalues]
    apply call_takesArguments ht
    obtain ⟨outcome, e'', hrun, hcalls⟩ := l.evalArguments_restores e.calls arguments e rfl
    have hend : (outcome, e'') = (.ok values, e') := Option.some_inj.1 (hrun.symm.trans hvalues)
    rw [← (Prod.mk.inj hend).2, hcalls]
    exact hnew
  · intro item e hnew
    exact call_takesArguments ht [item] hnew
  · refine ⟨_, rfl, ?_⟩
    intro items
    apply congrArg Builtin.inExpression
    apply Builtin.foreach_known
    exact Registry.Table.contains_of_get? ht

end

/-- A guest is greeted by a host. -/
def greeting : Registry :=
  .ofDistinct
    [⟨"Door", [], .choice [⟨[.reference "[Greet(guest, hosts[0])]"], ⟨2, 1, 7, 1, none⟩⟩],
        ⟨1, 1, 0, 1, none⟩⟩,
      ⟨"Greet", ["name", "host"],
        .choice [⟨[.expression "\x7bname\x7d", .text ", I am ", .expression "\x7bhost\x7d"],
          ⟨5, 1, 55, 1, none⟩⟩],
        ⟨4, 1, 35, 1, none⟩⟩]
    (by decide)

theorem greeting_gets_its_arguments :
    let l : Library Unit := ⟨greeting, .standard, .fixed 0⟩
    let scope : Value := .mapping [("guest", .text "Ann"), ("hosts", .list [.text "Bob"])]
    let e : Evaluation Unit := (Evaluation.start ()).enter ⟨"Door", scope⟩
    let values : List Value := [.text "Ann", .text "Bob"]
    ∃ t, l.registry.get? t.name = some t ∧ t.name = "Greet" ∧ t.name ∉ e.calls.inFlight ∧
      Reference.parse "Greet(guest, hosts[0])" = .ok ⟨t.name, some ["guest", "hosts[0]"]⟩ ∧
      ((l.frame l.evaluate).evalArguments ["guest", "hosts[0]"]).run e = some (.ok values, e) ∧
      ∃ fields : Fields, fields.Binds t.parameters values ∧
        ((l.frame l.evaluate).renderReference "Greet(guest, hosts[0])").run e =
          l.enterBody t (.mapping fields) e := by
  intro l scope e values
  have ht : l.registry.get? "Greet" = some greeting.templates[1] := by decide
  have hnew : "Greet" ∉ e.calls.inFlight := by decide
  have hparse : Reference.parse "Greet(guest, hosts[0])" =
      .ok ⟨"Greet", some ["guest", "hosts[0]"]⟩ := by decide +kernel
  have hvalues : ((l.frame l.evaluate).evalArguments ["guest", "hosts[0]"]).run e =
      some (.ok values, e) := by rfl
  have htakes :=
    (arguments_make_scope (t := greeting.templates[1]) ht).1 _ _ _ e e hnew hparse hvalues
  obtain ⟨fields, hbinding, hresult⟩ := htakes.bound (by decide) (by decide)
  exact ⟨greeting.templates[1], ht, rfl, hnew, hparse, hvalues, fields,
    hbinding.binds_of_nodup (by decide), hresult⟩

/-- A template with a parameter that is named twice, and a reference with an argument for each. -/
def doubled : Registry :=
  .ofDistinct
    [⟨"T", ["x", "x"], .choice [⟨[.expression "\x7bx\x7d"], ⟨2, 1, 10, 1, none⟩⟩],
        ⟨1, 1, 0, 1, none⟩⟩,
      ⟨"A", [], .choice [⟨[.reference "[T(1, 2)]"], ⟨5, 1, 21, 1, none⟩⟩], ⟨4, 1, 17, 1, none⟩⟩]
    (by decide)

/-- The template at hand, and what is bound to `x` there, as a text. -/
def textOfX (c : CallStack) : String × Option String :=
  (c.current.name, (c.current.scope.property? "x").map Value.toText)

/-- Of two arguments for parameters of the same name the first is lost. -/
theorem doubled_parameter_loses_argument :
    SourceFile.parse "# T(x, x)\n- \x7bx\x7d\n\n# A\n- [T(1, 2)]\n" =
      .ok ⟨doubled.templates, none⟩ ∧
    let l : Library Unit := ⟨doubled, .standard, .fixed 0⟩
    ∃ e', (l.evaluate "A" .null).run (.start ()) = some (.ok "2", e') ∧
      (∃ c ∈ e'.entered, c.current.name = "T") ∧
      ∀ c ∈ e'.entered, c.current.name = "T" →
        c.current.scope.property? "x" ≠ some (.int 1) := by
  refine ⟨by decide +kernel, ?_⟩
  intro l
  have hreport : ((l.evaluateWithin 3 "A" .null).run (.start ())).map
      (fun r => (r.1.toOption, r.2.entered.map textOfX)) =
        some (some "2", [("A", none), ("T", some "2")]) := by decide +kernel
  obtain ⟨⟨outcome, e'⟩, hrun, hresult⟩ := Option.map_eq_some_iff.1 hreport
  obtain ⟨houtcome, hentered⟩ := Prod.mk.inj hresult
  have htext : outcome = .ok "2" := by
    cases outcome <;> cases houtcome
    rfl
  subst htext
  refine ⟨e', l.evaluate_of_evaluateWithin hrun, ?_, ?_⟩
  · have hmem : ("T", some "2") ∈ e'.entered.map textOfX := by simp [hentered]
    obtain ⟨c, hc, hname⟩ := List.mem_map.1 hmem
    exact ⟨c, hc, (Prod.mk.inj hname).1⟩
  · intro c hc hname hfirst
    have hmem : textOfX c ∈ e'.entered.map textOfX := List.mem_map_of_mem hc
    have hone : textOfX c = ("T", some "1") := by
      unfold textOfX
      rw [hname, hfirst]
      decide
    rw [hentered, hone] at hmem
    simp at hmem

end Library

end Phrasebook
