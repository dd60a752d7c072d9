import Phrasebook.Proofs.Expression.Writing
import Phrasebook.Proofs.Template.Blame
import Phrasebook.Proofs.Token.Shape
import Phrasebook.Render.Correspondence

namespace Phrasebook

namespace Name

variable {c : Char}

theorem startsName_iff (h : startsIdentifier c) : Expr.startsName c ↔ c.isDigit = false := by
  unfold startsIdentifier Char.isAlphanum at h
  unfold Expr.startsName
  have hdigit : c.isAlpha = true → c.isDigit = false := by
    intro halpha
    apply Expr.isDigit_of_startsName
    simp [Expr.startsName, halpha]
  by_cases hc : c = '_'
  · subst hc
    decide
  · cases halpha : c.isAlpha <;> simp_all

theorem continuesName_iff (h : continuesIdentifier c) : Expr.continuesName c ↔ c ≠ '-' := by
  unfold continuesIdentifier at h
  unfold Expr.continuesName
  by_cases hc : c = '-'
  · subst hc
    decide
  · simp_all

/-- An identifier is a name in expressions unless it has a hyphen or starts with a digit. -/
theorem isName_iff {p : String} (h : isIdentifier p) :
    IsName p ↔ '-' ∉ p.toList ∧ ∀ c ∈ p.toList.head?, c.isDigit = false := by
  unfold isIdentifier at h
  unfold IsName
  cases hp : p.toList with
  | nil =>
    rw [hp] at h
    cases h
  | cons c cs =>
    rw [hp] at h
    simp only [isIdentifierChars, Bool.and_eq_true, List.all_eq_true] at h
    obtain ⟨hc, hcs⟩ := h
    have hfirst : '-' ≠ c := by
      rintro rfl
      contradiction
    have hrest : (∀ d ∈ cs, Expr.continuesName d) ↔ '-' ∉ cs := by
      constructor
      · intro hall hmem
        have hfalse := hall '-' hmem
        contradiction
      · intro hnone d hd
        apply (continuesName_iff (hcs d hd)).2
        rintro rfl
        exact hnone hd
    rw [List.mem_cons, not_or, ← hrest, List.head?_cons]
    simp only [Option.mem_some, forall_eq', ← startsName_iff hc]
    constructor
    · rintro ⟨d, ds, heq, hd, hds⟩
      cases heq
      exact ⟨⟨hfirst, hds⟩, hd⟩
    · rintro ⟨⟨-, hds⟩, hd⟩
      exact ⟨c, cs, rfl, hd, hds⟩

end Name

namespace Template

open Grammar Rule

variable {α : Type} {ts rest : List Token}

/-- What a repeated rule describes is described by the rule further on in the tokens. -/
theorem exists_suffix_of_many {r : Rule α} (hr : ByKinds r) {as : List α}
    (h : many r ts as rest) {a : α} (ha : a ∈ as) : ∃ start mid, start <:+ ts ∧ r start a mid := by
  induction h with
  | nil => cases ha
  | @cons ts mid rest b bs hb hmore ih =>
    rcases List.mem_cons.1 ha with rfl | ha
    · exact ⟨ts, mid, List.suffix_rfl, hb⟩
    · obtain ⟨start, mid', hstart, hrule⟩ := ih ha
      exact ⟨start, mid', hstart.trans (suffix_of_byKinds hr hb), hrule⟩

/-- The name is the text of an identifier among the tokens. -/
def HasIdentifier (ts : List Token) (name : String) : Prop :=
  ∃ t ∈ ts, t.kind = .identifier ∧ t.text = name

theorem HasIdentifier.of_suffix {name : String} (h : HasIdentifier rest name)
    (hsuffix : rest <:+ ts) : HasIdentifier ts name := by
  obtain ⟨t, ht, hname⟩ := h
  exact ⟨t, hsuffix.subset ht, hname⟩

theorem hasIdentifier_of_parameters {names : List String} (h : Grammar.parameters ts names rest)
    {name : String} (hname : name ∈ names) : HasIdentifier ts name := by
  rcases parameters_iff.1 h with
    ⟨o, mid, first, mid₁, more, mid₂, close, hopen, hfirst, hmore, -, rfl⟩ | ⟨rfl, -⟩
  · obtain ⟨rfl, -⟩ := terminal_iff.1 hopen
    obtain ⟨rfl, hkind⟩ := terminal_iff.1 hfirst
    rcases List.mem_cons.1 hname with rfl | hname
    · exact ⟨first, by simp, hkind, rfl⟩
    · obtain ⟨t, ht, rfl⟩ := List.mem_map.1 hname
      have hseparated : ByKinds (terminal .comma *> terminal .identifier) :=
        (ByKinds.terminal (by decide)).seqRight (.terminal (by decide))
      obtain ⟨start, mid, hstart, hrule⟩ := exists_suffix_of_many hseparated hmore ht
      obtain ⟨comma, rfl, -, hkind⟩ := separated_iff.1 hrule
      have ht : t ∈ mid₁ := hstart.subset (by simp)
      exact ⟨t, by simp [ht], hkind, rfl⟩
  · cases hname

theorem hasIdentifier_of_definition {t : Template} (h : definition ts t rest) {name : String}
    (hname : name ∈ t.parameters) : HasIdentifier ts name := by
  obtain ⟨hash, tail, rfl, hhash⟩ := head_of_definition h
  obtain ⟨n, mid, ps, mid₁, mid₂, b, hn, hps, -, -, rfl⟩ := (definition_iff hhash).1 h
  have hmid : mid <:+ tail := suffix_of_byKinds name_byKinds hn
  have hparameter : HasIdentifier mid name := hasIdentifier_of_parameters hps hname
  exact hparameter.of_suffix (hmid.trans (List.suffix_cons hash tail))

/-- The templates that are read are those that the definitions in the tokens describe. -/
theorem exists_definition_of_readAll {templates : List Template} (h : readAll ts = .ok templates)
    {t : Template} (ht : t ∈ templates) : ∃ start rest, start <:+ ts ∧ definition start t rest := by
  obtain ⟨paragraphs, rest, hmany, -, rfl⟩ := readAll_eq_ok_iff.1 h
  obtain ⟨paragraph, hparagraph, rfl⟩ := List.mem_filterMap.1 ht
  obtain ⟨start, mid, hstart, hrule⟩ := exists_suffix_of_many paragraph_byKinds hmany hparagraph
  rcases paragraph_iff.1 hrule with ⟨-, hnone⟩ | ⟨t', hdefinition, hsome⟩
  · cases hnone
  · cases hsome
    exact ⟨start, mid, hstart, hdefinition⟩

end Template

/-- The parameters of the templates in a source are identifiers. -/
theorem SourceFile.isIdentifier_of_parse {source : String} {file : SourceFile}
    (h : parse source = .ok file) {t : Template} (ht : t ∈ file.templates) {p : String}
    (hp : p ∈ t.parameters) : Name.isIdentifier p := by
  obtain ⟨tokens, htokens, h⟩ := bind_eq_ok.1 h
  obtain ⟨templates, htemplates, h⟩ := bind_eq_ok.1 h
  cases h
  obtain ⟨start, rest, hstart, hdefinition⟩ := Template.exists_definition_of_readAll htemplates ht
  obtain ⟨token, htoken, hkind, rfl⟩ :=
    (Template.hasIdentifier_of_definition hdefinition hp).of_suffix hstart
  exact (Token.shaped_of_scan htokens token htoken).isIdentifier hkind

namespace Expr

variable {m : Type → Type} [Monad m] (calls : Calls m) {p : String}

/-- A name that is no literal is looked up. -/
theorem evalText_name (hname : IsName p) (hkeyword : p ∉ keywords) {fields : Fields} {v : Value}
    (hv : Fields.get? fields p = some v) : evalText (.mapping fields) calls p = pure v := by
  have hspelled : Word.Spelled (words (.identifier p)) p.toList :=
    ⟨p.toList, [], (List.append_nil _).symm, (Word.Spelling.name p).written, by simp⟩
  have hread : read p.toList = .ok (.identifier p) :=
    read_of_spelled (writable_identifier.2 ⟨hname, hkeyword⟩) hspelled
  unfold evalText
  rw [hread]
  simp only [eval, Value.property?, hv, Option.getD_some]

/-- What is bound to something that is no name makes no difference to any expression. -/
theorem evalText_insert (hp : ¬(IsName p ∧ p ∉ keywords)) (fields : Fields) (v : Value)
    (text : String) :
    evalText (.mapping (Fields.insert p v fields)) calls text =
      evalText (.mapping fields) calls text := by
  apply rel_evalText (R := Correspondence.equality (ExceptT ExpressionError m))
  · intro e _
    exact Correspondence.equality_throws e
  · intro e he part hpart
    cases part with
    | identifier name =>
      have hne : p ≠ name := by
        rintro rfl
        exact hp (isName_of_read he hpart)
      change Fields.get? (Fields.insert p v fields) name = Fields.get? fields name
      rw [Fields.get?_insert, if_neg hne]
    | call function arguments =>
      cases hcall : calls function with
      | none => exact .inl ⟨hcall, hcall⟩
      | some f => exact .inr ⟨f, f, hcall, hcall, fun _ => rfl⟩
    | _ => exact trivial

end Expr

/-- A parameter of a template in a source is looked up by the expression that is written as it, in
every scope that binds it, if it has no hyphen, does not start with a digit and is none of the three
literals. Otherwise no expression at all depends on what it is bound to. -/
theorem SourceFile.parameters_in_expressions {source : String} {file : SourceFile}
    (h : parse source = .ok file) {t : Template} (ht : t ∈ file.templates) {p : String}
    (hp : p ∈ t.parameters) (m : Type → Type) [Monad m] (calls : Expr.Calls m) (fields : Fields)
    (v : Value) :
    let usable := '-' ∉ p.toList ∧ (∀ c ∈ p.toList.head?, c.isDigit = false) ∧ p ∉ Expr.keywords
    (usable → Fields.get? fields p = some v → Expr.evalText (.mapping fields) calls p = pure v) ∧
    (¬ usable → ∀ text, Expr.evalText (.mapping (Fields.insert p v fields)) calls text =
      Expr.evalText (.mapping fields) calls text) := by
  intro usable
  have hidentifier : Name.isIdentifier p := isIdentifier_of_parse h ht hp
  have husable : usable ↔ IsName p ∧ p ∉ Expr.keywords := by
    rw [Name.isName_iff hidentifier, and_assoc]
  constructor
  · intro huse hv
    obtain ⟨hname, hkeyword⟩ := husable.1 huse
    exact Expr.evalText_name calls hname hkeyword hv
  · intro huse text
    exact Expr.evalText_insert calls (fun hname => huse (husable.2 hname)) fields v text

/-- A template with two parameters, of which one has a hyphen and is used. -/
def hyphenated : SourceFile where
  templates :=
    [⟨"T", ["name", "user-name"],
      .choice [⟨[.expression "\x7buser-name\x7d"], ⟨2, 1, 21, 1, none⟩⟩], ⟨1, 1, 0, 1, none⟩⟩]
  sourceName := none

theorem parse_hyphenated :
    SourceFile.parse "# T(name, user-name)\n- \x7buser-name\x7d\n" = .ok hyphenated := by
  decide +kernel

theorem plain_parameter_is_looked_up :
    let fields : Fields := [("name", .text "Ann"), ("user-name", .text "Bob")]
    SourceFile.parse "# T(name, user-name)\n- \x7buser-name\x7d\n" = .ok hyphenated ∧
    ∃ t ∈ hyphenated.templates, "name" ∈ t.parameters ∧
      Fields.get? fields "name" = some (.text "Ann") ∧
      Expr.evalText (m := Id) (.mapping fields) (.ofFunctions .standard) "name" =
        pure (.text "Ann") := by
  intro fields
  have ht : hyphenated.templates[0] ∈ hyphenated.templates := List.mem_cons_self
  have hp : "name" ∈ hyphenated.templates[0].parameters := by decide
  have hfirst : ∀ c ∈ "name".toList.head?, c.isDigit = false := by
    intro c hc
    cases hc
    rfl
  have hlookup := (SourceFile.parameters_in_expressions parse_hyphenated ht hp Id
    (.ofFunctions .standard) fields (.text "Ann")).1 ⟨by decide, hfirst, by decide⟩
  exact ⟨parse_hyphenated, _, ht, hp, rfl, hlookup rfl⟩

/-- The hyphen of the other parameter is a minus sign. -/
theorem hyphenated_parameter_is_difference :
    let fields : Fields := [("name", .text "Ann"), ("user-name", .text "Bob")]
    SourceFile.parse "# T(name, user-name)\n- \x7buser-name\x7d\n" = .ok hyphenated ∧
    ∃ t ∈ hyphenated.templates, "user-name" ∈ t.parameters ∧
      Fields.get? fields "user-name" = some (.text "Bob") ∧
      Expr.evalText (m := Id) (.mapping fields) (.ofFunctions .standard) "user-name" =
        throw (.typeMismatch "-" "number" "null") ∧
      Expr.evalText (m := Id) (.mapping fields) (.ofFunctions .standard) "user-name" ≠
        pure (.text "Bob") := by
  intro fields
  have hread : Expr.read "user-name".toList =
      .ok (.binary .sub (.identifier "user") (.identifier "name")) := by rfl
  have hfails : Expr.evalText (m := Id) (.mapping fields) (.ofFunctions .standard) "user-name" =
      throw (.typeMismatch "-" "number" "null") := by
    unfold Expr.evalText
    rw [hread]
    rfl
  refine ⟨parse_hyphenated, _, List.mem_cons_self, by decide, rfl, hfails, ?_⟩
  rw [hfails]
  intro hsame
  cases hsame

end Phrasebook
