import Phrasebook.Expression.Reader

namespace Phrasebook

/-- A letter or an underscore, and then those and digits. -/
def IsName (name : String) : Prop :=
  ∃ c cs, name.toList = c :: cs ∧ Expr.startsName c ∧ ∀ d ∈ cs, Expr.continuesName d

instance (name : String) : Decidable (IsName name) :=
  match h : name.toList with
  | [] => isFalse (by simp [IsName, h])
  | c :: cs => decidable_of_iff (Expr.startsName c ∧ cs.all Expr.continuesName) (by
      rw [IsName, h, List.all_eq_true]
      constructor
      · exact fun hname => ⟨c, cs, rfl, hname⟩
      · rintro ⟨d, ds, hcs, hname⟩
        cases hcs
        exact hname)

inductive Word where
  | name (name : String)
  | number (n : Nat)
  | decimal (whole fraction : List Char)
  | text (content : String)
  | symbol (symbol : String)
  deriving DecidableEq

namespace Word

def IsDecimal : Word → Prop
  | decimal _ _ => True
  | _ => False

/-- The characters between two marks that stand for a content: mark and backslash are escaped. -/
inductive Quoted (mark : Char) : List Char → List Char → Prop where
  | nil : Quoted mark [] []
  | plain {c : Char} {body content : List Char} (hmark : c ≠ mark) (hescape : c ≠ '\\')
      (h : Quoted mark body content) : Quoted mark (c :: body) (c :: content)
  | escaped {c d : Char} {body content : List Char} (hc : Expr.escape? d = some c)
      (h : Quoted mark body content) : Quoted mark ('\\' :: d :: body) (c :: content)

inductive Spelling : Word → List Char → Prop where
  | name (name : String) : Spelling (.name name) name.toList
  | number {digits : List Char} (hne : digits ≠ []) (h : ∀ c ∈ digits, c.isDigit) :
      Spelling (.number (Nat.ofDigitChars 10 digits 0)) digits
  | decimal (whole fraction : List Char) : Spelling (.decimal whole fraction) (whole ++ '.' :: fraction)
  | text {mark : Char} {body content : List Char} (hmark : Text.isQuote mark)
      (h : Quoted mark body content) :
      Spelling (.text (String.ofList content)) (mark :: body ++ [mark])
  | symbol (symbol : String) : Spelling (.symbol symbol) symbol.toList

/-- The spellings of words, each after a gap. -/
inductive Written : List Word → List Char → Prop where
  | nil : Written [] []
  | cons {w : Word} {ws : List Word} {gap cs rest : List Char} (hgap : ∀ c ∈ gap, Text.isGap c)
      (hw : w.Spelling cs) (h : Written ws rest) : Written (w :: ws) (gap ++ (cs ++ rest))

section

variable {w : Word} {ws ws' : List Word} {gap cs cs' : List Char}

theorem written_cons : Written (w :: ws) cs ↔ ∃ gap used rest, cs = gap ++ (used ++ rest) ∧
    (∀ c ∈ gap, Text.isGap c) ∧ w.Spelling used ∧ Written ws rest := by
  constructor
  · intro h
    cases h with
    | cons hgap hw h => exact ⟨_, _, _, rfl, hgap, hw, h⟩
  · rintro ⟨gap, used, rest, rfl, hgap, hw, h⟩
    exact .cons hgap hw h

theorem written_symbol {symbol : String} : Written (.symbol symbol :: ws) cs ↔ ∃ gap rest,
    cs = gap ++ (symbol.toList ++ rest) ∧ (∀ c ∈ gap, Text.isGap c) ∧ Written ws rest := by
  rw [written_cons]
  constructor
  · rintro ⟨gap, used, rest, hcs, hgap, hw, h⟩
    cases hw
    exact ⟨gap, rest, hcs, hgap, h⟩
  · rintro ⟨gap, rest, hcs, hgap, h⟩
    exact ⟨gap, symbol.toList, rest, hcs, hgap, .symbol symbol, h⟩

theorem Spelling.written (h : w.Spelling cs) : Written [w] cs :=
  written_cons.2 ⟨[], cs, [], by simp, by simp, h, .nil⟩

theorem Written.append (h : Written ws cs) (h' : Written ws' cs') :
    Written (ws ++ ws') (cs ++ cs') := by
  induction h with
  | nil => exact h'
  | cons hgap hw h ih =>
    rw [List.append_assoc, List.append_assoc]
    exact .cons hgap hw ih

theorem Written.split (h : Written (ws ++ ws') cs) :
    ∃ as bs, cs = as ++ bs ∧ Written ws as ∧ Written ws' bs := by
  induction ws generalizing cs with
  | nil => exact ⟨[], cs, rfl, .nil, h⟩
  | cons w ws ih =>
    obtain ⟨gap, used, rest, rfl, hgap, hw, h⟩ := written_cons.1 h
    obtain ⟨as, bs, rfl, has, hbs⟩ := ih h
    refine ⟨gap ++ (used ++ as), bs, ?_, .cons hgap hw has, hbs⟩
    simp only [List.append_assoc]

/-- Words between two brackets. -/
theorem Written.enclosed {opening closing : String}
    (h : Written (.symbol opening :: ws ++ [.symbol closing]) cs) :
    ∃ gap inner gap', cs = gap ++ (opening.toList ++ (inner ++ (gap' ++ closing.toList))) ∧
      (∀ c ∈ gap, Text.isGap c) ∧ Written ws inner ∧ ∀ c ∈ gap', Text.isGap c := by
  rw [List.cons_append] at h
  obtain ⟨gap, rest, rfl, hgap, h⟩ := written_symbol.1 h
  obtain ⟨inner, close, rfl, hinner, h⟩ := h.split
  obtain ⟨gap', rest, rfl, hgap', h⟩ := written_symbol.1 h
  cases h
  rw [List.append_nil]
  exact ⟨gap, inner, gap', rfl, hgap, hinner, hgap'⟩

theorem length_lt_enclosed (gap : List Char) {opening : String} (hopening : opening ≠ "")
    (inner rest : List Char) : inner.length < (gap ++ (opening.toList ++ (inner ++ rest))).length := by
  have hpos : 0 < opening.toList.length := by
    rw [List.length_pos_iff, Ne, String.toList_eq_nil_iff]
    exact hopening
  simp only [List.length_append]
  omega

/-- A gap in front of the first word is part of the spelling. -/
theorem Written.after_gap (h : Written ws cs) (hne : ws ≠ []) (hgap : ∀ c ∈ gap, Text.isGap c) :
    Written ws (gap ++ cs) := by
  cases h with
  | nil => contradiction
  | cons hgap' hw h =>
    rw [← List.append_assoc]
    exact .cons (List.forall_mem_append.2 ⟨hgap, hgap'⟩) hw h

end

/-- A text that holds the words and gaps, and nothing else. -/
def Spelled (ws : List Word) (text : List Char) : Prop :=
  ∃ cs gap, text = cs ++ gap ∧ Written ws cs ∧ ∀ c ∈ gap, Text.isGap c

/-- Lists of words with commas between them. -/
def separated : List (List Word) → List Word
  | [] => []
  | ws :: wss => ws ++ wss.flatMap fun ws => .symbol "," :: ws

/-- The value that a word is a literal of. Whole numbers have to fit in 63 bits. -/
inductive Denotes : Word → Value → Prop where
  | null : Denotes (.name "null") .null
  | true : Denotes (.name "true") (.bool true)
  | false : Denotes (.name "false") (.bool false)
  | number {n : Nat} (h : n < Number.wordBound) : Denotes (.number n) (.int n)
  | decimal {whole fraction : List Char} (hwhole : whole ≠ []) (hfraction : fraction ≠ [])
      (hdigits : ∀ c ∈ whole ++ fraction, c.isDigit) :
      Denotes (.decimal whole fraction)
        (.ofDouble (.ofDecimal false (Nat.ofDigitChars 10 (whole ++ fraction) 0)
          (-(fraction.length : Int))))
  | text (content : String) : Denotes (.text content) (.text content)

end Word

namespace Expr

/-- The names that are literals where they stand alone. -/
def keywords : List String := ["true", "false", "null"]

open Word in
/-- The grammar. The bound tells how loosely the outermost operator binds: a bound of zero admits
primaries with their members and indexes, one admits signs in front, and `level + 1` admits
operators of that level. -/
inductive Derives : Nat → Expr → List Word → Prop where
  | literal {w : Word} {v : Value} (h : w.Denotes v) : Derives 0 (.literal v) [w]
  | identifier {name : String} (hname : IsName name) (h : name ∉ keywords) :
      Derives 0 (.identifier name) [.name name]
  | list (items : List (Expr × List Word))
      (h : ∀ item ∈ items, Derives (BinaryOp.levels + 1) item.1 item.2) :
      Derives 0 (.list (items.map Prod.fst))
        (.symbol "[" :: separated (items.map Prod.snd) ++ [.symbol "]"])
  | call {function : String} (hname : IsName function) (arguments : List (Expr × List Word))
      (h : ∀ argument ∈ arguments, Derives (BinaryOp.levels + 1) argument.1 argument.2) :
      Derives 0 (.call function (arguments.map Prod.fst))
        (.name function :: .symbol "(" :: separated (arguments.map Prod.snd) ++ [.symbol ")"])
  | bracketed {e : Expr} {ws : List Word} (h : Derives (BinaryOp.levels + 1) e ws) :
      Derives 0 e (.symbol "(" :: ws ++ [.symbol ")"])
  | member {target : Expr} {ws : List Word} {name : String} (h : Derives 0 target ws)
      (hname : IsName name) : Derives 0 (.member target name) (ws ++ [.symbol ".", .name name])
  | index {target key : Expr} {ws keyWords : List Word} (h : Derives 0 target ws)
      (hkey : Derives (BinaryOp.levels + 1) key keyWords) :
      Derives 0 (.index target key) (ws ++ .symbol "[" :: keyWords ++ [.symbol "]"])
  | unary (op : UnaryOp) {operand : Expr} {ws : List Word} (h : Derives 1 operand ws) :
      Derives 1 (.unary op operand) (.symbol op.symbol :: ws)
  | binary (op : BinaryOp) {left right : Expr} {ws rightWords : List Word}
      (hleft : Derives (op.level + 1) left ws) (hright : Derives op.level right rightWords) :
      Derives (op.level + 1) (.binary op left right) (ws ++ .symbol op.symbol :: rightWords)
  | loosen {bound : Nat} {e : Expr} {ws : List Word} (h : Derives bound e ws) :
      Derives (bound + 1) e ws

/-- Expressions with words that derive them. -/
def Lists (list : List (Expr × List Word)) : Prop :=
  ∀ item ∈ list, Derives (BinaryOp.levels + 1) item.1 item.2

theorem Derives.binary_of_level {op : BinaryOp} {level : Nat} (hlevel : op.level = level)
    {left right : Expr} {ws rightWords : List Word} (hleft : Derives (level + 1) left ws)
    (hright : Derives level right rightWords) :
    Derives (level + 1) (.binary op left right) (ws ++ .symbol op.symbol :: rightWords) := by
  subst hlevel
  exact .binary op hleft hright

theorem Derives.mono {bound bound' : Nat} {e : Expr} {ws : List Word} (h : Derives bound e ws)
    (hle : bound ≤ bound') : Derives bound' e ws := by
  induction hle with
  | refl => exact h
  | step _ ih => exact .loosen ih

end Expr

end Phrasebook
