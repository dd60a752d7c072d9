import Phrasebook.Proofs.Expression.Completeness
import Phrasebook.Proofs.Expression.Soundness

namespace Phrasebook

/-- The values that have a literal; of the numbers these are the whole ones up to 63 bits. -/
def Value.HasLiteral : Value → Prop
  | .null | .bool _ | .text _ => True
  | .number (.int i) => 0 ≤ i ∧ i < Number.wordBound
  | _ => False

instance : DecidablePred Value.HasLiteral
  | .null | .bool _ | .text _ => isTrue trivial
  | .number (.int i) => inferInstanceAs (Decidable (0 ≤ i ∧ i < Number.wordBound))
  | .number (.float _) | .list _ | .mapping _ => isFalse id

theorem Double.toInt?_nonneg {x : Double} {i : Int} (hx : x.negative = false)
    (h : x.toInt? = some i) : 0 ≤ i := by
  unfold Double.toInt? at h
  rw [hx] at h
  split at h
  · cases h
    exact Int.natCast_nonneg _
  · contradiction

theorem Value.integral?_range {x : Double} {i : Int} (hx : x.negative = false)
    (h : Value.integral? x = some i) : 0 ≤ i ∧ i < Number.wordBound := by
  unfold Value.integral? at h
  have hlimit : Value.integralLimit ≤ Number.wordBound := by decide
  split at h
  · rename_i j hj
    have hnonneg : 0 ≤ j := Double.toInt?_nonneg hx hj
    split at h
    · cases h
      omega
    · contradiction
  · contradiction

theorem Value.hasLiteral_ofDecimal (digits : Nat) (exponent : Int) :
    (Value.ofDouble (.ofDecimal false digits exponent)).HasLiteral ∨
    ∃ x, Value.ofDouble (.ofDecimal false digits exponent) = .number (.float x) := by
  unfold Value.ofDouble
  split
  · rename_i i hi
    exact .inl (Value.integral?_range rfl hi)
  · split
    · exact .inr ⟨_, rfl⟩
    · exact .inl trivial

namespace Word

/-- The characters of a word, with double quotes around a text. -/
def characters : Word → List Char
  | name s => s.toList
  | number n => Nat.toDigits 10 n
  | decimal whole fraction => whole ++ '.' :: fraction
  | text content =>
    '"' :: (content.toList.flatMap fun c => if c = '"' ∨ c = '\\' then ['\\', c] else [c]) ++ ['"']
  | symbol s => s.toList

theorem quoted_characters (content : List Char) :
    Quoted '"' (content.flatMap fun c => if c = '"' ∨ c = '\\' then ['\\', c] else [c]) content := by
  induction content with
  | nil => exact .nil
  | cons c content ih =>
    rw [List.flatMap_cons]
    by_cases hc : c = '"' ∨ c = '\\'
    · rw [if_pos hc]
      refine .escaped ?_ ih
      rcases hc with rfl | rfl <;> rfl
    · rw [if_neg hc]
      rw [not_or] at hc
      exact .plain hc.1 hc.2 ih

theorem spelling_characters (w : Word) : w.Spelling w.characters := by
  cases w with
  | name s => exact .name s
  | number n =>
    have hdigits : ∀ c ∈ Nat.toDigits 10 n, c.isDigit :=
      fun c hc => Nat.isDigit_of_mem_toDigits (by decide) (by decide) hc
    have h := Spelling.number Nat.toDigits_ne_nil hdigits
    rwa [Nat.ofDigitChars_ten_toDigits] at h
  | decimal whole fraction => exact .decimal whole fraction
  | text content =>
    have h := @Spelling.text '"' _ _ rfl (quoted_characters content.toList)
    rwa [String.ofList_toList] at h
  | symbol s => exact .symbol s

theorem written_characters (ws : List Word) : Written ws (ws.flatMap characters) := by
  induction ws with
  | nil => exact .nil
  | cons w ws ih =>
    exact written_cons.2 ⟨[], w.characters, ws.flatMap characters, rfl, by simp,
      spelling_characters w, ih⟩

end Word

namespace Expr

open Word (Written Spelled separated)

/-- How loosely the outermost operator binds. -/
def rank : Expr → Nat
  | .unary _ _ => 1
  | .binary op _ _ => op.level + 1
  | _ => 0

/-- The words of a literal; only null, truth values, texts and whole numbers have some. -/
def literalWords : Value → List Word
  | .null => [.name "null"]
  | .bool b => [.name (if b then "true" else "false")]
  | .number (.int i) => [.number i.toNat]
  | .text content => [.text content]
  | _ => []

/-- Brackets around an expression that binds more loosely than its place admits. -/
def enclose (bound : Nat) (e : Expr) (ws : List Word) : List Word :=
  if e.rank ≤ bound then ws else .symbol "(" :: ws ++ [.symbol ")"]

mutual

/-- The words of an expression. The right operand of an operator has to bind more tightly than it,
since operators of one level group to the left. -/
def words : Expr → List Word
  | .literal v => literalWords v
  | .list items => .symbol "[" :: separated (wordsAll items) ++ [.symbol "]"]
  | .identifier name => [.name name]
  | .member target name => enclose 0 target (words target) ++ [.symbol ".", .name name]
  | .index target key =>
    enclose 0 target (words target) ++ .symbol "[" :: words key ++ [.symbol "]"]
  | .call function arguments =>
    .name function :: .symbol "(" :: separated (wordsAll arguments) ++ [.symbol ")"]
  | .unary op operand => .symbol op.symbol :: enclose 1 operand (words operand)
  | .binary op left right =>
    enclose (op.level + 1) left (words left) ++
      .symbol op.symbol :: enclose op.level right (words right)

def wordsAll : List Expr → List (List Word)
  | [] => []
  | e :: es => words e :: wordsAll es

end

/-- The expression as a text without gaps. -/
def write (e : Expr) : String := String.ofList (e.words.flatMap Word.characters)

/-- What the expression itself needs to be written; its parts may need more. -/
def Plain : Expr → Prop
  | .literal v => v.HasLiteral
  | .identifier name => IsName name ∧ name ∉ keywords
  | .member _ name => IsName name
  | .call function _ => IsName function
  | _ => True

instance : DecidablePred Plain
  | .literal v => inferInstanceAs (Decidable v.HasLiteral)
  | .identifier name => inferInstanceAs (Decidable (IsName name ∧ name ∉ keywords))
  | .member _ name => inferInstanceAs (Decidable (IsName name))
  | .call function _ => inferInstanceAs (Decidable (IsName function))
  | .list _ | .index _ _ | .unary _ _ | .binary _ _ _ => isTrue trivial

/-- An expression that can be written. -/
def Writable (e : Expr) : Prop := ∀ part ∈ e.parts, part.Plain

instance : DecidablePred Writable := fun e => inferInstanceAs (Decidable (∀ part ∈ e.parts, _))

section

variable {e e' : Expr} {es : List Expr} {name : String}

theorem writable_literal {v : Value} : (literal v).Writable ↔ v.HasLiteral := by
  simp [Writable, parts, Plain]

theorem writable_identifier : (identifier name).Writable ↔ IsName name ∧ name ∉ keywords := by
  simp [Writable, parts, Plain]

theorem forall_mem_partsAll :
    (∀ part ∈ partsAll es, part.Plain) ↔ ∀ e ∈ es, e.Writable := by
  simp only [mem_partsAll, Writable]
  constructor
  · exact fun h e he part hpart => h part ⟨e, he, hpart⟩
  · rintro h part ⟨e, he, hpart⟩
    exact h e he part hpart

theorem writable_list : (list es).Writable ↔ ∀ e ∈ es, e.Writable := by
  rw [← forall_mem_partsAll]
  simp [Writable, parts, Plain]

theorem writable_call : (call name es).Writable ↔ IsName name ∧ ∀ e ∈ es, e.Writable := by
  rw [← forall_mem_partsAll]
  simp [Writable, parts, Plain]

theorem writable_member : (member e name).Writable ↔ IsName name ∧ e.Writable := by
  simp [Writable, parts, Plain]

theorem writable_index : (index e e').Writable ↔ e.Writable ∧ e'.Writable := by
  simp [Writable, parts, Plain, or_imp, forall_and]

theorem writable_unary {op : UnaryOp} : (unary op e).Writable ↔ e.Writable := by
  simp [Writable, parts, Plain]

theorem writable_binary {op : BinaryOp} :
    (binary op e e').Writable ↔ e.Writable ∧ e'.Writable := by
  simp [Writable, parts, Plain, or_imp, forall_and]

end

theorem derives_literalWords {v : Value} (h : v.HasLiteral) :
    Derives 0 (.literal v) (literalWords v) := by
  unfold Value.HasLiteral at h
  split at h
  · exact .literal .null
  · rename_i b
    cases b
    · exact .literal .false
    · exact .literal .true
  · exact .literal (.text _)
  · rename_i i
    obtain ⟨n, rfl⟩ := Int.eq_ofNat_of_zero_le h.1
    exact .literal (.number (by omega))
  · contradiction

theorem rank_le (e : Expr) : e.rank ≤ BinaryOp.levels + 1 := by
  cases e with
  | unary op operand => exact Nat.succ_le_succ (Nat.zero_le _)
  | binary op left right => exact Nat.succ_le_succ op.level_le
  | _ => exact Nat.zero_le _

theorem derives_enclose {e : Expr} {ws : List Word} (h : Derives e.rank e ws) (bound : Nat) :
    Derives bound e (enclose bound e ws) := by
  unfold enclose
  split
  · rename_i hle
    exact h.mono hle
  · exact (Derives.bracketed (h.mono e.rank_le)).mono (Nat.zero_le bound)

mutual

theorem derives_words : ∀ e : Expr, e.Writable → Derives e.rank e e.words
  | .literal v, h => by
    rw [writable_literal] at h
    exact derives_literalWords h
  | .list items, h => by
    rw [writable_list] at h
    obtain ⟨list, rfl, hwords, hlist⟩ := derives_wordsAll items h
    rw [words, hwords]
    exact .list list hlist
  | .identifier name, h => by
    rw [writable_identifier] at h
    exact .identifier h.1 h.2
  | .member target name, h => by
    rw [writable_member] at h
    have htarget := derives_words target h.2
    rw [words]
    exact .member (derives_enclose htarget 0) h.1
  | .index target key, h => by
    rw [writable_index] at h
    have htarget := derives_words target h.1
    have hkey := derives_words key h.2
    rw [words]
    exact .index (derives_enclose htarget 0) (hkey.mono key.rank_le)
  | .call function arguments, h => by
    rw [writable_call] at h
    obtain ⟨list, rfl, hwords, hlist⟩ := derives_wordsAll arguments h.2
    rw [words, hwords]
    exact .call h.1 list hlist
  | .unary op operand, h => by
    rw [writable_unary] at h
    have hoperand := derives_words operand h
    rw [words]
    exact .unary op (derives_enclose hoperand 1)
  | .binary op left right, h => by
    rw [writable_binary] at h
    have hleft := derives_words left h.1
    have hright := derives_words right h.2
    rw [words]
    exact .binary op (derives_enclose hleft _) (derives_enclose hright _)

theorem derives_wordsAll : ∀ es : List Expr, (∀ e ∈ es, e.Writable) →
    ∃ list, es = list.map Prod.fst ∧ wordsAll es = list.map Prod.snd ∧ Lists list
  | [], _ => ⟨[], rfl, rfl, by simp [Lists]⟩
  | e :: es, h => by
    rw [List.forall_mem_cons] at h
    have he := (derives_words e h.1).mono e.rank_le
    obtain ⟨list, hes, hwords, hlist⟩ := derives_wordsAll es h.2
    refine ⟨(e, e.words) :: list, ?_, ?_, List.forall_mem_cons.2 ⟨he, hlist⟩⟩
    · rw [hes]
      rfl
    · rw [wordsAll, hwords]
      rfl

end

/-- The literals that cannot be written. -/
def IsFloat : Expr → Prop
  | .literal (.number (.float _)) => True
  | _ => False

/-- All parts of an expression can be written, but for floats that decimals stand for. -/
def Accounted (e : Expr) (ws : List Word) : Prop :=
  ∀ part ∈ e.parts, part.Plain ∨ part.IsFloat ∧ ∃ w ∈ ws, w.IsDecimal

theorem Accounted.mono {e : Expr} {ws ws' : List Word} (h : Accounted e ws) (hws : ws ⊆ ws') :
    Accounted e ws' := by
  intro part hpart
  rcases h part hpart with hplain | ⟨hfloat, w, hw, hdecimal⟩
  · exact .inl hplain
  · exact .inr ⟨hfloat, w, hws hw, hdecimal⟩

theorem subset_separated {wss : List (List Word)} {ws : List Word} (hws : ws ∈ wss) :
    ws ⊆ separated wss := by
  intro w hw
  cases wss with
  | nil => contradiction
  | cons first wss =>
    rw [separated, List.mem_append, List.mem_flatMap]
    rcases List.mem_cons.1 hws with rfl | hws
    · exact .inl hw
    · exact .inr ⟨ws, hws, List.mem_cons_of_mem _ hw⟩

theorem accounted_all {list : List (Expr × List Word)}
    (h : ∀ item ∈ list, Accounted item.1 item.2) {e : Expr} (he : e ∈ list.map Prod.fst) :
    Accounted e (separated (list.map Prod.snd)) := by
  obtain ⟨item, hitem, rfl⟩ := List.mem_map.1 he
  exact (h item hitem).mono (subset_separated (List.mem_map_of_mem hitem))

theorem accounted_literal {w : Word} {v : Value} (h : w.Denotes v) :
    Accounted (.literal v) [w] := by
  intro part hpart
  rw [parts, List.mem_singleton] at hpart
  subst hpart
  cases h with
  | number hn => exact .inl ⟨Int.natCast_nonneg _, Int.ofNat_lt.2 hn⟩
  | @decimal whole fraction =>
    rcases Value.hasLiteral_ofDecimal (Nat.ofDigitChars 10 (whole ++ fraction) 0) (-(fraction.length : Int))
      with h | ⟨x, hx⟩
    · exact .inl h
    · rw [hx]
      exact .inr ⟨trivial, _, List.mem_singleton_self _, trivial⟩
  | _ => exact .inl trivial

/-- Only decimals keep what the grammar derives from being written again. -/
theorem Derives.accounted {bound : Nat} {e : Expr} {ws : List Word} (h : Derives bound e ws) :
    Accounted e ws := by
  induction h with
  | literal hw => exact accounted_literal hw
  | identifier hname hkeyword =>
    intro part hpart
    rw [parts, List.mem_singleton] at hpart
    subst hpart
    exact .inl ⟨hname, hkeyword⟩
  | list items h ih =>
    intro part hpart
    rw [parts, List.mem_cons, mem_partsAll] at hpart
    rcases hpart with rfl | ⟨e, he, hpart⟩
    · exact .inl trivial
    · exact (accounted_all ih he).mono (by simp) part hpart
  | call hname arguments h ih =>
    intro part hpart
    rw [parts, List.mem_cons, mem_partsAll] at hpart
    rcases hpart with rfl | ⟨e, he, hpart⟩
    · exact .inl hname
    · exact (accounted_all ih he).mono (fun w hw => by simp [hw]) part hpart
  | bracketed h ih => exact ih.mono (by simp)
  | member h hname ih =>
    intro part hpart
    rw [parts, List.mem_cons] at hpart
    rcases hpart with rfl | hpart
    · exact .inl hname
    · exact ih.mono (by simp) part hpart
  | index h hkey ih ihkey =>
    intro part hpart
    rw [parts, List.mem_cons, List.mem_append] at hpart
    rcases hpart with rfl | hpart | hpart
    · exact .inl trivial
    · exact ih.mono (by simp) part hpart
    · exact ihkey.mono (fun w hw => by simp [hw]) part hpart
  | unary op h ih =>
    intro part hpart
    rw [parts, List.mem_cons] at hpart
    rcases hpart with rfl | hpart
    · exact .inl trivial
    · exact ih.mono (by simp) part hpart
  | binary op hleft hright ihleft ihright =>
    intro part hpart
    rw [parts, List.mem_cons, List.mem_append] at hpart
    rcases hpart with rfl | hpart | hpart
    · exact .inl trivial
    · exact ihleft.mono (by simp) part hpart
    · exact ihright.mono (by simp) part hpart
  | loosen h ih => exact ih

/-- What an expression looks up is a name, and no literal. -/
theorem isName_of_read {text : List Char} {e : Expr} (h : read text = .ok e) {x : String}
    (hx : e.Mentions x) : IsName x ∧ x ∉ keywords := by
  obtain ⟨ws, hws, -⟩ := derives_of_read h
  rcases hws.accounted _ hx with hplain | ⟨hfloat, -⟩
  · exact hplain
  · exact hfloat.elim

theorem spelled_write (e : Expr) : Spelled e.words e.write.toList := by
  refine ⟨e.words.flatMap Word.characters, [], ?_, Word.written_characters e.words, by simp⟩
  rw [write, String.toList_ofList, List.append_nil]

theorem read_of_spelled {e : Expr} (h : e.Writable) {text : List Char}
    (htext : Spelled e.words text) : read text = .ok e :=
  ((derives_words e h).mono e.rank_le).read htext

theorem not_isFloat_of_plain {e : Expr} (h : e.Plain) : ¬ e.IsFloat := by
  intro hfloat
  unfold IsFloat at hfloat
  split at hfloat <;> contradiction

/-- Reading inverts writing, whatever gaps stand between the words. Conversely the grammar derives
all that is read from the words of the text, with floats only where decimals are, and what has no
floats can be written and is read back. -/
theorem read_inverts_writing :
    (∀ e : Expr, e.Writable → Spelled e.words e.write.toList ∧
      ∀ text, Spelled e.words text → read text = .ok e) ∧
    ∀ (text : List Char) (e : Expr), read text = .ok e →
      (∃ ws, Derives (BinaryOp.levels + 1) e ws ∧ Spelled ws text ∧
        ((∃ part ∈ e.parts, part.IsFloat) → ∃ w ∈ ws, w.IsDecimal)) ∧
      ((∀ part ∈ e.parts, ¬ part.IsFloat) → e.Writable ∧ read e.write.toList = .ok e) := by
  refine ⟨fun e h => ⟨spelled_write e, fun text => read_of_spelled h⟩, ?_⟩
  intro text e h
  obtain ⟨ws, hws, htext⟩ := derives_of_read h
  have hparts : Accounted e ws := hws.accounted
  refine ⟨⟨ws, hws, htext, ?_⟩, fun hfloat => ?_⟩
  · rintro ⟨part, hpart, hfloat⟩
    rcases hparts part hpart with hplain | ⟨-, hdecimal⟩
    · exact absurd hfloat (not_isFloat_of_plain hplain)
    · exact hdecimal
  · have hwritable : e.Writable := by
      intro part hpart
      rcases hparts part hpart with hplain | ⟨hpartFloat, -⟩
      · exact hplain
      · exact absurd hpartFloat (hfloat part hpart)
    exact ⟨hwritable, read_of_spelled hwritable (spelled_write e)⟩

/-- An expression that needs some of the brackets it could have. -/
def quotient : Expr :=
  .binary .div (.binary .sub (.identifier "a") (.unary .negate (.literal (.int 1))))
    (.binary .mul (.index (.member (.identifier "b") "null") (.literal (.text "\\\"")))
      (.call "max" [.list [.literal .null], .binary .lt (.identifier "c") (.literal (.bool true))]))

theorem reads_quotient :
    quotient.Writable ∧ quotient.write = "(a--1)/(b.null[\"\\\\\\\"\"]*max([null],c<true))" ∧
    read quotient.write.toList = .ok quotient ∧
    ∃ e, read " ( (a) ==\t!b)\n".toList = .ok e ∧ (∀ part ∈ e.parts, ¬ part.IsFloat) ∧
      e.write = "a==!b" ∧ read e.write.toList = .ok e := by
  have hwritable : quotient.Writable := by decide +kernel
  have hwrite : quotient.write = "(a--1)/(b.null[\"\\\\\\\"\"]*max([null],c<true))" := by
    decide +kernel
  have hread : read " ( (a) ==\t!b)\n".toList =
      .ok (.binary .eq (.identifier "a") (.unary .not (.identifier "b"))) := by rfl
  have hfloat : ∀ part ∈ (Expr.binary .eq (.identifier "a")
      (.unary .not (.identifier "b"))).parts, ¬ part.IsFloat := by
    simp [parts, IsFloat]
  obtain ⟨hspelled, hquotient⟩ := read_inverts_writing.1 quotient hwritable
  exact ⟨hwritable, hwrite, hquotient _ hspelled,
    _, hread, hfloat, by decide +kernel, ((read_inverts_writing.2 _ _ hread).2 hfloat).2⟩

end Expr

end Phrasebook
