import Phrasebook.Proofs.Expression.Soundness
import Phrasebook.Proofs.Text.Pieces

namespace Phrasebook

namespace Expr

/-- The characters that brackets, commas, points and operators are made of. -/
def marks : List Char :=
  ['[', ']', '(', ')', ',', '.', '!', '-', '*', '/', '%', '+', '<', '>', '=', '&', '|']

def separates (c : Char) : Bool := Text.isGap c || marks.contains c

theorem separates_of_isGap {c : Char} (h : Text.isGap c) : separates c := by
  unfold separates
  rw [h, Bool.true_or]

end Expr

namespace Word

open Text

/-- Words that are spelled with separating characters only. -/
def isMark : Word → Bool
  | symbol s => s ≠ "" && s.toList.all Expr.separates
  | _ => false

theorem isMark_operator (op : BinaryOp) : isMark (.symbol op.symbol) := by cases op <;> decide

theorem isMark_sign (op : UnaryOp) : isMark (.symbol op.symbol) := by cases op <;> decide

variable {w : Word} {ws front back : List Word} {cs : List Char}

/-- A mark is not spelled as nothing, so that the characters next to it are its own. -/
theorem separates_of_isMark (hw : w.isMark) (h : w.Spelling cs) :
    cs ≠ [] ∧ ∀ c ∈ cs, Expr.separates c := by
  cases h with
  | symbol s =>
    rw [isMark, Bool.and_eq_true, List.all_eq_true] at hw
    obtain ⟨hne, hall⟩ := hw
    exact ⟨by simpa using hne, hall⟩
  | _ => contradiction

theorem Written.separates_first (h : Written back cs) (hback : ∀ w ∈ back.head?, w.isMark) :
    ∀ c ∈ cs.head?, Expr.separates c := by
  intro c hc
  cases h with
  | nil => cases hc
  | @cons w ws gap used rest hgap hw h =>
    obtain ⟨hne, hused⟩ := separates_of_isMark (hback w rfl) hw
    cases gap with
    | nil =>
      obtain ⟨d, used, rfl⟩ := List.exists_cons_of_ne_nil hne
      obtain rfl : d = c := by simpa using hc
      exact hused d List.mem_cons_self
    | cons g gap =>
      obtain rfl : g = c := by simpa using hc
      exact Expr.separates_of_isGap (hgap g List.mem_cons_self)

theorem Written.separates_last (h : Written front cs) (hfront : ∀ w ∈ front.getLast?, w.isMark) :
    ∀ c ∈ cs.getLast?, Expr.separates c := by
  intro c hc
  rcases List.eq_nil_or_concat front with rfl | ⟨ws, w, rfl⟩
  · cases h
    cases hc
  · obtain ⟨as, bs, rfl, -, hlast⟩ := Written.split (List.concat_eq_append ▸ h)
    obtain ⟨gap, used, rest, rfl, -, hw, hrest⟩ := written_cons.1 hlast
    cases hrest
    obtain ⟨hne, hused⟩ := separates_of_isMark (hfront w (by simp)) hw
    obtain ⟨used, d, rfl⟩ := (List.eq_nil_or_concat used).resolve_left hne
    obtain rfl : d = c := by simpa [List.getLast?_append] using hc
    exact hused d (by simp)

/-- A word between marks is spelled between separating characters. -/
theorem Written.standsIn {x : String} (h : Written ws cs) (hx : StandsIn isMark [.name x] ws) :
    StandsIn Expr.separates x.toList cs := by
  obtain ⟨front, back, rfl, hfront, hback⟩ := hx
  obtain ⟨as, bs, rfl, has, hbs⟩ := h.split
  obtain ⟨gap, used, rest, rfl, hgap, hw, hrest⟩ := written_cons.1 hbs
  cases hw
  have hgapEdge : ∀ c ∈ gap.getLast?, Expr.separates c :=
    fun c hc => Expr.separates_of_isGap (hgap c (List.mem_of_getLast? hc))
  have hname : StandsIn Expr.separates x.toList (x.toList ++ rest) :=
    (StandsIn.refl _).before _ (hrest.separates_first hback)
  exact (hname.behind gap hgapEdge).behind as (has.separates_last hfront)

theorem Spelled.standsIn {x : String} (h : Spelled ws cs) (hx : StandsIn isMark [.name x] ws) :
    StandsIn Expr.separates x.toList cs := by
  obtain ⟨cs, gap, rfl, hcs, hgap⟩ := h
  have hback : ∀ c ∈ gap.head?, Expr.separates c :=
    fun c hc => Expr.separates_of_isGap (hgap c (List.mem_of_head? hc))
  exact (hcs.standsIn hx).before gap hback

theorem separated_eq_intercalate (wss : List (List Word)) :
    separated wss = [.symbol ","].intercalate wss := by
  induction wss with
  | nil => rfl
  | cons ws wss ih =>
    cases wss with
    | nil => simp [separated]
    | cons next wss =>
      rw [List.intercalate_cons_cons, ← ih]
      simp [separated]

theorem standsIn_separated {wss : List (List Word)} (h : ws ∈ wss) :
    StandsIn isMark ws (separated wss) := by
  rw [separated_eq_intercalate]
  exact standsIn_intercalate (by decide) h

end Word

namespace Expr

open Word Text

variable {x : String}

/-- The words of an item stand between commas. -/
theorem standsIn_items {items : List (Expr × List Word)}
    (h : ∀ item ∈ items, item.1.Mentions x → StandsIn isMark [.name x] item.2)
    (hx : .identifier x ∈ partsAll (items.map Prod.fst)) :
    StandsIn isMark [.name x] (separated (items.map Prod.snd)) := by
  obtain ⟨e, he, hx⟩ := mem_partsAll.1 hx
  obtain ⟨item, hitem, rfl⟩ := List.mem_map.1 he
  exact (h item hitem hx).trans (standsIn_separated (List.mem_map_of_mem hitem))

/-- A name that an expression looks up is a word between marks. -/
theorem Derives.standsIn {bound : Nat} {e : Expr} {ws : List Word} (h : Derives bound e ws)
    (hx : e.Mentions x) : StandsIn isMark [.name x] ws := by
  unfold Mentions at hx
  induction h with
  | literal hw => simp [parts] at hx
  | identifier hname hkeyword =>
    obtain rfl : x = _ := by simpa [parts] using hx
    exact .refl _
  | list items h ih =>
    have hitems : .identifier x ∈ partsAll (items.map Prod.fst) := by simpa [parts] using hx
    exact (standsIn_items ih hitems).enclosed [] (by decide) (by decide)
  | @call function hname arguments h ih =>
    have harguments : .identifier x ∈ partsAll (arguments.map Prod.fst) := by
      simpa [parts] using hx
    exact (standsIn_items ih harguments).enclosed [.name function] (by decide) (by decide)
  | bracketed h ih => exact (ih hx).enclosed [] (by decide) (by decide)
  | member h hname ih =>
    have htarget := by simpa [parts] using hx
    exact (ih htarget).before_edge (by decide) _
  | @index target key ws keyWords h hkey ih ihkey =>
    have hinside := by simpa [parts] using hx
    rcases hinside with htarget | hkey
    · exact ((ih htarget).before_edge (by decide) _).before_edge (by decide) _
    · exact (ihkey hkey).enclosed ws (by decide) (by decide)
  | unary op h ih =>
    have hoperand := by simpa [parts] using hx
    exact (ih hoperand).behind_edge [] (isMark_sign op)
  | binary op hleft hright ihleft ihright =>
    have hinside := by simpa [parts] using hx
    rcases hinside with hinside | hinside
    · exact (ihleft hinside).before_edge (isMark_operator op) _
    · exact (ihright hinside).behind_edge _ (isMark_operator op)
  | loosen h ih => exact ih hx

/-- Around a name that an expression looks up there is nothing that a name could go on with. -/
theorem standsIn_of_read {text : List Char} {e : Expr} (h : read text = .ok e)
    (hx : e.Mentions x) : StandsIn separates x.toList text := by
  obtain ⟨ws, hws, hspelled⟩ := derives_of_read h
  exact hspelled.standsIn (hws.standsIn hx)

end Expr

end Phrasebook
