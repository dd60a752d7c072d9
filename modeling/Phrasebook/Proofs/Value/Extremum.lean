import Mathlib.Data.String.Basic
import Mathlib.Order.Compare
import Phrasebook.Expression.Functions

namespace Phrasebook

namespace Value

/-- Numbers only, or texts only. -/
inductive Uniform (items : List Value) : Prop where
  | numbers (h : ∀ v ∈ items, ∃ n, v = .number n)
  | texts (h : ∀ v ∈ items, ∃ s, v = .text s)

variable {items items' : List Value}

theorem Uniform.of_subset (h : Uniform items) (hsubset : items' ⊆ items) : Uniform items' := by
  cases h with
  | numbers h => exact .numbers fun v hv => h v (hsubset hv)
  | texts h => exact .texts fun v hv => h v (hsubset hv)

theorem uniform_of_isSome {v w : Value} (h : (v.compare? w).isSome) : Uniform [v, w] := by
  unfold compare? at h
  split at h
  · exact .numbers (by simp)
  · exact .texts (by simp)
  · cases h

/-- What is uniform with a value is uniform with everything that the value is uniform with. -/
theorem Uniform.join {v : Value} (h : Uniform (v :: items)) (h' : Uniform (v :: items')) :
    Uniform (v :: (items ++ items')) := by
  rw [← List.cons_append]
  cases h with
  | numbers h =>
    obtain ⟨n, rfl⟩ := h v List.mem_cons_self
    cases h' with
    | numbers h' =>
      refine .numbers (List.forall_mem_append.2 ⟨h, fun w hw => h' w (List.mem_cons_of_mem _ hw)⟩)
    | texts h' =>
      obtain ⟨s, hs⟩ := h' _ List.mem_cons_self
      cases hs
  | texts h =>
    obtain ⟨s, rfl⟩ := h v List.mem_cons_self
    cases h' with
    | numbers h' =>
      obtain ⟨n, hn⟩ := h' _ List.mem_cons_self
      cases hn
    | texts h' =>
      exact .texts (List.forall_mem_append.2 ⟨h, fun w hw => h' w (List.mem_cons_of_mem _ hw)⟩)

/-- The items are compared by a rank in a linear order: `keep` means a smaller one. -/
def RanksBy {α : Type} [LinearOrder α] (keep : Ordering) (rank : Value → α)
    (items : List Value) : Prop :=
  ∀ v ∈ items, ∀ w ∈ items, ∃ o, v.compare? w = some o ∧ (o = keep ↔ rank v < rank w) ∧
    (o = .eq ↔ rank v = rank w)

theorem ranksBy_lt {α : Type} [LinearOrder α] {rank : Value → α}
    (h : ∀ v ∈ items, ∀ w ∈ items, v.compare? w = some (compare (rank v) (rank w))) :
    RanksBy .lt rank items := by
  intro v hv w hw
  exact ⟨_, h v hv w hw, compare_lt_iff_lt, compare_eq_iff_eq⟩

theorem ranksBy_gt {α : Type} [LinearOrder α] {rank : Value → α}
    (h : ∀ v ∈ items, ∀ w ∈ items, v.compare? w = some (compare (rank v) (rank w))) :
    RanksBy .gt (fun v => OrderDual.toDual (rank v)) items := by
  intro v hv w hw
  refine ⟨_, h v hv w hw, compare_gt_iff_gt, ?_⟩
  rw [compare_eq_iff_eq, OrderDual.toDual_inj]

def numberRank : Value → Int
  | .number n => n.toDouble.toUnits
  | _ => 0

def textRank : Value → String
  | .text s => s
  | _ => ""

/-- Numbers have their size as rank, and texts themselves. -/
theorem Uniform.exists_rank (h : Uniform items) : ∃ (α : Type) (_ : LinearOrder α)
    (rank : Value → α),
    ∀ v ∈ items, ∀ w ∈ items, v.compare? w = some (compare (rank v) (rank w)) := by
  cases h with
  | numbers h =>
    refine ⟨Int, inferInstance, numberRank, fun v hv w hw => ?_⟩
    obtain ⟨m, rfl⟩ := h v hv
    obtain ⟨n, rfl⟩ := h w hw
    rfl
  | texts h =>
    refine ⟨String, inferInstance, textRank, fun v hv w hw => ?_⟩
    obtain ⟨s, rfl⟩ := h v hv
    obtain ⟨t, rfl⟩ := h w hw
    rfl

theorem Uniform.exists_ranksBy {keep : Ordering} (h : Uniform items)
    (hkeep : keep = .lt ∨ keep = .gt) :
    ∃ (α : Type) (_ : LinearOrder α) (rank : Value → α), RanksBy keep rank items := by
  obtain ⟨α, _, rank, hrank⟩ := h.exists_rank
  rcases hkeep with rfl | rfl
  · exact ⟨α, _, rank, ranksBy_lt hrank⟩
  · exact ⟨αᵒᵈ, _, fun v => OrderDual.toDual (rank v), ranksBy_gt hrank⟩

theorem RanksBy.of_subset {α : Type} [LinearOrder α] {keep : Ordering} {rank : Value → α}
    (h : RanksBy keep rank items) (hsubset : items' ⊆ items) : RanksBy keep rank items' :=
  fun v hv w hw => h v (hsubset hv) w (hsubset hw)

end Value

namespace Functions

open Value (Uniform RanksBy)

variable {name : String} {keep : Ordering} {leader v : Value} {vs items : List Value}

/-- The value stands in the list, behind items of a greater rank and in front of items of no
smaller one. -/
def IsFirstLeast {α : Type} [LinearOrder α] (rank : Value → α) (items : List Value)
    (v : Value) : Prop :=
  ∃ front back, items = front ++ v :: back ∧ (∀ w ∈ front, rank v < rank w) ∧
    ∀ w ∈ back, rank v ≤ rank w

section

variable {α : Type} [LinearOrder α] {rank : Value → α}

/-- The leader is the first of the least among what has been seen; one more item either comes
behind it or takes its place. -/
theorem IsFirstLeast.behind {w : Value} (h : IsFirstLeast rank (leader :: vs) v)
    (hw : rank leader ≤ rank w) : IsFirstLeast rank (leader :: w :: vs) v := by
  obtain ⟨front, back, hsplit, hfront, hback⟩ := h
  cases front with
  | nil =>
    cases hsplit
    exact ⟨[], w :: vs, rfl, hfront, List.forall_mem_cons.2 ⟨hw, hback⟩⟩
  | cons u front =>
    cases hsplit
    rw [List.forall_mem_cons] at hfront
    refine ⟨leader :: w :: front, back, rfl, ?_, hback⟩
    rw [List.forall_mem_cons, List.forall_mem_cons]
    exact ⟨hfront.1, lt_of_lt_of_le hfront.1 hw, hfront.2⟩

theorem IsFirstLeast.rank_le (h : IsFirstLeast rank items v) : ∀ w ∈ items, rank v ≤ rank w := by
  obtain ⟨front, back, rfl, hfront, hback⟩ := h
  rw [List.forall_mem_append, List.forall_mem_cons]
  exact ⟨fun w hw => (hfront w hw).le, le_refl _, hback⟩

theorem IsFirstLeast.mem (h : IsFirstLeast rank items v) : v ∈ items := by
  obtain ⟨front, back, rfl, -⟩ := h
  exact List.mem_append_right _ List.mem_cons_self

theorem IsFirstLeast.take_lead {w : Value} (h : IsFirstLeast rank (w :: vs) v)
    (hw : rank w < rank leader) : IsFirstLeast rank (leader :: w :: vs) v := by
  have hle := h.rank_le w List.mem_cons_self
  obtain ⟨front, back, hsplit, hfront, hback⟩ := h
  refine ⟨leader :: front, back, by rw [hsplit]; rfl, ?_, hback⟩
  exact List.forall_mem_cons.2 ⟨lt_of_le_of_lt hle hw, hfront⟩

theorem best_of_ranksBy (h : RanksBy keep rank (leader :: vs)) :
    ∃ v, best name keep leader vs = .ok v ∧ IsFirstLeast rank (leader :: vs) v := by
  induction vs generalizing leader with
  | nil => exact ⟨leader, rfl, [], [], rfl, by simp, by simp⟩
  | cons u us ih =>
    obtain ⟨o, ho, hkeep, -⟩ := h u (by simp) leader (by simp)
    unfold best
    rw [ho]
    dsimp only
    by_cases hlead : o = keep
    · rw [if_pos hlead]
      have hrest : RanksBy keep rank (u :: us) := h.of_subset (List.subset_cons_self _ _)
      obtain ⟨v, hbest, hv⟩ := ih hrest
      exact ⟨v, hbest, hv.take_lead (hkeep.1 hlead)⟩
    · rw [if_neg hlead]
      have hrest : RanksBy keep rank (leader :: us) :=
        h.of_subset (List.cons_subset_cons leader (List.subset_cons_self u us))
      obtain ⟨v, hbest, hv⟩ := ih hrest
      exact ⟨v, hbest, hv.behind (not_lt.1 fun hlt => hlead (hkeep.2 hlt))⟩

end

/-- An item that cannot be compared with the leader of its turn ends the search. -/
theorem uniform_of_best (h : best name keep leader vs = .ok v) :
    vs = [] ∨ Uniform (leader :: vs) := by
  induction vs generalizing leader with
  | nil => exact .inl rfl
  | cons u us ih =>
    right
    unfold best at h
    split at h
    · rename_i o ho
      have hpair : Uniform [u, leader] := Value.uniform_of_isSome (by rw [ho]; rfl)
      have hpair' : Uniform [leader, u] := hpair.of_subset (by simp)
      split at h
      · rcases ih h with rfl | hrest
        · exact hpair'
        · exact (hrest.join hpair).of_subset (by simp)
      · rcases ih h with rfl | hrest
        · exact hpair'
        · exact hpair'.join hrest
    · cases h

/-- The two ways to hand the items over: as the arguments, or in a list that is the only one. -/
inductive Presents (items : List Value) : (arguments : List Value) → Prop where
  | spread : Presents items items
  | gathered : Presents items [.list items]

/-- An item that no other one beats, and that no earlier one equals. -/
structure Selects (keep : Ordering) (items : List Value) (v : Value) : Prop where
  first : ∃ front back, items = front ++ v :: back ∧ ∀ w ∈ front, w.compare? v ≠ some .eq
  unbeaten : ∀ w ∈ items, ∃ o, w.compare? v = some o ∧ o ≠ keep

/-- The functions that select, with the order that takes the lead. -/
def selectors : List (String × Ordering) := [("min", .lt), ("max", .gt)]

variable {arguments : List Value}

theorem standard_of_selectors (h : (name, keep) ∈ selectors) :
    standard name = some (extremum name keep) := by
  simp only [selectors, List.mem_cons, Prod.mk.injEq, List.not_mem_nil, or_false] at h
  rcases h with ⟨rfl, rfl⟩ | ⟨rfl, rfl⟩ <;> rfl

theorem keep_of_selectors (h : (name, keep) ∈ selectors) : keep = .lt ∨ keep = .gt := by
  simp only [selectors, List.mem_cons, Prod.mk.injEq, List.not_mem_nil, or_false] at h
  exact h.imp And.right And.right

theorem Presents.extremum_eq {u : Value} {us : List Value}
    (h : Presents (v :: u :: us) arguments) :
    extremum name keep arguments = best name keep v (u :: us) := by
  cases h with
  | spread => cases v <;> rfl
  | gathered => rfl

theorem IsFirstLeast.selects {α : Type} [LinearOrder α] {rank : Value → α}
    (hrank : RanksBy keep rank items) (h : IsFirstLeast rank items v) : Selects keep items v where
  first := by
    have hv := h.mem
    obtain ⟨front, back, rfl, hfront, -⟩ := h
    refine ⟨front, back, rfl, fun w hw heq => ?_⟩
    obtain ⟨o, ho, -, hequal⟩ := hrank w (List.mem_append_left _ hw) v hv
    exact (hfront w hw).ne' (hequal.1 (Option.some.inj (ho.symm.trans heq)))
  unbeaten w hw := by
    obtain ⟨o, ho, hkeep, -⟩ := hrank w hw v h.mem
    exact ⟨o, ho, fun heq => not_lt.2 (h.rank_le w hw) (hkeep.1 heq)⟩

/-- On items of one kind the search ends, and it ends with the first of the least. -/
theorem extremum_of_ranksBy (name : String) {α : Type} [LinearOrder α] {rank : Value → α}
    (hrank : RanksBy keep rank items) (hitems : 2 ≤ items.length)
    (h : Presents items arguments) :
    ∃ v, extremum name keep arguments = .ok v ∧ IsFirstLeast rank items v := by
  obtain _ | ⟨v, _ | ⟨u, us⟩⟩ := items
  · cases hitems
  · simp at hitems
  · rw [h.extremum_eq]
    exact best_of_ranksBy hrank

theorem uniform_of_extremum (hitems : 2 ≤ items.length) (h : Presents items arguments)
    (hv : extremum name keep arguments = .ok v) : Uniform items := by
  obtain _ | ⟨w, _ | ⟨u, us⟩⟩ := items
  · cases hitems
  · simp at hitems
  · rw [h.extremum_eq] at hv
    exact (uniform_of_best hv).resolve_left (List.cons_ne_nil u us)

/-- `min` and `max` select from two or more items, given one by one or in a list. They succeed
exactly on numbers alone and on texts alone; the result is the first of the items that no item
beats; and the items in another order have a result that is equal to it. -/
theorem extremum_selects {f : List Value → Except ExpressionError Value}
    (hname : (name, keep) ∈ selectors) (hf : standard name = some f) (hitems : 2 ≤ items.length)
    (h : Presents items arguments) :
    ((∃ v, f arguments = .ok v) ↔ Uniform items) ∧
    (∀ v, f arguments = .ok v → Selects keep items v) ∧
    ∀ items' arguments' v, items.Perm items' → Presents items' arguments' →
      f arguments = .ok v → ∃ v', f arguments' = .ok v' ∧ v.compare? v' = some .eq := by
  obtain rfl : extremum name keep = f :=
    Option.some.inj ((standard_of_selectors hname).symm.trans hf)
  refine ⟨⟨fun ⟨v, hv⟩ => uniform_of_extremum hitems h hv, fun huniform => ?_⟩, fun v hv => ?_,
    fun items' arguments' v hperm h' hv => ?_⟩
  · obtain ⟨α, _, rank, hrank⟩ := huniform.exists_ranksBy (keep_of_selectors hname)
    obtain ⟨v, hv, -⟩ := extremum_of_ranksBy name hrank hitems h
    exact ⟨v, hv⟩
  all_goals
    have huniform := uniform_of_extremum hitems h hv
    obtain ⟨α, _, rank, hrank⟩ := huniform.exists_ranksBy (keep_of_selectors hname)
    obtain ⟨w, hw, hleast⟩ := extremum_of_ranksBy name hrank hitems h
    obtain rfl : v = w := Except.ok.inj (hv.symm.trans hw)
  · exact hleast.selects hrank
  · have hrank' : RanksBy keep rank items' := hrank.of_subset hperm.symm.subset
    obtain ⟨v', hv', hleast'⟩ :=
      extremum_of_ranksBy name hrank' (hperm.length_eq ▸ hitems) h'
    have hv'mem := hperm.symm.subset hleast'.mem
    obtain ⟨o, ho, -, hequal⟩ := hrank v hleast.mem v' hv'mem
    have hrankEq : rank v = rank v' :=
      le_antisymm (hleast.rank_le v' hv'mem) (hleast'.rank_le v (hperm.subset hleast.mem))
    exact ⟨v', hv', by rw [ho, hequal.2 hrankEq]⟩

/-- Of three integers two are compared as equal: the greatest is the earlier one of these, and so it
is another one when the items are turned around. -/
theorem greatest_of_neighbours :
    let items : List Value := [.int 2, .int 9007199254740993, .int 9007199254740992]
    (("max", Ordering.gt) ∈ selectors ∧ standard "max" = some (extremum "max" .gt) ∧
      2 ≤ items.length ∧ Presents items [.list items]) ∧
    (extremum "max" .gt [.list items] = .ok (.int 9007199254740993) ∧
      Selects .gt items (.int 9007199254740993)) ∧
    extremum "max" .gt items.reverse = .ok (.int 9007199254740992) ∧
      ∃ v, extremum "max" .gt items.reverse = .ok v ∧
        (Value.int 9007199254740993).compare? v = some .eq := by
  intro items
  have hname : ("max", Ordering.gt) ∈ selectors := by simp [selectors]
  have hgreater : (Value.int 9007199254740993).compare? (.int 2) = some .gt := by decide +kernel
  have hequal : (Value.int 9007199254740992).compare? (.int 9007199254740993) = some .eq := by
    decide +kernel
  have hequal' : (Value.int 9007199254740993).compare? (.int 9007199254740992) = some .eq := by
    decide +kernel
  have hless : (Value.int 2).compare? (.int 9007199254740992) = some .lt := by decide +kernel
  have hmax : extremum "max" .gt [.list items] = .ok (.int 9007199254740993) := by
    simp [items, extremum, contenders, best, hgreater, hequal]
  have hmax' : extremum "max" .gt items.reverse = .ok (.int 9007199254740992) := by
    simp [items, extremum, contenders, best, hequal', hless]
  have hitems : Presents items [.list items] := .gathered
  have h := extremum_selects hname rfl (by decide) hitems
  exact ⟨⟨hname, rfl, by decide, .gathered⟩, ⟨hmax, h.2.1 _ hmax⟩, hmax',
    h.2.2 _ _ _ (List.reverse_perm items).symm .spread hmax⟩

end Functions

end Phrasebook
