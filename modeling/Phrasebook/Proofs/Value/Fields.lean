import Mathlib.Data.List.Forall2
import Phrasebook.Value.Basic

namespace Phrasebook.Fields

/-- The keys are in order, and no key is bound twice. -/
def Sorted (fields : Fields) : Prop := (fields.map Prod.fst).Pairwise (· < ·)

instance (fields : Fields) : Decidable fields.Sorted :=
  inferInstanceAs (Decidable ((fields.map Prod.fst).Pairwise (· < ·)))

variable {k l : String} {v w : Value} {fields xs ys : Fields}

theorem sorted_cons :
    Sorted ((k, v) :: fields) ↔ (∀ field ∈ fields, k < field.1) ∧ fields.Sorted := by
  simp [Sorted]

theorem mem_insert {field : String × Value} (h : field ∈ insert k v fields) :
    field = (k, v) ∨ field ∈ fields := by
  induction fields with
  | nil => exact .inl (List.mem_singleton.1 h)
  | cons head rest ih =>
    obtain ⟨l, w⟩ := head
    unfold insert at h
    split at h
    · rcases List.mem_cons.1 h with rfl | h
      · exact .inl rfl
      · exact .inr (List.mem_cons_of_mem _ h)
    · split at h
      · exact List.mem_cons.1 h
      · rcases List.mem_cons.1 h with rfl | h
        · exact .inr List.mem_cons_self
        · exact (ih h).imp_right (List.mem_cons_of_mem _)

theorem lt_of_ne_of_not_lt (hne : k ≠ l) (hlt : ¬ k < l) : l < k :=
  String.not_le.1 fun hle => hne (String.le_antisymm hle (String.not_lt.1 hlt))

theorem sorted_insert (k : String) (v : Value) (h : fields.Sorted) :
    (insert k v fields).Sorted := by
  induction fields with
  | nil => simp [insert, Sorted]
  | cons head rest ih =>
    obtain ⟨l, w⟩ := head
    obtain ⟨hl, hrest⟩ := sorted_cons.1 h
    unfold insert
    by_cases hkey : k = l
    · rw [if_pos hkey]
      exact sorted_cons.2 ⟨hkey ▸ hl, hrest⟩
    · rw [if_neg hkey]
      by_cases hlt : k < l
      · rw [if_pos hlt]
        refine sorted_cons.2 ⟨List.forall_mem_cons.2 ⟨hlt, fun field hfield => ?_⟩, h⟩
        exact String.lt_trans hlt (hl field hfield)
      · rw [if_neg hlt]
        refine sorted_cons.2 ⟨fun field hfield => ?_, ih hrest⟩
        rcases mem_insert hfield with rfl | hfield
        · exact lt_of_ne_of_not_lt hkey hlt
        · exact hl field hfield

/-- The fields of a mapping that is made of pairs are sorted. -/
theorem sorted_ofPairs (pairs : List (String × Value)) : (ofPairs pairs).Sorted :=
  List.foldlRecOn pairs _ (motive := Sorted) List.Pairwise.nil fun _ h pair _ =>
    sorted_insert pair.1 pair.2 h

/-- A key before all others is not bound. -/
theorem get?_eq_none_of_lt (h : ∀ field ∈ fields, k < field.1) : get? fields k = none := by
  induction fields with
  | nil => rfl
  | cons head rest ih =>
    obtain ⟨l, w⟩ := head
    rw [List.forall_mem_cons] at h
    have hne : l ≠ k := by
      rintro rfl
      exact String.lt_irrefl l h.1
    rw [get?_cons, if_neg hne, ih h.2]

theorem get?_of_forall₂ (R : Value → Value → Prop)
    (h : List.Forall₂ (fun f g => f.1 = g.1 ∧ R f.2 g.2) xs ys) (key : String) :
    Option.Rel R (get? xs key) (get? ys key) := by
  induction h with
  | nil => exact .none
  | @cons f g xs ys hfg _ ih =>
    obtain ⟨k, v⟩ := f
    obtain ⟨l, w⟩ := g
    obtain ⟨rfl, hvw⟩ := hfg
    rw [get?_cons, get?_cons]
    split
    · exact .some hvw
    · exact ih

/-- The first key of sorted fields comes before every other key that is bound. -/
theorem le_of_get?_cons (h : Sorted ((k, v) :: fields)) {key : String}
    (hkey : (get? ((k, v) :: fields) key).isSome) : k ≤ key := by
  rw [← String.not_lt]
  intro hlt
  have hall : ∀ field ∈ (k, v) :: fields, key < field.1 :=
    List.forall_mem_cons.2
      ⟨hlt, fun field hfield => String.lt_trans hlt ((sorted_cons.1 h).1 field hfield)⟩
  rw [get?_eq_none_of_lt hall] at hkey
  contradiction

theorem isSome_of_rel {R : Value → Value → Prop} {a b : Option Value} (h : Option.Rel R a b) :
    a.isSome = b.isSome := by
  cases h <;> rfl

/-- Sorted fields with the same keys stand in the same order. -/
theorem forall₂_of_get? {R : Value → Value → Prop} (hxs : xs.Sorted) (hys : ys.Sorted)
    (h : ∀ key, Option.Rel R (get? xs key) (get? ys key)) :
    List.Forall₂ (fun f g => f.1 = g.1 ∧ R f.2 g.2) xs ys := by
  induction xs generalizing ys with
  | nil =>
    cases ys with
    | nil => exact .nil
    | cons g ys =>
      have hfirst := isSome_of_rel (h g.1)
      rw [get?_cons, if_pos rfl] at hfirst
      contradiction
  | cons f xs ih =>
    obtain ⟨k, v⟩ := f
    cases ys with
    | nil =>
      have hfirst := isSome_of_rel (h k)
      rw [get?_cons, if_pos rfl] at hfirst
      contradiction
    | cons g ys =>
      obtain ⟨l, w⟩ := g
      have hkeys : k = l := by
        have hk : (get? ((k, v) :: xs) k).isSome := by rw [get?_cons, if_pos rfl]; rfl
        have hl : (get? ((l, w) :: ys) l).isSome := by rw [get?_cons, if_pos rfl]; rfl
        rw [isSome_of_rel (h k)] at hk
        rw [← isSome_of_rel (h l)] at hl
        exact String.le_antisymm (le_of_get?_cons hxs hl) (le_of_get?_cons hys hk)
      subst hkeys
      have hvalues := h k
      rw [get?_cons, get?_cons, if_pos rfl, if_pos rfl] at hvalues
      rw [sorted_cons] at hxs hys
      refine .cons ⟨rfl, by cases hvalues; assumption⟩ (ih hxs.2 hys.2 fun key => ?_)
      by_cases hkey : k = key
      · subst hkey
        rw [get?_eq_none_of_lt hxs.1, get?_eq_none_of_lt hys.1]
        exact .none
      · have hrest := h key
        rwa [get?_cons, get?_cons, if_neg hkey, if_neg hkey] at hrest

theorem forall₂_iff_get? (R : Value → Value → Prop) (hxs : xs.Sorted) (hys : ys.Sorted) :
    List.Forall₂ (fun f g => f.1 = g.1 ∧ R f.2 g.2) xs ys ↔
      ∀ key, Option.Rel R (get? xs key) (get? ys key) :=
  ⟨get?_of_forall₂ R, forall₂_of_get? hxs hys⟩

end Phrasebook.Fields
