import Phrasebook.Proofs.Value.Fields
import Phrasebook.Value.Order

namespace Phrasebook

namespace Number

variable {a b c : Number}

theorem eqv_iff : a.eqv b = true ↔ a.toDouble.toUnits = b.toDouble.toUnits := by
  unfold eqv Double.eqv
  exact decide_eq_true_iff

theorem eqv_refl (a : Number) : a.eqv a = true := eqv_iff.2 rfl

theorem eqv_symm (h : a.eqv b = true) : b.eqv a = true := eqv_iff.2 (eqv_iff.1 h).symm

theorem eqv_trans (h : a.eqv b = true) (h' : b.eqv c = true) : a.eqv c = true :=
  eqv_iff.2 ((eqv_iff.1 h).trans (eqv_iff.1 h'))

/-- Two integers are identical, or two floats with one value. -/
theorem identical_iff :
    a.identical b = true ↔
      (∃ i, a = int i ∧ b = int i) ∨ ∃ x y, a = float x ∧ b = float y ∧ x.toUnits = y.toUnits := by
  cases a <;> cases b <;> simp [identical, Double.eqv]
  exact eq_comm

theorem identical_refl (a : Number) : a.identical a = true := by
  cases a <;> simp [identical, Double.eqv]

theorem identical_symm (h : a.identical b = true) : b.identical a = true := by
  rw [identical_iff] at h ⊢
  obtain ⟨i, ha, hb⟩ | ⟨x, y, ha, hb, hxy⟩ := h
  · exact .inl ⟨i, hb, ha⟩
  · exact .inr ⟨y, x, hb, ha, hxy.symm⟩

theorem identical_trans (h : a.identical b = true) (h' : b.identical c = true) :
    a.identical c = true := by
  cases a <;> cases b <;> cases c <;> simp_all [identical, Double.eqv]

theorem eqv_of_identical (h : a.identical b = true) : a.eqv b = true := by
  cases a <;> cases b <;> simp_all [identical, eqv_iff, Double.eqv, toDouble]

end Number

section

variable {α β γ : Type} {xs : List α} {ys : List β} {zs : List γ}

theorem forall₂_mem {R : α → β → Prop} (h : List.Forall₂ R xs ys) :
    List.Forall₂ (fun x y => (x ∈ xs ∧ y ∈ ys) ∧ R x y) xs ys := by
  induction h with
  | nil => exact .nil
  | cons hxy _ ih =>
    refine .cons ⟨⟨List.mem_cons_self, List.mem_cons_self⟩, hxy⟩ (ih.imp fun x y hxy => ?_)
    exact ⟨⟨List.mem_cons_of_mem _ hxy.1.1, List.mem_cons_of_mem _ hxy.1.2⟩, hxy.2⟩

theorem forall₂_comp {R : α → β → Prop} {S : β → γ → Prop} {T : α → γ → Prop}
    (hRST : ∀ x y z, R x y → S y z → T x z) (h : List.Forall₂ R xs ys)
    (h' : List.Forall₂ S ys zs) : List.Forall₂ T xs zs := by
  induction h generalizing zs with
  | nil =>
    cases h'
    exact .nil
  | cons hxy _ ih =>
    cases h' with
    | cons hyz h' => exact .cons (hRST _ _ _ hxy hyz) (ih h')

end

namespace Value

/-- Induction over a value, with the items of a list and the values in a mapping as its parts. -/
theorem induction {P : Value → Prop} (null : P .null) (bool : ∀ b, P (.bool b))
    (number : ∀ n, P (.number n)) (text : ∀ s, P (.text s))
    (list : ∀ items, (∀ v ∈ items, P v) → P (.list items))
    (mapping : ∀ fields : Fields, (∀ field ∈ fields, P field.2) → P (.mapping fields)) :
    ∀ v, P v
  | .null => null
  | .bool b => bool b
  | .number n => number n
  | .text s => text s
  | .list items => list items fun v _ => induction null bool number text list mapping v
  | .mapping fields => mapping fields fun (key, v) h =>
    have : sizeOf (key, v) < sizeOf fields := List.sizeOf_lt_of_mem h
    induction null bool number text list mapping v
decreasing_by
  · decreasing_tactic
  · simp only [Value.mapping.sizeOf_spec, Prod.mk.sizeOf_spec] at this ⊢
    omega

mutual

/-- Equality part by part, where `same` compares numbers, and `inside` those inside mappings. -/
def agree (same inside : Number → Number → Bool) : Value → Value → Bool
  | .null, .null => true
  | .bool a, .bool b => a = b
  | .number a, .number b => same a b
  | .text a, .text b => a = b
  | .list xs, .list ys => agreeItems same inside xs ys
  | .mapping xs, .mapping ys => agreeFields inside xs ys
  | _, _ => false

def agreeItems (same inside : Number → Number → Bool) : List Value → List Value → Bool
  | [], [] => true
  | x :: xs, y :: ys => x.agree same inside y && agreeItems same inside xs ys
  | _, _ => false

def agreeFields (inside : Number → Number → Bool) : Fields → Fields → Bool
  | [], [] => true
  | (k, x) :: xs, (l, y) :: ys => k = l && x.agree inside inside y && agreeFields inside xs ys
  | _, _ => false

end

section

variable {same inside : Number → Number → Bool}

theorem agree_list {xs ys : List Value} :
    (list xs).agree same inside (list ys) = true ↔
      List.Forall₂ (fun v w => v.agree same inside w = true) xs ys := by
  change agreeItems same inside xs ys = true ↔ _
  induction xs generalizing ys with
  | nil => cases ys <;> simp [agreeItems]
  | cons x xs ih => cases ys <;> simp [agreeItems, ih]

theorem agree_mapping {xs ys : Fields} :
    (mapping xs).agree same inside (mapping ys) = true ↔
      List.Forall₂ (fun f g => f.1 = g.1 ∧ f.2.agree inside inside g.2 = true) xs ys := by
  change agreeFields inside xs ys = true ↔ _
  induction xs generalizing ys with
  | nil => cases ys <;> simp [agreeFields]
  | cons x xs ih => cases ys <;> simp [agreeFields, ih]

theorem agree_refl (hsame : ∀ n, same n n = true) (hinside : ∀ n, inside n n = true) (v : Value) :
    v.agree same inside v = true := by
  induction v using Value.induction generalizing same with
  | null => rfl
  | bool b => simp [agree]
  | number n => exact hsame n
  | text s => simp [agree]
  | list items ih => exact agree_list.2 (List.forall₂_same.2 fun v hv => ih v hv hsame)
  | mapping fields ih =>
    exact agree_mapping.2 (List.forall₂_same.2 fun f hf => ⟨rfl, ih f hf hinside⟩)

theorem agree_symm (hsame : ∀ m n, same m n = true → same n m = true)
    (hinside : ∀ m n, inside m n = true → inside n m = true) {v w : Value}
    (h : v.agree same inside w = true) : w.agree same inside v = true := by
  induction v using Value.induction generalizing same w with
  | null => cases w <;> simp_all [agree]
  | bool b => cases w <;> simp_all [agree]
  | number n => cases w <;> simp_all [agree]
  | text s => cases w <;> simp_all [agree]
  | list xs ih =>
    cases w with
    | list ys =>
      have hitems := (List.forall₂_and_left _ _).2 ⟨ih, agree_list.1 h⟩
      exact agree_list.2 (hitems.imp fun x y hxy => hxy.1 hsame hxy.2).flip
    | _ => cases h
  | mapping xs ih =>
    cases w with
    | mapping ys =>
      have hfields := (List.forall₂_and_left _ _).2 ⟨ih, agree_mapping.1 h⟩
      exact agree_mapping.2
        (hfields.imp fun f g hfg => ⟨hfg.2.1.symm, hfg.1 hinside hfg.2.2⟩).flip
    | _ => cases h

theorem agree_trans (hsame : ∀ l m n, same l m = true → same m n = true → same l n = true)
    (hinside : ∀ l m n, inside l m = true → inside m n = true → inside l n = true)
    {u v w : Value} (h : u.agree same inside v = true) (h' : v.agree same inside w = true) :
    u.agree same inside w = true := by
  induction u using Value.induction generalizing same v w with
  | null =>
    cases v with
    | null => exact h'
    | _ => cases h
  | bool b =>
    cases v with
    | bool b' =>
      obtain rfl : b = b' := of_decide_eq_true h
      exact h'
    | _ => cases h
  | number l =>
    cases v with
    | number m =>
      cases w with
      | number n => exact hsame l m n h h'
      | _ => cases h'
    | _ => cases h
  | text s =>
    cases v with
    | text s' =>
      obtain rfl : s = s' := of_decide_eq_true h
      exact h'
    | _ => cases h
  | list xs ih =>
    cases v with
    | list ys =>
      cases w with
      | list zs =>
        have hitems := (List.forall₂_and_left _ _).2 ⟨ih, agree_list.1 h⟩
        exact agree_list.2
          (forall₂_comp (fun x y z hxy hyz => hxy.1 hsame hxy.2 hyz) hitems (agree_list.1 h'))
      | _ => cases h'
    | _ => cases h
  | mapping xs ih =>
    cases v with
    | mapping ys =>
      cases w with
      | mapping zs =>
        have hfields := (List.forall₂_and_left _ _).2 ⟨ih, agree_mapping.1 h⟩
        refine agree_mapping.2 (forall₂_comp (fun f g k hfg hgk => ?_) hfields (agree_mapping.1 h'))
        exact ⟨hfg.2.1.trans hgk.1, hfg.1 hinside hfg.2.2 hgk.2⟩
      | _ => cases h'
    | _ => cases h

end

mutual

theorem identical_eq_agree :
    ∀ v w : Value, v.identical w = v.agree Number.identical Number.identical w
  | .null, w | .bool _, w | .number _, w | .text _, w => by cases w <;> rfl
  | .list xs, w => by
    cases w with
    | list ys => exact identicalItems_eq_agreeItems xs ys
    | _ => rfl
  | .mapping xs, w => by
    cases w with
    | mapping ys => exact identicalFields_eq_agreeFields xs ys
    | _ => rfl

theorem identicalItems_eq_agreeItems : ∀ xs ys : List Value,
    identicalItems xs ys = agreeItems Number.identical Number.identical xs ys
  | [], ys => by cases ys <;> rfl
  | x :: xs, ys => by
    cases ys with
    | nil => rfl
    | cons y ys =>
      simp only [identicalItems, agreeItems, identical_eq_agree x y,
        identicalItems_eq_agreeItems xs ys]

theorem identicalFields_eq_agreeFields : ∀ xs ys : Fields,
    identicalFields xs ys = agreeFields Number.identical xs ys
  | [], ys => by cases ys <;> rfl
  | (k, x) :: xs, ys => by
    cases ys with
    | nil => rfl
    | cons field ys =>
      simp only [identicalFields, agreeFields, identical_eq_agree x field.2,
        identicalFields_eq_agreeFields xs ys]

end

mutual

/-- Equality compares numbers by value, but looks for identical ones inside mappings. -/
theorem equals_eq_agree : ∀ v w : Value, v.equals w = v.agree Number.eqv Number.identical w
  | .null, w | .bool _, w | .text _, w => by cases w <;> rfl
  | .number _, w => by cases w <;> rfl
  | .list xs, w => by
    cases w with
    | list ys => exact equalsItems_eq_agreeItems xs ys
    | _ => rfl
  | .mapping xs, w => by
    cases w with
    | mapping ys => exact identicalFields_eq_agreeFields xs ys
    | _ => rfl

theorem equalsItems_eq_agreeItems : ∀ xs ys : List Value,
    equalsItems xs ys = agreeItems Number.eqv Number.identical xs ys
  | [], ys => by cases ys <;> rfl
  | x :: xs, ys => by
    cases ys with
    | nil => rfl
    | cons y ys =>
      simp only [equalsItems, agreeItems, equals_eq_agree x y, equalsItems_eq_agreeItems xs ys]

end

theorem equals_list {xs ys : List Value} :
    (list xs).equals (list ys) = true ↔
      List.Forall₂ (fun v w => v.equals w = true) xs ys := by
  simp only [equals_eq_agree, agree_list]

theorem equals_mapping {xs ys : Fields} :
    (mapping xs).equals (mapping ys) = true ↔
      List.Forall₂ (fun f g => f.1 = g.1 ∧ f.2.identical g.2 = true) xs ys := by
  simp only [equals_eq_agree, agree_mapping, identical_eq_agree]

theorem equals_equivalence : Equivalence fun v w : Value => v.equals w = true := by
  simp only [equals_eq_agree]
  exact
    { refl := agree_refl Number.eqv_refl Number.identical_refl
      symm := agree_symm (fun _ _ => Number.eqv_symm) fun _ _ => Number.identical_symm
      trans := @agree_trans Number.eqv Number.identical (fun _ _ _ => Number.eqv_trans)
        fun _ _ _ => Number.identical_trans }

mutual

/-- The numbers in a value, at any depth. -/
def numbers : Value → List Number
  | .number n => [n]
  | .list items => numbersOfItems items
  | .mapping fields => numbersOfFields fields
  | _ => []

def numbersOfItems : List Value → List Number
  | [] => []
  | v :: vs => v.numbers ++ numbersOfItems vs

def numbersOfFields : Fields → List Number
  | [] => []
  | (_, v) :: fields => v.numbers ++ numbersOfFields fields

end

mutual

/-- The numbers in the mappings of a value, at any depth. -/
def mappedNumbers : Value → List Number
  | .list items => mappedNumbersOfItems items
  | .mapping fields => numbersOfFields fields
  | _ => []

def mappedNumbersOfItems : List Value → List Number
  | [] => []
  | v :: vs => v.mappedNumbers ++ mappedNumbersOfItems vs

end

section

variable {v : Value} {n : Number}

theorem mem_numbers_of_item {items : List Value} (hv : v ∈ items) (hn : n ∈ v.numbers) :
    n ∈ (list items).numbers := by
  change n ∈ numbersOfItems items
  induction hv with
  | head => exact List.mem_append_left _ hn
  | tail _ _ ih => exact List.mem_append_right _ ih

theorem mem_numbers_of_field {fields : Fields} {field : String × Value} (hfield : field ∈ fields)
    (hn : n ∈ field.2.numbers) : n ∈ (mapping fields).numbers := by
  change n ∈ numbersOfFields fields
  induction hfield with
  | head => exact List.mem_append_left _ hn
  | tail _ _ ih => exact List.mem_append_right _ ih

theorem mem_mappedNumbers_of_item {items : List Value} (hv : v ∈ items)
    (hn : n ∈ v.mappedNumbers) : n ∈ (list items).mappedNumbers := by
  change n ∈ mappedNumbersOfItems items
  induction hv with
  | head => exact List.mem_append_left _ hn
  | tail _ _ ih => exact List.mem_append_right _ ih

end

mutual

theorem mappedNumbers_sublist : ∀ {v : Value}, v.mappedNumbers.Sublist v.numbers
  | .null | .bool _ | .number _ | .text _ => List.nil_sublist _
  | .list _ => mappedNumbersOfItems_sublist
  | .mapping _ => List.Sublist.refl _

theorem mappedNumbersOfItems_sublist :
    ∀ {items : List Value}, (mappedNumbersOfItems items).Sublist (numbersOfItems items)
  | [] => List.Sublist.refl _
  | _ :: _ => List.Sublist.append mappedNumbers_sublist mappedNumbersOfItems_sublist

end

section

variable {same same' inside inside' : Number → Number → Bool} {v w : Value}

/-- What agrees stays so if its numbers do, those inside mappings and those anywhere. -/
theorem agree_mono (h : v.agree same inside w = true)
    (hsame : ∀ m ∈ v.numbers, ∀ n ∈ w.numbers, same m n = true → same' m n = true)
    (hinside : ∀ m ∈ v.mappedNumbers, ∀ n ∈ w.mappedNumbers,
      inside m n = true → inside' m n = true) :
    v.agree same' inside' w = true := by
  induction v using Value.induction generalizing same same' w with
  | null => cases w <;> simp_all [agree]
  | bool b => cases w <;> simp_all [agree]
  | number m =>
    cases w with
    | number n => exact hsame m List.mem_cons_self n List.mem_cons_self h
    | _ => cases h
  | text s => cases w <;> simp_all [agree]
  | list xs ih =>
    cases w with
    | list ys =>
      refine agree_list.2 ((forall₂_mem (agree_list.1 h)).imp fun x y ⟨⟨hx, hy⟩, hxy⟩ => ?_)
      refine ih x hx hxy (fun m hm n hn => ?_) fun m hm n hn => ?_
      · exact hsame m (mem_numbers_of_item hx hm) n (mem_numbers_of_item hy hn)
      · exact hinside m (mem_mappedNumbers_of_item hx hm) n (mem_mappedNumbers_of_item hy hn)
    | _ => cases h
  | mapping xs ih =>
    cases w with
    | mapping ys =>
      refine agree_mapping.2
        ((forall₂_mem (agree_mapping.1 h)).imp fun f g ⟨⟨hf, hg⟩, hkey, hfg⟩ => ⟨hkey, ?_⟩)
      -- Inside a mapping all numbers are compared as those inside mappings are.
      have hnumbers : ∀ m ∈ f.2.numbers, ∀ n ∈ g.2.numbers,
          inside m n = true → inside' m n = true := fun m hm n hn =>
        hinside m (mem_numbers_of_field hf hm) n (mem_numbers_of_field hg hn)
      exact ih f hf hfg hnumbers fun m hm n hn =>
        hnumbers m (mappedNumbers_sublist.subset hm) n (mappedNumbers_sublist.subset hn)
    | _ => cases h

end

/-- No number inside the mappings of one value equals one inside those of the other without being
identical to it. -/
def KindsAgree (v w : Value) : Prop :=
  ∀ m ∈ v.mappedNumbers, ∀ n ∈ w.mappedNumbers, m.eqv n = true → m.identical n = true

instance (v w : Value) : Decidable (KindsAgree v w) :=
  inferInstanceAs (Decidable (∀ m ∈ v.mappedNumbers, ∀ n ∈ w.mappedNumbers, _ → _))

section

variable {v w : Value}

theorem equals_of_identical (h : v.identical w = true) : v.equals w = true := by
  rw [identical_eq_agree] at h
  rw [equals_eq_agree]
  exact agree_mono h (fun _ _ _ _ => Number.eqv_of_identical) fun _ _ _ _ hmn => hmn

/-- Equal values agree part by part, with every number counting by its value. -/
theorem agree_of_equals (h : v.equals w = true) : v.agree Number.eqv Number.eqv w = true := by
  rw [equals_eq_agree] at h
  exact agree_mono h (fun _ _ _ _ hmn => hmn) fun _ _ _ _ => Number.eqv_of_identical

theorem equals_iff_agree (h : KindsAgree v w) :
    v.equals w = true ↔ v.agree Number.eqv Number.eqv w = true := by
  refine ⟨agree_of_equals, fun hagree => ?_⟩
  rw [equals_eq_agree]
  exact agree_mono hagree (fun _ _ _ _ hmn => hmn) h

/-- Mappings whose numbers agree in kind are equal if their values are, one by one. -/
theorem equals_mapping_of_kindsAgree {xs ys : Fields} (h : KindsAgree (mapping xs) (mapping ys)) :
    (mapping xs).equals (mapping ys) = true ↔
      List.Forall₂ (fun f g => f.1 = g.1 ∧ f.2.equals g.2 = true) xs ys := by
  constructor
  · intro hequals
    exact (equals_mapping.1 hequals).imp fun f g hfg => ⟨hfg.1, equals_of_identical hfg.2⟩
  · intro hfields
    rw [equals_iff_agree h, agree_mapping]
    exact hfields.imp fun f g hfg => ⟨hfg.1, agree_of_equals hfg.2⟩

end

/-- Equality is an equivalence. Lists are equal if their items are, one by one. Mappings are equal
if they have identical values under the same keys; that is if they have equal ones, as long as no
number in one of them equals one in the other without being identical to it. In general, where
mappings agree in kind, values are equal if they are so part by part at any depth, with an integer
as equal to the float that it is rounded to. -/
theorem equals_is_congruence (v w : Value) (vs ws : List Value) {xs ys : Fields}
    (hxs : xs.Sorted) (hys : ys.Sorted) (i : Int) :
    (Equivalence fun v w : Value => v.equals w = true) ∧
    ((list vs).equals (list ws) = true ↔ List.Forall₂ (fun v w => v.equals w = true) vs ws) ∧
    ((mapping xs).equals (mapping ys) = true ↔ ∀ key,
      Option.Rel (fun v w => v.identical w = true) (Fields.get? xs key) (Fields.get? ys key)) ∧
    (KindsAgree (mapping xs) (mapping ys) →
      ((mapping xs).equals (mapping ys) = true ↔ ∀ key,
        Option.Rel (fun v w => v.equals w = true) (Fields.get? xs key) (Fields.get? ys key))) ∧
    (KindsAgree v w → (v.equals w = true ↔ v.agree Number.eqv Number.eqv w = true)) ∧
    (int i).equals (.number (.float (.ofInt i))) = true := by
  refine ⟨equals_equivalence, equals_list, ?_, fun h => ?_, equals_iff_agree, Number.eqv_iff.2 rfl⟩
  · rw [equals_mapping]
    exact Fields.forall₂_iff_get? (fun v w => v.identical w = true) hxs hys
  · rw [equals_mapping_of_kindsAgree h]
    exact Fields.forall₂_iff_get? (fun v w => v.equals w = true) hxs hys

/-- Two readings of a gauge, in which one zero has a sign. -/
theorem gauges_are_equal :
    let marks : Value := .list [.number (.float ⟨false, Nat.pow 2 1073⟩), .null]
    let xs := Fields.ofPairs [("zero", .number (.float ⟨true, 0⟩)), ("marks", marks)]
    let ys := Fields.ofPairs [("marks", marks), ("zero", .number (.float .zero))]
    xs.Sorted ∧ ys.Sorted ∧ KindsAgree (mapping xs) (mapping ys) ∧
    (mapping xs).equals (mapping ys) = true := by
  intro marks xs ys
  have hsorted : xs.Sorted := Fields.sorted_ofPairs _
  have hsorted' : ys.Sorted := Fields.sorted_ofPairs _
  have hkinds : KindsAgree (mapping xs) (mapping ys) := by decide +kernel
  have hmarks : marks.equals marks = true := equals_equivalence.refl marks
  have hbefore : "marks" < "zero" := by decide
  have hafter : ¬ "zero" < "marks" := by decide
  have hxs : xs = [("marks", marks), ("zero", .number (.float ⟨true, 0⟩))] := by
    simp only [xs, Fields.ofPairs, List.foldl_cons, List.foldl_nil, Fields.insert, String.reduceEq,
      hbefore, reduceIte]
  have hys : ys = [("marks", marks), ("zero", .number (.float .zero))] := by
    simp only [ys, Fields.ofPairs, List.foldl_cons, List.foldl_nil, Fields.insert, String.reduceEq,
      hafter, reduceIte]
  have hfields : ∀ key,
      Option.Rel (fun v w => v.equals w = true) (Fields.get? xs key) (Fields.get? ys key) := by
    rw [hxs, hys]
    exact Fields.get?_of_forall₂ (fun v w => v.equals w = true)
      (.cons ⟨rfl, hmarks⟩ (.cons ⟨rfl, by decide +kernel⟩ .nil))
  obtain ⟨-, -, -, hmappings, -⟩ :=
    equals_is_congruence (mapping xs) (mapping ys) [marks] [marks] hsorted hsorted' 0
  exact ⟨hsorted, hsorted', hkinds, (hmappings hkinds).2 hfields⟩

/-- An integer and a float are equal, but mappings that hold them are not. -/
theorem one_in_mapping_differs :
    let one : Value := .number (.float ⟨false, Double.unit⟩)
    let xs : Fields := [("k", int 1)]
    let ys : Fields := [("k", one)]
    xs.Sorted ∧ ys.Sorted ∧
    (∀ key, Option.Rel (fun v w => v.equals w = true) (Fields.get? xs key) (Fields.get? ys key)) ∧
    (list [int 1]).equals (list [one]) = true ∧ (mapping xs).equals (mapping ys) = false := by
  intro one xs ys
  have hone : (int 1).equals one = true := by decide +kernel
  have hfields : ∀ key,
      Option.Rel (fun v w => v.equals w = true) (Fields.get? xs key) (Fields.get? ys key) :=
    Fields.get?_of_forall₂ (fun v w => v.equals w = true) (.cons ⟨rfl, hone⟩ .nil)
  exact ⟨by decide, by decide, hfields, equals_list.2 (.cons hone .nil), rfl⟩

end Value

end Phrasebook
