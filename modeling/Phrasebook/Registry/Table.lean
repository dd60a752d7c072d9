import Phrasebook.ParseError
import Phrasebook.Result
import Phrasebook.Template

namespace Phrasebook

/-- What to do with a template whose name is taken. -/
inductive DuplicatePolicy where
  | reject
  /-- The later definition replaces the earlier one, in its place. -/
  | lastWins
  deriving DecidableEq, Repr

inductive LoadError where
  | malformed (error : ParseError)
  | duplicate (name : String) (first second : Location)
  deriving DecidableEq, Repr

def LoadError.message : LoadError → String
  | malformed error => "Failed to parse LG source: " ++ error.text
  | duplicate name first second =>
    "Template '" ++ name ++ "' is defined twice: first at " ++ first.description ++
      ", again at " ++ second.description

namespace Registry

/-- The two containers of a registry: a map from names to templates, which knows no order, and the
names in the order in which they were first defined. Each is changed without a look at the other. -/
structure Table where
  byName : List (String × Template)
  order : List String
  deriving DecidableEq

namespace Table

def empty : Table := ⟨[], []⟩

/-- What the map has under a name. -/
def get? (c : Table) (name : String) : Option Template := c.byName.lookup name

def contains (c : Table) (name : String) : Bool := (c.get? name).isSome

def parameters? (c : Table) (name : String) : Option (List String) :=
  (c.get? name).map Template.parameters

/-- The number of entries of the map. -/
def size (c : Table) : Nat := c.byName.length

def names (c : Table) : List String := c.order

/-- The templates in the order of their names. -/
def templates (c : Table) : List Template := c.order.filterMap c.get?

/-- Puts a template into the map under its name. An entry that is there already is dropped. -/
def assign (t : Template) (entries : List (String × Template)) : List (String × Template) :=
  (t.name, t) :: entries.filter fun entry => entry.1 != t.name

/-- Takes in a template and lists its name. -/
def append (c : Table) (t : Template) : Table := ⟨assign t c.byName, c.order ++ [t.name]⟩

/-- Takes in a template whose name is listed. -/
def replace (c : Table) (t : Template) : Table := { c with byName := assign t c.byName }

def insert (policy : DuplicatePolicy) (c : Table) (t : Template) : Except LoadError Table :=
  match c.get? t.name, policy with
  | some first, .reject => .error (.duplicate t.name first.location t.location)
  | some _, .lastWins => .ok (c.replace t)
  | none, _ => .ok (c.append t)

def ofTemplates (policy : DuplicatePolicy) (ts : List Template) : Except LoadError Table :=
  ts.foldlM (insert policy) empty

def ofFiles (policy : DuplicatePolicy) (files : List SourceFile) : Except LoadError Table :=
  ofTemplates policy (files.flatMap SourceFile.templates)

/-- The two containers are in step: they have the same names, each once, and under every name the
map has a template of that name. -/
structure InStep (c : Table) : Prop where
  nodup : c.order.Nodup
  perm : (c.byName.map Prod.fst).Perm c.order
  named : ∀ {name t}, c.get? name = some t → t.name = name

section

variable {c c' : Table} {t : Template} {name : String} {policy : DuplicatePolicy}

theorem contains_of_get? (h : c.get? name = some t) : c.contains name = true := by
  simp [contains, h]

theorem not_contains_of_get? (h : c.get? name = none) : c.contains name = false := by
  simp [contains, h]

theorem parameters?_of_get? (h : c.get? name = some t) :
    c.parameters? name = some t.parameters := by
  simp [parameters?, h]

theorem lookup_filter_ne (entries : List (String × Template)) {name other : String}
    (h : name ≠ other) :
    (entries.filter fun entry => entry.1 != other).lookup name = entries.lookup name := by
  induction entries with
  | nil => rfl
  | cons entry entries ih =>
    obtain ⟨key, t⟩ := entry
    by_cases hkey : key = other
    · have hother : (name == other) = false := by simp [h]
      simp [hkey, List.lookup_cons, hother, ih]
    · simp [hkey, List.lookup_cons, ih]

/-- A template is found under its name, and the others where they were. -/
theorem lookup_assign (t : Template) (entries : List (String × Template)) (name : String) :
    (assign t entries).lookup name = if t.name = name then some t else entries.lookup name := by
  unfold assign
  by_cases h : t.name = name
  · simp [h]
  · have hname : (name == t.name) = false := by simp [Ne.symm h]
    simp [h, List.lookup_cons, hname, lookup_filter_ne entries (Ne.symm h)]

theorem get?_append (c : Table) (t : Template) (name : String) :
    (c.append t).get? name = if t.name = name then some t else c.get? name :=
  lookup_assign t c.byName name

theorem get?_replace (c : Table) (t : Template) (name : String) :
    (c.replace t).get? name = if t.name = name then some t else c.get? name :=
  lookup_assign t c.byName name

theorem map_fst_assign (t : Template) (entries : List (String × Template)) :
    (assign t entries).map Prod.fst =
      t.name :: (entries.map Prod.fst).filter fun key => key != t.name := by
  rw [assign, List.map_cons, List.filter_map]
  rfl

theorem contains_iff_mem_keys : c.contains name ↔ name ∈ c.byName.map Prod.fst := by
  rw [contains, get?, List.lookup_isSome_iff, List.mem_map]
  simp

theorem inStep_empty : empty.InStep where
  nodup := List.nodup_nil
  perm := .nil
  named h := by simp [get?, empty] at h

namespace InStep

/-- The map has the names that are listed. -/
theorem contains_iff (hc : c.InStep) : c.contains name ↔ name ∈ c.order := by
  rw [contains_iff_mem_keys, hc.perm.mem_iff]

theorem size_eq (hc : c.InStep) : c.size = c.names.length := by
  have hlength := hc.perm.length_eq
  rwa [List.length_map] at hlength

theorem append (hc : c.InStep) (h : t.name ∉ c.order) : (c.append t).InStep where
  nodup := by
    have hcons : (t.name :: c.order).Nodup := List.nodup_cons.2 ⟨h, hc.nodup⟩
    exact (List.perm_append_singleton t.name c.order).nodup_iff.2 hcons
  perm := by
    have hkeys : ((c.byName.map Prod.fst).filter fun key => key != t.name) =
        c.byName.map Prod.fst := by
      rw [List.filter_eq_self]
      intro key hkey
      have hne : key ≠ t.name := by
        rintro rfl
        exact h (hc.perm.mem_iff.1 hkey)
      simpa using hne
    change ((assign t c.byName).map Prod.fst).Perm (c.order ++ [t.name])
    rw [map_fst_assign, hkeys]
    exact (hc.perm.cons t.name).trans (List.perm_append_singleton t.name c.order).symm
  named hs := by
    rw [get?_append] at hs
    split at hs
    · cases hs
      assumption
    · exact hc.named hs

theorem replace (hc : c.InStep) (h : t.name ∈ c.order) : (c.replace t).InStep where
  nodup := hc.nodup
  perm := by
    have hmem : t.name ∈ c.byName.map Prod.fst := hc.perm.mem_iff.2 h
    have hkeys : (c.byName.map Prod.fst).Nodup := hc.perm.nodup_iff.2 hc.nodup
    change ((assign t c.byName).map Prod.fst).Perm c.order
    rw [map_fst_assign, ← hkeys.erase_eq_filter]
    exact (List.perm_cons_erase hmem).symm.trans hc.perm
  named hs := by
    rw [get?_replace] at hs
    split at hs
    · cases hs
      assumption
    · exact hc.named hs

/-- Each insertion changes both containers alike. -/
theorem insert (hc : c.InStep) (h : c.insert policy t = .ok c') : c'.InStep := by
  unfold Table.insert at h
  split at h
  · contradiction
  · rename_i first hfirst
    cases h
    have hlisted : t.name ∈ c.order := hc.contains_iff.1 (contains_of_get? hfirst)
    exact hc.replace hlisted
  · rename_i hnone
    cases h
    have hnew : t.name ∉ c.order := by
      rw [← hc.contains_iff, not_contains_of_get? hnone]
      exact Bool.false_ne_true
    exact hc.append hnew

theorem foldlM (hc : c.InStep) {ts : List Template}
    (h : ts.foldlM (Table.insert policy) c = .ok c') : c'.InStep := by
  induction ts generalizing c with
  | nil =>
    cases h
    exact hc
  | cons t ts ih =>
    rw [List.foldlM_cons] at h
    obtain ⟨c₁, hinsert, hrest⟩ := bind_eq_ok.1 h
    exact ih (hc.insert hinsert) hrest

/-- The containers are in step after any number of insertions. -/
theorem ofTemplates {ts : List Template} (h : Table.ofTemplates policy ts = .ok c) : c.InStep :=
  inStep_empty.foldlM h

end InStep

end

end Table

end Registry

end Phrasebook
