import Phrasebook.Value.Basic

namespace Phrasebook

/-- A template that is being rendered, with the scope it was entered with. -/
structure Target where
  name : String
  scope : Value

/-- The templates that are being rendered around each other, from the outermost on, together with
the set of their names, which tells quickly whether a template is among them. -/
structure CallStack where
  targets : List Target
  inFlight : List String

namespace CallStack

def empty : CallStack := ⟨[], []⟩

/-- The names on the stack, from the outermost on. -/
def names (c : CallStack) : List String := c.targets.map Target.name

def depth (c : CallStack) : Nat := c.targets.length

/-- The innermost template. Outside all templates there is no name and an empty scope. -/
def current (c : CallStack) : Target := c.targets.getLast?.getD ⟨"", .null⟩

def push (c : CallStack) (t : Target) : CallStack := ⟨c.targets ++ [t], c.inFlight.insert t.name⟩

def pop (c : CallStack) (name : String) : CallStack := ⟨c.targets.dropLast, c.inFlight.erase name⟩

/-- The names from the first entry of `name` on, closed by `name`. -/
def cyclePath (c : CallStack) (name : String) : List String :=
  c.names.dropWhile (fun n => n != name) ++ [name]

@[simp] theorem current_push (c : CallStack) (t : Target) : (c.push t).current = t := by
  simp [current, push]

@[simp] theorem names_push (c : CallStack) (t : Target) :
    (c.push t).names = c.names ++ [t.name] := by
  simp [names, push]

theorem mem_inFlight_push {c : CallStack} {t : Target} {name : String} :
    name ∈ (c.push t).inFlight ↔ name = t.name ∨ name ∈ c.inFlight := by
  simp [push]

/-- Leaving a template undoes entering it, if it was not in flight before. -/
theorem pop_push {c : CallStack} {t : Target} (h : t.name ∉ c.inFlight) :
    (c.push t).pop t.name = c := by
  simp [push, pop, List.insert_of_not_mem h]

end CallStack

end Phrasebook
