import Phrasebook.Text.Basic

namespace Phrasebook

/-- A place between two characters: line and column count from one and the column in characters,
the offset counts bytes from zero. -/
structure Position where
  line : Nat
  column : Nat
  offset : Nat
  deriving DecidableEq, Repr

namespace Position

def start : Position := ⟨1, 1, 0⟩

def next (p : Position) (c : Char) : Position :=
  if c = '\n' then ⟨p.line + 1, 1, p.offset + 1⟩
  else ⟨p.line, p.column + 1, p.offset + c.utf8Size⟩

def after (p : Position) (cs : List Char) : Position := cs.foldl next p

@[simp] theorem after_nil (p : Position) : p.after [] = p := rfl

@[simp] theorem after_cons (p : Position) (c : Char) (cs : List Char) :
    p.after (c :: cs) = (p.next c).after cs := rfl

theorem after_append (p : Position) (as bs : List Char) :
    p.after (as ++ bs) = (p.after as).after bs := by simp [after]

end Position

/-- A stretch of a source: where it begins, how many bytes it has, and what its source is called. -/
structure Location where
  line : Nat
  column : Nat
  offset : Nat
  length : Nat
  sourceName : Option String
  deriving DecidableEq, Repr

namespace Location

/-- The stretch of `length` bytes from `p` on, in a source without a name. -/
def ofPosition (p : Position) (length : Nat) : Location :=
  ⟨p.line, p.column, p.offset, length, none⟩

def named (l : Location) (name : String) : Location := { l with sourceName := some name }

/-- `line:column`, after the name of the source if it has one. -/
def description (l : Location) : String :=
  let place := toString l.line ++ ":" ++ toString l.column
  match l.sourceName with
  | some name => name ++ ":" ++ place
  | none => place

end Location

end Phrasebook
