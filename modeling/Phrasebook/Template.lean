import Phrasebook.Source.Location

namespace Phrasebook

/-- A piece of a template line, with its delimiters. -/
inductive Segment where
  | text (raw : String)
  /-- An expression in braces. -/
  | expression (raw : String)
  /-- A template reference in brackets. -/
  | reference (raw : String)
  /-- A block between fences. -/
  | block (raw : String)
  deriving DecidableEq, Repr

namespace Segment

def raw : Segment → String
  | text s | expression s | reference s | block s => s

/-- What stands between delimiters of `width` bytes; the whole text if it is too short for them or
they would cut a character. -/
def stripDelimiters (width : Nat) (raw : String) : String :=
  match (Text.dropBytes width raw.toList).bind (Text.dropBytesEnd width) with
  | some inner => String.ofList inner
  | none => raw

/-- The text between the delimiters. -/
def inner : Segment → String
  | text s => s
  | expression s | reference s => stripDelimiters 1 s
  | block s => stripDelimiters 3 s

end Segment

/-- One line of a template: segments whose renderings are joined. -/
structure Line where
  segments : List Segment
  location : Location
  deriving DecidableEq, Repr

/-- The text of a line as it stands in the source. -/
def Line.source (l : Line) : String := String.join (l.segments.map Segment.raw)

/-- The lines to choose from under one condition; a default has no condition. -/
structure Clause where
  condition : Option String
  lines : List Line
  location : Location
  deriving DecidableEq, Repr

/-- The expression that decides whether the clause is taken; the empty text where there is none. -/
def Clause.test (c : Clause) : String := c.condition.getD ""

inductive Body where
  /-- One of these lines, chosen anew each time. -/
  | choice (lines : List Line)
  /-- The lines of the first case that holds, or else those of the default. -/
  | conditional (cases : List Clause) (otherwise : Clause)
  deriving DecidableEq, Repr

def Body.allLines : Body → List Line
  | .choice lines => lines
  | .conditional cases otherwise => (cases ++ [otherwise]).flatMap Clause.lines

def Body.conditions : Body → List String
  | .choice _ => []
  | .conditional cases _ => cases.filterMap Clause.condition

/-- The conditions that rendering the body may look at, in order. -/
def Body.tests : Body → List String
  | .choice _ => []
  | .conditional cases _ => cases.map Clause.test

/-- A named template. Its location is that of the mark that opens the definition. -/
structure Template where
  name : String
  parameters : List String
  body : Body
  location : Location
  deriving DecidableEq, Repr

structure SourceFile where
  templates : List Template
  sourceName : Option String
  deriving DecidableEq, Repr

def SourceFile.template? (f : SourceFile) (name : String) : Option Template :=
  f.templates.find? fun t => t.name == name

/-- The file under a name, which its templates carry in their locations. -/
def SourceFile.named (f : SourceFile) (name : String) : SourceFile where
  templates := f.templates.map fun t => { t with location := t.location.named name }
  sourceName := some name

end Phrasebook
