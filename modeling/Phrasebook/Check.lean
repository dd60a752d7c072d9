import Phrasebook.Diagnostic
import Phrasebook.Island
import Phrasebook.Reference
import Phrasebook.Text.Letters

namespace Phrasebook

/-- How many of each thing the checked files hold. -/
structure Census where
  templates : Nat
  conditionals : Nat
  references : Nat
  expressions : Nat
  deriving DecidableEq, Repr

structure Report where
  diagnostics : List Diagnostic
  census : Census
  deriving DecidableEq, Repr

namespace Report

def isValid (r : Report) : Bool := !r.diagnostics.any Diagnostic.isError

def errors (r : Report) : List Diagnostic := r.diagnostics.filter Diagnostic.isError

def warnings (r : Report) : List Diagnostic := r.diagnostics.filter Diagnostic.isWarning

end Report

namespace Check

/-- A finding for every template whose name an earlier one has taken. -/
def duplicates (seen : List Template) : List Template → List Diagnostic
  | [] => []
  | t :: ts =>
    match seen.find? fun s => s.name == t.name with
    | some first => .duplicateTemplate t.name t.location first.location :: duplicates seen ts
    | none => duplicates (seen ++ [t]) ts

/-- A place where no word goes on: the end of the text, or a character that is neither a letter,
a digit nor an underscore. -/
def isWordEdge : Option Char → Bool
  | none => true
  | some c => !(Text.isLetterOrDigit c || c = '_')

/-- The name stands in the text as a whole word. Its occurrences are taken from left to right and
without overlap; `before` is the character in front of the text. -/
def mentionsFrom (name : List Char) (before : Option Char) : List Char → Bool
  | [] => name.isEmpty && isWordEdge before
  | c :: cs =>
    if name.isPrefixOf (c :: cs) then
      (isWordEdge before && isWordEdge ((c :: cs).drop name.length).head?) ||
        mentionsFrom name (c :: cs.take (name.length - 1)).getLast? (cs.drop (name.length - 1))
    else mentionsFrom name (some c) cs
termination_by cs => cs.length
decreasing_by
  · simp only [List.length_drop, List.length_cons]
    omega
  · simp

def mentions (text name : String) : Bool := mentionsFrom name.toList none text.toList

/-- Everything in a template that may mention a parameter: its conditions and the inner texts of
its segments other than plain text, each followed by a space. -/
def mentionedText (t : Template) : String :=
  let inners := t.body.allLines.flatMap fun line =>
    line.segments.filterMap fun segment =>
      match segment with
      | .text _ => none
      | _ => some segment.inner
  String.join ((t.body.conditions ++ inners).map (· ++ " "))

/-- A template without parameters takes one argument as its whole scope. -/
def acceptsArguments (parameters arguments : Nat) : Bool :=
  (parameters = 0 && arguments = 1) || arguments = parameters

/-- What is wrong with a reference in a line at `location`, given all definitions. -/
def reference (definitions : List Template) (location : Location) (text : String) :
    List Diagnostic :=
  match Reference.parse text with
  | .error e => [.invalidReference e.message location]
  | .ok r =>
    match definitions.find? fun t => t.name == r.name with
    | none => [.unknownTemplate r.name location]
    | some target =>
      match r.arguments with
      | none => []
      | some arguments =>
        if acceptsArguments target.parameters.length arguments.length then []
        else [.argumentCountMismatch r.name target.parameters.length arguments.length location]

def template (definitions : List Template) (t : Template) : List Diagnostic :=
  let references := t.body.allLines.flatMap fun line =>
    line.references.flatMap (reference definitions line.location)
  let text := mentionedText t
  let unused := t.parameters.filter fun p => !mentions text p
  references ++ unused.map fun p => .unusedParameter p t.name t.location

def isExpression : Segment → Bool
  | .expression _ => true
  | _ => false

def isConditional : Body → Bool
  | .choice _ => false
  | .conditional _ _ => true

def census (templates : List Template) : Census :=
  let lines := templates.flatMap fun t => t.body.allLines
  { templates := templates.length
    conditionals := templates.countP fun t => isConditional t.body
    references := (lines.flatMap Line.references).length
    expressions := (lines.flatMap Line.segments).countP isExpression }

/-- Checks files that will be loaded together: first the names, then each template. -/
def files (fs : List SourceFile) : Report :=
  let templates := fs.flatMap SourceFile.templates
  ⟨duplicates [] templates ++ templates.flatMap (template templates), census templates⟩

end Check

end Phrasebook
