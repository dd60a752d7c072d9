import Phrasebook.ParseError

namespace Phrasebook

inductive Severity where
  | error
  | warning
  | hint
  deriving DecidableEq, Repr

def Severity.label : Severity → String
  | error => "error"
  | warning => "warning"
  | hint => "hint"

inductive FindingCode where
  | malformedSource
  | duplicateTemplate
  | unknownTemplate
  | argumentCountMismatch
  | invalidReference
  | unusedParameter
  deriving DecidableEq, Repr

/-- Numbers of lines and columns have 32 bits; what does not fit is cut off. -/
instance cutToWord : Coe Nat UInt32 := ⟨UInt32.ofNat⟩

/-- A range of lines and columns, each counted from one in 32 bits. -/
structure Span where
  sourceName : Option String
  startLine : UInt32
  startColumn : UInt32
  endLine : UInt32
  endColumn : UInt32
  deriving DecidableEq, Repr

namespace Span

/-- The range of a location on its own line. It is as many columns wide as the location has bytes, if
the sum has 32 bits. -/
def ofLocation (l : Location) : Span :=
  let line : UInt32 := l.line
  let column : UInt32 := l.column
  ⟨l.sourceName, line, column, line, column + l.length⟩

/-- The place where the range starts. -/
def description (s : Span) : String :=
  let place := toString s.startLine ++ ":" ++ toString s.startColumn
  match s.sourceName with
  | some name => name ++ ":" ++ place
  | none => place

end Span

structure RelatedPlace where
  message : String
  span : Span
  deriving DecidableEq, Repr

structure Diagnostic where
  severity : Severity
  code : FindingCode
  message : String
  span : Option Span
  related : List RelatedPlace
  deriving DecidableEq, Repr

namespace Diagnostic

def isError (d : Diagnostic) : Bool := d.severity = .error

def isWarning (d : Diagnostic) : Bool := d.severity = .warning

/-- Severity, message and the place, on one line. -/
def text (d : Diagnostic) : String :=
  let head := d.severity.label ++ ": " ++ d.message
  match d.span with
  | some span => head ++ " [" ++ span.description ++ "]"
  | none => head

def ofParseError (e : ParseError) : Diagnostic :=
  let wanted :=
    match e.fault.expected with
    | [] => ""
    | wanted => ", expected " ++ " or ".intercalate wanted
  ⟨.error, .malformedSource, e.fault.message ++ wanted, some (.ofLocation e.location), []⟩

/-- A template whose name the definition at `first` has taken. -/
def duplicateTemplate (name : String) (location first : Location) : Diagnostic :=
  ⟨.error, .duplicateTemplate, "template '" ++ name ++ "' is already defined",
    some (.ofLocation location), [⟨"first definition", .ofLocation first⟩]⟩

def unknownTemplate (name : String) (location : Location) : Diagnostic :=
  ⟨.warning, .unknownTemplate, "reference to undefined template '" ++ name ++ "'",
    some (.ofLocation location), []⟩

def invalidReference (message : String) (location : Location) : Diagnostic :=
  ⟨.warning, .invalidReference, message, some (.ofLocation location), []⟩

def argumentCountMismatch (name : String) (expected found : Nat) (location : Location) :
    Diagnostic :=
  ⟨.warning, .argumentCountMismatch,
    "template '" ++ name ++ "' expects " ++ toString expected ++
      " argument(s), reference passes " ++ toString found,
    some (.ofLocation location), []⟩

def unusedParameter (parameter name : String) (location : Location) : Diagnostic :=
  ⟨.hint, .unusedParameter,
    "parameter '" ++ parameter ++ "' of template '" ++ name ++ "' is never used",
    some (.ofLocation location), []⟩

end Diagnostic

end Phrasebook
