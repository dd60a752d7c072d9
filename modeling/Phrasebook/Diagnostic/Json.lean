import Phrasebook.Diagnostic
import Phrasebook.Value.Basic

namespace Phrasebook

def Severity.tag : Severity → String
  | error => "Error"
  | warning => "Warning"
  | hint => "Hint"

def FindingCode.tag : FindingCode → String
  | malformedSource => "SyntaxError"
  | duplicateTemplate => "DuplicateTemplate"
  | unknownTemplate => "UnknownTemplate"
  | argumentCountMismatch => "ArgumentCountMismatch"
  | invalidReference => "InvalidTemplateRef"
  | unusedParameter => "UnusedParameter"

def Value.ofFields (fields : List (String × Value)) : Value := .mapping (Fields.ofPairs fields)

def Value.ofOption {α : Type} (f : α → Value) : Option α → Value
  | some a => f a
  | none => .null

def Span.toValue (s : Span) : Value :=
  .ofFields [("source_name", .ofOption .text s.sourceName),
    ("start_line", .int s.startLine.toNat), ("start_col", .int s.startColumn.toNat),
    ("end_line", .int s.endLine.toNat), ("end_col", .int s.endColumn.toNat)]

def RelatedPlace.toValue (r : RelatedPlace) : Value :=
  .ofFields [("message", .text r.message), ("span", r.span.toValue)]

def Diagnostic.toValue (d : Diagnostic) : Value :=
  .ofFields [("severity", .text d.severity.tag), ("code", .text d.code.tag),
    ("message", .text d.message), ("span", .ofOption Span.toValue d.span),
    ("related", .list (d.related.map RelatedPlace.toValue))]

end Phrasebook
