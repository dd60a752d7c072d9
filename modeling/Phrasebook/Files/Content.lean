import Phrasebook.Text.Basic

namespace Phrasebook

/-- What the bytes of a file are. -/
inductive FileContent where
  | text (content : String)
  /-- Bytes that are no text, and the lines in front of the first that is none. -/
  | broken (start : String)
  deriving DecidableEq, Repr

namespace FileContent

/-- The text of lines of bytes, up to the first that has none. -/
def readable : List (List UInt8) → String
  | [] => ""
  | line :: lines =>
    match String.fromUTF8? ⟨line.toArray⟩ with
    | some content => content ++ readable lines
    | none => ""

/-- The byte that ends a line; no longer character contains it. -/
def lineFeed : UInt8 := 10

def ofBytes (bytes : ByteArray) : FileContent :=
  match String.fromUTF8? bytes with
  | some content => .text content
  | none => .broken (readable (Text.linesOf lineFeed bytes.data.toList))

def text? : FileContent → Option String
  | text content => some content
  | broken _ => none

/-- The lines that can be read one after the other. -/
def start : FileContent → String
  | text content => content
  | broken start => start

end FileContent

end Phrasebook
