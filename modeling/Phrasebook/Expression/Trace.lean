import Phrasebook.Text.Basic

namespace Phrasebook

/-- What was looked for at a place. -/
inductive Sought where
  /-- A certain character. -/
  | char (c : Char)
  /-- The start of a name. -/
  | word
  /-- One of several forms. -/
  | choice
  /-- An operand as a whole. -/
  | operand
  /-- The end of the text. -/
  | ending
  deriving DecidableEq, Repr

/-- Something that was not found in front of `rest`. -/
structure Miss where
  rest : List Char
  sought : Sought
  deriving DecidableEq, Repr

abbrev Trace := List Miss

namespace Trace

def noName (rest : List Char) : Trace := [⟨rest, .word⟩, ⟨rest, .choice⟩]

/-- No operand starts here: none of its forms, the last of which is a name. -/
def noOperand (rest : List Char) : Trace :=
  noName rest ++ [⟨rest, .choice⟩, ⟨rest, .operand⟩, ⟨rest, .choice⟩]

def noChar (c : Char) (rest : List Char) : Trace := [⟨rest, .char c⟩]

def noEnding (rest : List Char) : Trace := [⟨rest, .ending⟩]

/-- The failure lies inside an operand that starts at `start`. -/
def within (t : Trace) (start : List Char) : Trace := t ++ [⟨start, .operand⟩]

end Trace

def Sought.name : Sought → String
  | char c => String.singleton c
  | word => "Tag"
  | choice => "Alt"
  | operand => "value"
  | ending => "Eof"

namespace Miss

/-- The characters since the last line feed, and the number of the line. -/
def lineOf (number : Nat) (line : List Char) : List Char → Nat × List Char
  | [] => (number, line)
  | c :: cs => if c = '\n' then lineOf (number + 1) [] cs else lineOf number (line ++ [c]) cs

/-- One entry of an account of `whole`: the line, a mark under the place, and what was wanted. -/
def describe (whole : List Char) (number : Nat) (m : Miss) : String :=
  let head := toString number ++ ": "
  if whole = [] then
    match m.sought with
    | .char c => head ++ "expected '" ++ String.singleton c ++ "', got empty input\n\n"
    | sought => head ++ "in " ++ sought.name ++ ", got empty input\n\n"
  else
    let before := whole.take (whole.length - m.rest.length)
    let (lineNumber, lineStart) := lineOf 1 [] before
    let line := Text.trimEnd (lineStart ++ m.rest.takeWhile fun c => c != '\n')
    let mark := List.replicate (Text.byteLength lineStart) ' ' ++ ['^']
    let place := String.ofList (line ++ '\n' :: mark) ++ "\n"
    let start := head ++ "at line " ++ toString lineNumber
    match m.sought with
    | .char c =>
      let found :=
        match m.rest with
        | [] => "got end of input"
        | d :: _ => "found " ++ String.singleton d
      start ++ ":\n" ++ place ++ "expected '" ++ String.singleton c ++ "', " ++ found ++ "\n\n"
    | sought => start ++ ", in " ++ sought.name ++ ":\n" ++ place ++ "\n"

end Miss

/-- The entries of an account one after the other, counted from zero. -/
def Trace.describe (whole : List Char) (t : Trace) : String :=
  String.join (t.zipIdx.map fun (m, i) => m.describe whole i)

end Phrasebook
