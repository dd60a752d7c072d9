import Phrasebook.Text.Basic

namespace Phrasebook.Text

def isQuote (c : Char) : Bool := c = '\x27' || c = '"'

def isOpener (c : Char) : Bool := c = '(' || c = '[' || c = '{'

def isCloser (c : Char) : Bool := c = ')' || c = ']' || c = '}'

/-- Whether the reader is inside a quoted string, with its mark and whether the character before
was an escaping backslash. -/
inductive Quotation where
  | outside
  | inside (mark : Char) (escaped : Bool)
  deriving DecidableEq, Repr

/-- A quote opens a string that the next same quote closes, unless a backslash precedes it. -/
def Quotation.next : Quotation → Char → Quotation
  | .outside, c => if isQuote c then .inside c false else .outside
  | .inside mark true, _ => .inside mark false
  | .inside mark false, c =>
    if c = '\\' then .inside mark true else if c = mark then .outside else .inside mark false

/-- Quotes together with the number of open brackets, whatever their kind. -/
structure Nesting where
  depth : Nat
  quotation : Quotation
  deriving DecidableEq, Repr

/-- Outside every bracket and quote. -/
def Nesting.top : Nesting := ⟨0, .outside⟩

/-- Brackets count outside quotes only; a closing one too many is ignored. -/
def Nesting.next (s : Nesting) (c : Char) : Nesting :=
  match s.quotation with
  | .inside mark escaped => ⟨s.depth, (Quotation.inside mark escaped).next c⟩
  | .outside =>
    if isOpener c then ⟨s.depth + 1, .outside⟩
    else if isCloser c then ⟨s.depth - 1, .outside⟩
    else ⟨s.depth, Quotation.outside.next c⟩

/-- A bracket or a quote: characters that change the nesting and so never separate. -/
def isNestingMark (c : Char) : Bool := isQuote c || isOpener c || isCloser c

/-- Cuts at each separator that stands at the top, starting inside the given nesting. -/
def splitFrom (separator : Char) (s : Nesting) : List Char → List (List Char)
  | [] => [[]]
  | c :: cs =>
    if s = Nesting.top ∧ c = separator ∧ isNestingMark c = false then
      [] :: splitFrom separator s cs
    else extendFirst c (splitFrom separator (s.next c) cs)

/-- The parts of a text between the separators outside all brackets and quotes. -/
def splitTopLevel (separator : Char) (cs : List Char) : List (List Char) :=
  splitFrom separator .top cs

theorem splitFrom_ne_nil (separator : Char) (s : Nesting) (cs : List Char) :
    splitFrom separator s cs ≠ [] := by
  cases cs with
  | nil => simp [splitFrom]
  | cons c cs =>
    rw [splitFrom]
    split
    · simp
    · exact extendFirst_ne_nil c _

/-- How many characters it takes to close the span that was opened just before the text, with
`depth` further spans open inside it. There is no answer when the line ends first. -/
def closingAfter (opening closing : Char) (depth : Nat) (q : Quotation) : List Char → Option Nat
  | [] => none
  | c :: cs =>
    if isLineEnd c then none
    else if q = .outside ∧ c = opening then
      (closingAfter opening closing (depth + 1) q cs).map (· + 1)
    else if q = .outside ∧ c = closing then
      match depth with
      | 0 => some 1
      | depth + 1 => (closingAfter opening closing depth q cs).map (· + 1)
    else (closingAfter opening closing depth (q.next c) cs).map (· + 1)

/-- Length of the balanced span at the start of a text. Delimiters inside quoted strings do not
count, and the span stays on its line. -/
def balancedLength (opening closing : Char) : List Char → Option Nat
  | [] => none
  | c :: cs =>
    if c = opening then (closingAfter opening closing 0 .outside cs).map (· + 1) else none

end Phrasebook.Text
