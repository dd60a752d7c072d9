import Phrasebook.Text.Basic

namespace Phrasebook.Yaml

/-- The characters that a text may have. -/
def isAllowed (c : Char) : Bool :=
  let n := c.toNat
  n = 9 || n = 10 || n = 13 || (32 ≤ n && n ≤ 126) || n = 133 || (160 ≤ n && n ≤ 0xFFFD) ||
    0x10000 ≤ n

/-- The line ends of one or two control characters as single line feeds. -/
def unifyLineEnds : List Char → List Char
  | [] => []
  | '\r' :: '\n' :: cs => '\n' :: unifyLineEnds cs
  | c :: cs => (if c = '\r' ∨ c.toNat = 133 then '\n' else c) :: unifyLineEnds cs

/-- What ends a line: a line feed, or a separator of lines or of paragraphs. -/
def isBreak (c : Char) : Bool := c = '\n' || c.toNat = 0x2028 || c.toNat = 0x2029

/-- The mark of the byte order, which may stand at the start of a line. -/
def isOrderMark (c : Char) : Bool := c.toNat = 0xFEFF

/-- The characters of names: of anchors, of handles and of directives. -/
def isNameChar (c : Char) : Bool := c.isAlphanum || c = '_' || c = '-'

def endsLine : Option Char → Bool
  | none => true
  | some c => isBreak c

/-- The end of a word: a blank, or the end of a line or of the text. -/
def endsWord : Option Char → Bool
  | none => true
  | some c => Text.isBlank c || isBreak c

def digitValue? (radix : Nat) (c : Char) : Option Nat :=
  let n := c.toNat
  let value :=
    if c.isDigit then n - 48
    else if 'a' ≤ c ∧ c ≤ 'f' then n - 87
    else if 'A' ≤ c ∧ c ≤ 'F' then n - 55
    else radix
  if value < radix then some value else none

def digitsValue? (radix : Nat) (digits : List Char) : Option Nat :=
  digits.foldlM (fun n c => (digitValue? radix c).map (n * radix + ·)) 0

/-- The characters that remain, with the line and the column they start at, both from zero. -/
structure Cursor where
  rest : List Char
  line : Nat
  column : Nat
  deriving DecidableEq, Repr

namespace Cursor

def start (cs : List Char) : Cursor := ⟨cs, 0, 0⟩

def head? (p : Cursor) : Option Char := p.rest.head?

def next (p : Cursor) : Cursor :=
  match p.rest with
  | [] => p
  | c :: cs => if isBreak c then ⟨cs, p.line + 1, 0⟩ else ⟨cs, p.line, p.column + 1⟩

def skip : Nat → Cursor → Cursor
  | 0, p => p
  | n + 1, p => skip n p.next

def skipWhile (p : Cursor) (q : Char → Bool) : Cursor := p.skip (Text.runLength q p.rest)

def skipBlanks (p : Cursor) : Cursor := p.skipWhile Text.isBlank

/-- The next line, if nothing but blanks and a comment remain of this one. -/
def nextLine (p : Cursor) : Option Cursor :=
  let p := p.skipBlanks
  let p := if p.head? = some '#' then p.skipWhile fun c => !isBreak c else p
  if endsLine p.head? then some p.next else none

/-- The mark of three characters stands here as a line's first word. -/
def atMarker (mark : String) (p : Cursor) : Bool :=
  p.column = 0 && mark.toList.isPrefixOf p.rest && endsWord (p.rest.drop 3).head?

def atStart (p : Cursor) : Bool := p.atMarker "---"

def atStop (p : Cursor) : Bool := p.atMarker "..."

/-- Skips blanks, comments and line ends. A key may start here if `fresh`, and after a line end in
block content; tabs may stand in front of it inside brackets only. -/
def gapFrom (flow fresh comment : Bool) (line column : Nat) : List Char → Bool × Cursor
  | [] => (fresh, ⟨[], line, column⟩)
  | c :: cs =>
    if isBreak c then gapFrom flow (fresh || !flow) false (line + 1) 0 cs
    else if comment || c = '#' then gapFrom flow fresh true line (column + 1) cs
    else if c = ' ' || (c = '\t' && (flow || !fresh)) || (column = 0 && isOrderMark c) then
      gapFrom flow fresh false line (column + 1) cs
    else (fresh, ⟨c :: cs, line, column⟩)

/-- Whether a key may start after a gap, and what follows it. -/
def afterGap (flow fresh : Bool) (p : Cursor) : Bool × Cursor :=
  gapFrom flow fresh false p.line p.column p.rest

end Cursor

end Phrasebook.Yaml
