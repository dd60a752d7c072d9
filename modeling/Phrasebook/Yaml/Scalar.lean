import Phrasebook.Yaml.Token

namespace Phrasebook.Yaml

/-- White space inside a scalar, each part reversed: blanks on one line, or line ends, of which the
`first` is missing when it has been escaped. -/
structure Space where
  blanks : List Char
  broken : Bool
  first : Option Char
  more : List Char
  deriving DecidableEq, Repr

namespace Space

def none : Space := ⟨[], false, Option.none, []⟩

def joined : Space := ⟨[], true, Option.none, []⟩

/-- Blanks at the start or the end of a line do not count. -/
def addBlank (s : Space) (c : Char) : Space :=
  if s.broken then s else { s with blanks := c :: s.blanks }

def addBreak (s : Space) (c : Char) : Space :=
  if s.broken then { s with more := c :: s.more } else ⟨[], true, some c, []⟩

/-- What it stands for, reversed: blanks for themselves, a line feed for a space, and a line feed
with more line ends behind it for those alone. -/
def text (s : Space) : List Char :=
  if !s.broken then s.blanks
  else match s.first with
    | Option.none => s.more
    | some c =>
      if c = '\n' then (if s.more = [] then [' '] else s.more) else s.more ++ [c]

end Space

/-- Brackets and commas, which end a plain scalar inside brackets. -/
def isFlowMark (c : Char) : Bool := ",[]\x7b\x7d".toList.contains c

/-- A plain scalar can start with the character, given the one after it. -/
def startsPlain (flow : Bool) (c : Char) (next : Option Char) : Bool :=
  if c = '-' then !endsWord next
  else if c = '?' ∨ c = ':' then !flow && !endsWord next
  else !(endsWord (some c) || ",[]\x7b\x7d#&*!|>\x27\"%@\x60".toList.contains c)

/-- A plain scalar from its first character on: its text reversed, whether lines end behind it, and
what follows. `text` has been read, with `space` behind it that counts only if more text follows;
in block content, lines that go on have to reach the column `indent`. -/
def plainFrom (flow : Bool) (indent : Nat) (text : List Char) (space : Space) (afterSpace : Bool)
    (line column : Nat) : List Char → Option (List Char × Bool × Cursor)
  | [] => some (text, space.broken, ⟨[], line, column⟩)
  | c :: cs =>
    let here : Cursor := ⟨c :: cs, line, column⟩
    if isBreak c then plainFrom flow indent text (space.addBreak c) true (line + 1) 0 cs
    else if Text.isBlank c then
      if c = '\t' && space.broken && column < indent then none
      else plainFrom flow indent text (space.addBlank c) true line (column + 1) cs
    else if afterSpace && (here.atStart || here.atStop || c = '#' || !flow && column < indent) then
      some (text, space.broken, here)
    else if flow && c = ':' && cs.head?.any (fun d => isFlowMark d || d = '?') then none
    else if (c = ':' && endsWord cs.head?) || (flow && isFlowMark c) then
      some (text, space.broken, here)
    else plainFrom flow indent (c :: (space.text ++ text)) .none false line (column + 1) cs

/-- A plain scalar, whether a line has just begun behind it, and what follows. -/
def plainScalar (flow : Bool) (indent : Nat) (p : Cursor) : Option (Token × Bool × Cursor) :=
  (plainFrom flow indent [] .none false p.line p.column p.rest).map fun (text, fresh, p) =>
    (.scalar (String.ofList text.reverse) .plain, fresh, p)

/-- The characters that escapes of one letter stand for. -/
def escapes : List (Char × Nat) :=
  [('0', 0), ('a', 7), ('b', 8), ('t', 9), ('\t', 9), ('n', 10), ('v', 11), ('f', 12), ('r', 13),
    ('e', 27), (' ', 32), ('"', 34), ('/', 47), ('\\', 92), ('N', 0x85), ('_', 0xA0),
    ('L', 0x2028), ('P', 0x2029)]

/-- How many hexadecimal digits follow the letter of an escape. -/
def hexWidth? (c : Char) : Option Nat :=
  if c = 'x' then some 2 else if c = 'u' then some 4 else if c = 'U' then some 8 else none

def charOf? (n : Nat) : Option Char := if n.isValidChar then some (Char.ofNat n) else none

/-- The character of the escape after a backslash, and how many characters the escape has. -/
def escape? (cs : List Char) : Option (Char × Nat) :=
  match cs with
  | [] => none
  | c :: cs =>
    match escapes.lookup c, hexWidth? c with
    | some n, _ => some (Char.ofNat n, 1)
    | none, some width =>
      if cs.length < width then none
      else ((digitsValue? 16 (cs.take width)).bind charOf?).map fun d => (d, width + 1)
    | none, none => none

/-- A quoted scalar after its opening mark: its text reversed, and what follows. `steps` is at least
the number of characters left. -/
def quotedFrom (mark : Char) (text : List Char) (space : Space) :
    Nat → Cursor → Option (List Char × Cursor)
  | 0, _ => none
  | steps + 1, p =>
    match p.rest with
    | [] => none
    | c :: cs =>
      let flushed := space.text ++ text
      if p.atStart || p.atStop then none
      else if isBreak c then quotedFrom mark text (space.addBreak c) steps p.next
      else if Text.isBlank c then quotedFrom mark text (space.addBlank c) steps p.next
      else if c = mark then
        if mark = '\x27' ∧ cs.head? = some mark then
          quotedFrom mark (mark :: flushed) .none steps (p.skip 2)
        else some (flushed, p.next)
      else if c = '\\' ∧ mark = '"' then
        if cs.head?.any isBreak then quotedFrom mark flushed .joined steps (p.skip 2)
        else match escape? cs with
          | some (d, count) => quotedFrom mark (d :: flushed) .none steps (p.skip (count + 1))
          | none => none
      else quotedFrom mark (c :: flushed) .none steps p.next

def quotedScalar (mark : Char) (p : Cursor) : Option (Token × Cursor) :=
  (quotedFrom mark [] .none (p.rest.length + 1) p.next).map fun (text, p) =>
    (.scalar (String.ofList text.reverse) .quoted, p)

/-- What becomes of the line ends at the end of a block. -/
inductive Chomping where
  | strip
  | clip
  | keep
  deriving DecidableEq, Repr

/-- The sign that tells what becomes of the line ends. -/
def chomping? (c : Option Char) : Option Chomping :=
  if c = some '+' then some .keep else if c = some '-' then some .strip else none

/-- The signs behind the mark of a block, in either order: how to end it, and how far it is indented
beyond what it is part of. -/
def blockSigns (p : Cursor) : Option (Chomping × Option Nat × Cursor) :=
  let digit (p : Cursor) : Option (Option Nat × Cursor) :=
    match p.head?.bind (digitValue? 10) with
    | some 0 => none
    | some n => some (some n, p.next)
    | none => some (none, p)
  match chomping? p.head? with
  | some chomping => (digit p.next).map fun (increment, p) => (chomping, increment, p)
  | none =>
    match digit p with
    | none => none
    | some (none, p) => some (.clip, none, p)
    | some (some n, p) =>
      match chomping? p.head? with
      | some chomping => some (chomping, some n, p.next)
      | none => some (.clip, some n, p)

/-- Skips empty lines and indentation: the line ends reversed, the widest line, and the first
character behind. Without an indent all spaces are skipped, and with one as many as belong to it. -/
def blockBreaks (indent : Option Nat) (breaks : List Char) (widest line column : Nat) :
    List Char → Option (List Char × Nat × Cursor)
  | [] => some (breaks, max widest column, ⟨[], line, column⟩)
  | c :: cs =>
    let inside := indent.all fun i => column < i
    if c = ' ' && inside then blockBreaks indent breaks widest line (column + 1) cs
    else if c = '\t' && inside then none
    else if isBreak c then blockBreaks indent (c :: breaks) (max widest column) (line + 1) 0 cs
    else some (breaks, max widest column, ⟨c :: cs, line, column⟩)

structure Layout where
  literal : Bool
  chomping : Chomping
  indent : Nat

/-- The line ends in front of a line of a block, reversed: `ending` ends the line before, and the
rest end empty lines. Between lines that start with no blank, a folded block has a space for a line
feed, or only the empty lines. -/
def Layout.between (l : Layout) (ending : Option Char) (breaks : List Char) (wide : Bool) :
    List Char :=
  match ending with
  | none => breaks
  | some c =>
    if l.literal || wide || c ≠ '\n' then breaks ++ [c]
    else if breaks = [] then [' ']
    else breaks

/-- The lines of a block from one that starts at its indent: the text reversed, and what follows.
`ending` is the line end before, if there is one, and `breaks` are those of the empty lines behind
it; `wide` tells whether the line before began with a blank. -/
def blockLines (l : Layout) (text : List Char) (ending : Option Char) (breaks : List Char)
    (wide : Bool) : Nat → Cursor → Option (List Char × Cursor)
  | 0, _ => none
  | steps + 1, p =>
    if p.column = l.indent ∧ p.rest ≠ [] then
      let startsWide := p.head?.any Text.isBlank
      let content := p.rest.takeWhile fun c => !isBreak c
      let text := content.reverse ++ (l.between ending breaks (wide || startsWide) ++ text)
      let p := p.skip content.length
      let ending := p.head?
      let q := p.next
      match blockBreaks (some l.indent) [] 0 q.line q.column q.rest with
      | some (breaks, _, q) => blockLines l text ending breaks startsWide steps q
      | none => none
    else
      let final := if l.chomping = .strip then [] else ending.toList
      let empties := if l.chomping = .keep then breaks else []
      some (empties ++ (final ++ text), p)

/-- A block, and what follows it. Its lines have to be indented to the column `least` unless its
signs say otherwise. -/
def blockScalar (least : Nat) (p : Cursor) : Option (Token × Cursor) := do
  let literal := p.head? = some '|'
  let (chomping, increment, p) ← blockSigns p.next
  let p ← p.nextLine
  let known := increment.map fun i => least - 1 + i
  let (breaks, widest, p) ← blockBreaks known [] 0 p.line p.column p.rest
  let indent := known.getD (max widest (max least 1))
  let (text, p) ← blockLines ⟨literal, chomping, indent⟩ [] none breaks false (p.rest.length + 1) p
  let style : Style := if literal then .literal else .folded
  return (.scalar (String.ofList text.reverse) style, p)

end Phrasebook.Yaml
