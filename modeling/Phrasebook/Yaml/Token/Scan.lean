import Phrasebook.Yaml.Scalar

namespace Phrasebook.Yaml

/-- A place where a key may have started. What a colon makes a key has been read before the colon,
so the scanner remembers the number of tokens before the place, where it stands, and whether nothing
but a key may stand there. -/
structure PossibleKey where
  index : Nat
  line : Nat
  column : Nat
  required : Bool
  deriving DecidableEq, Repr

/-- The longest way from the start of a key to its colon. -/
def keyLimit : Nat := 1024

/-- How far a text has been cut. `tokens` holds the tokens, the newest first; `indents` the columns
of the block collections that are open, the innermost first; `fresh` tells whether a key or an item
may start; `outer` the possible keys outside of each bracket that is open. -/
structure Scanner where
  place : Cursor
  tokens : List Token
  indents : List Nat
  fresh : Bool
  possible : Option PossibleKey
  outer : List (Option PossibleKey)

namespace Scanner

def start (cs : List Char) : Scanner := ⟨.start cs, [], [], true, none, []⟩

def inFlow (s : Scanner) : Bool := !s.outer.isEmpty

/-- The least column of what belongs to the innermost block collection. -/
def least (s : Scanner) : Nat :=
  match s.indents with
  | [] => 0
  | column :: _ => column + 1

def push (s : Scanner) (t : Token) : Scanner := { s with tokens := t :: s.tokens }

def emit (s : Scanner) (t : Token) (fresh : Bool) (place : Cursor) : Scanner :=
  { s with tokens := t :: s.tokens, fresh := fresh, place := place }

/-- A token in front of all but the first `index` ones. -/
def insertAt (s : Scanner) (index : Nat) (t : Token) : Scanner :=
  let later := s.tokens.length - index
  { s with tokens := s.tokens.take later ++ t :: s.tokens.drop later }

/-- A block collection in a column, with its start in front of all but the first `index` tokens,
unless one in that column is open. -/
def openBlock (s : Scanner) (column index : Nat) (t : Token) : Scanner :=
  if s.inFlow || column < s.least then s
  else { s.insertAt index t with indents := column :: s.indents }

/-- Ends collections: how many there are right of a column, or at all. -/
def closed (column : Option Nat) : List Nat → Nat
  | [] => 0
  | indent :: indents => if column.all (· < indent) then closed column indents + 1 else 0

/-- Ends the block collections right of a column, or all. -/
def closeBlocks (s : Scanner) (column : Option Nat) : Scanner :=
  let count := if s.inFlow then 0 else closed column s.indents
  { s with
    tokens := List.replicate count .blockEnd ++ s.tokens, indents := s.indents.drop count }

/-- Gives up a possible key, which must not be a required one. -/
def dropKey (s : Scanner) : Option Scanner :=
  if s.possible.any fun key => key.required then none else some { s with possible := none }

/-- A key that starts here, if one may start. -/
def saveKey (s : Scanner) : Option Scanner :=
  if s.fresh then do
    let s ← s.dropKey
    let p := s.place
    let required := !s.inFlow && s.indents.head? = some p.column
    return { s with possible := some ⟨s.tokens.length, p.line, p.column, required⟩ }
  else some s

/-- The key can no longer end, now that the text up to `p` has been read. -/
def isStale (p : Cursor) (key : PossibleKey) : Bool :=
  key.line < p.line || key.column + keyLimit < p.column

/-- Gives up the keys that can no longer end. -/
def dropStale (s : Scanner) : Option Scanner :=
  let stale (key : Option PossibleKey) : Bool := key.any (isStale s.place)
  let lost (key : Option PossibleKey) : Bool := stale key && key.any fun key => key.required
  let keep (key : Option PossibleKey) : Option PossibleKey := if stale key then none else key
  if (s.possible :: s.outer).any lost then none
  else some { s with possible := keep s.possible, outer := s.outer.map keep }

/-- The start or the end of a document, where all block collections end. -/
def fetchMarker (s : Scanner) (t : Token) : Option Scanner := do
  let s ← (s.closeBlocks none).dropKey
  return s.emit t false (s.place.skip 3)

def versionNumber (p : Cursor) : Option (Nat × Cursor) :=
  let digits := p.rest.takeWhile Char.isDigit
  if digits = [] ∨ 9 < digits.length then none
  else (digitsValue? 10 digits).map fun n => (n, p.skip digits.length)

/-- What follows the name of a directive for the version. -/
def versionAt (p : Cursor) : Option (Token × Cursor) := do
  let (major, p) ← versionNumber p.skipBlanks
  if p.head? = some '.' then
    let (minor, p) ← versionNumber p.next
    return (.version major minor, p)
  else none

/-- What follows the name of a directive for a handle of tags. -/
def meaningAt (p : Cursor) : Option (Token × Cursor) := do
  let (handle, p) ← Tag.handleAt p.skipBlanks
  if (Tag.isClosed handle || handle = ['!']) && p.head?.any Text.isBlank then
    let (meaning, p) ← Tag.someBytes true p.skipBlanks
    if endsWord p.head? then return (.handle (String.ofList handle) meaning, p) else none
  else none

def fetchDirective (s : Scanner) : Option Scanner := do
  let s ← (s.closeBlocks none).dropKey
  let name := s.place.next.rest.takeWhile isNameChar
  let p := s.place.next.skip name.length
  if endsWord p.head? then
    let (t, p) ←
      if name = "YAML".toList then versionAt p
      else if name = "TAG".toList then meaningAt p
      else none
    return s.emit t false (← p.nextLine)
  else none

/-- An opening bracket, which may start a key. -/
def openFlow (s : Scanner) (t : Token) : Option Scanner := do
  let s ← s.saveKey
  return { s with possible := none, outer := s.possible :: s.outer }.emit t true s.place.next

def closeFlow (s : Scanner) (t : Token) : Option Scanner := do
  let s ← s.dropKey
  let s := { s with possible := s.outer.headD none, outer := s.outer.drop 1 }
  return s.emit t false s.place.next

def fetchComma (s : Scanner) : Option Scanner := do
  let s ← s.dropKey
  return s.emit .comma true s.place.next

def fetchItem (s : Scanner) : Option Scanner :=
  if s.inFlow || s.fresh then do
    let s ← (s.openBlock s.place.column s.tokens.length .blockList).dropKey
    return s.emit .item true s.place.next
  else none

/-- The mark of a key that may be any node. -/
def fetchKey (s : Scanner) : Option Scanner :=
  if s.inFlow || s.fresh then do
    let s ← (s.openBlock s.place.column s.tokens.length .blockMapping).dropKey
    return s.emit .key (!s.inFlow) s.place.next
  else none

/-- The colon in front of a value. It makes a key of what is before it, or else follows the key that
a mark of its own has announced. -/
def fetchValue (s : Scanner) : Option Scanner :=
  match s.possible with
  | some key =>
    let s := { s with possible := none }
    let s := (s.insertAt key.index .key).openBlock key.column key.index .blockMapping
    some (s.emit .value false s.place.next)
  | none =>
    if s.inFlow || s.fresh then
      let s := s.openBlock s.place.column s.tokens.length .blockMapping
      some (s.emit .value (!s.inFlow) s.place.next)
    else none

/-- What stands behind the mark of an anchor or of an alias. -/
def fetchName (s : Scanner) (token : String → Token) : Option Scanner := do
  let s ← s.saveKey
  let name := s.place.next.rest.takeWhile isNameChar
  let p := s.place.next.skip name.length
  let ends := endsWord p.head? || p.head?.any "?:,]\x7d%@\x60".toList.contains
  if name ≠ [] ∧ ends then return s.emit (token (String.ofList name)) false p else none

def fetchTag (s : Scanner) : Option Scanner := do
  let s ← s.saveKey
  let (written, p) ← Tag.read s.inFlow s.place
  return s.emit (.tag written) false p

/-- A block scalar, which is no key. -/
def fetchBlock (s : Scanner) : Option Scanner := do
  let s ← s.dropKey
  let (t, p) ← blockScalar s.least s.place
  return s.emit t true p

def fetchQuoted (s : Scanner) (mark : Char) : Option Scanner := do
  let s ← s.saveKey
  let (t, p) ← quotedScalar mark s.place
  return s.emit t false p

/-- A plain scalar. A key may start on the line behind it. -/
def fetchPlain (s : Scanner) : Option Scanner := do
  let s ← s.saveKey
  let (t, fresh, p) ← plainScalar s.inFlow s.least s.place
  return s.emit t fresh p

/-- One more token, which starts with the character `c` in front of `cs`. -/
def fetch (s : Scanner) (c : Char) (cs : List Char) : Option Scanner :=
  let p := s.place
  let alone := endsWord cs.head?
  if p.column = 0 ∧ c = '%' then s.fetchDirective
  else if p.atStart then s.fetchMarker .documentStart
  else if p.atStop then s.fetchMarker .documentStop
  else if c = '[' then s.openFlow .flowList
  else if c = '{' then s.openFlow .flowMapping
  else if c = ']' then s.closeFlow .flowListEnd
  else if c = '}' then s.closeFlow .flowMappingEnd
  else if c = ',' then s.fetchComma
  else if c = '-' ∧ alone then s.fetchItem
  else if c = '?' ∧ (s.inFlow || alone) then s.fetchKey
  else if c = ':' ∧ (s.inFlow || alone) then s.fetchValue
  else if c = '*' then s.fetchName .aliased
  else if c = '&' then s.fetchName .anchor
  else if c = '!' then s.fetchTag
  else if (c = '|' ∨ c = '>') ∧ !s.inFlow then s.fetchBlock
  else if c = '\x27' ∨ c = '"' then s.fetchQuoted c
  else if startsPlain s.inFlow c cs.head? then s.fetchPlain
  else none

/-- The tokens to the end of the text; `steps` is more than the number of characters left. -/
def run : Nat → Scanner → Option (List Token)
  | 0, _ => none
  | steps + 1, s => do
    let (fresh, p) := s.place.afterGap s.inFlow s.fresh
    let s ← { s with fresh := fresh, place := p }.dropStale
    let s := s.closeBlocks (some p.column)
    match p.rest with
    | [] =>
      let s ← (s.closeBlocks none).dropKey
      return s.tokens.reverse
    | c :: cs => run steps (← s.fetch c cs)

end Scanner

def Token.ofText (text : String) : Option (List Token) :=
  let cs := text.toList
  if cs.all isAllowed then
    (Scanner.start (unifyLineEnds cs)).run (cs.length + 1)
  else none

end Phrasebook.Yaml
