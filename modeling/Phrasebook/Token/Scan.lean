import Phrasebook.Name
import Phrasebook.ParseError
import Phrasebook.Text.Nesting

namespace Phrasebook.Token

/-- Which rules hold at a place of the source. In a template line blanks are dropped until its
content starts, and the keywords of a clause are looked for only in front of the content; text is
kept as it stands, and expressions, references and blocks are taken whole. -/
inductive Region where
  | between
  | nameLine
  | line (dropsBlanks atStart : Bool)
  deriving DecidableEq, Repr

/-- What becomes of the characters that one step takes. -/
inductive Yield where
  /-- They leave no token. -/
  | nothing
  /-- They are the text of a token. -/
  | token (kind : TokenKind)
  /-- They are a backslash and a character that stands for itself. -/
  | escape
  deriving DecidableEq, Repr

/-- One step of the scanner: it takes the character at hand and `more` characters after it. -/
structure Step where
  yield : Yield
  more : Nat
  next : Region
  deriving DecidableEq, Repr

def isEscapable (c : Char) : Bool := "\x7b\x7d[]\\`-#".toList.contains c

def endsText (c : Char) : Bool := " \t\r\n\x7b\x7d[]()\\".toList.contains c

/-- Brackets of a line that belong to no expression or reference, and a lone carriage return. -/
def standsAlone (c : Char) : Bool := "\x7d])(\r".toList.contains c

/-- Three backticks open and close a block. -/
def fence : List Char := ['\x60', '\x60', '\x60']

/-- How many characters stand before the next fence. -/
def beforeFence : List Char → Option Nat
  | [] => none
  | c :: cs => if fence.isPrefixOf (c :: cs) then some 0 else (beforeFence cs).map (· + 1)

/-- Length of the run of text at the start, which a fence ends too. -/
def textLength : List Char → Nat
  | [] => 0
  | c :: cs => if endsText c || fence.isPrefixOf (c :: cs) then 0 else textLength cs + 1

/-- A line feed, with the carriage return in front of it if there is one: the number of characters
after the first. -/
def newlineMore (c : Char) (cs : List Char) : Option Nat :=
  if c = '\n' then some 0 else if c = '\r' ∧ cs.head? = some '\n' then some 1 else none

/-- The keyword of a clause in front of a line's content. -/
def keyword? (cs : List Char) : Option (TokenKind × Nat) :=
  if "CASE:".toList.isPrefixOf cs || "case:".toList.isPrefixOf cs then some (.caseKeyword, 4)
  else if "DEFAULT:".toList.isPrefixOf cs || "default:".toList.isPrefixOf cs then
    some (.defaultKeyword, 7)
  else none

/-- A character that is a token of its own in the line of a template's name. -/
def punctuation? (c : Char) : Option TokenKind :=
  if c = '.' then some .dot
  else if c = '(' then some .openParen
  else if c = ')' then some .closeParen
  else if c = ',' then some .comma
  else none

def stepBetween (c : Char) (cs : List Char) : Except ParseFault Step :=
  if Text.isBlank c then .ok ⟨.nothing, Text.runLength Text.isBlank cs, .between⟩
  else if c = '>' then .ok ⟨.nothing, Text.runLength (fun d => !Text.isLineEnd d) cs, .between⟩
  else match newlineMore c cs with
    | some more => .ok ⟨.token .newline, more, .between⟩
    | none =>
      if c = '#' then .ok ⟨.token .hash, 0, .nameLine⟩
      else if c = '-' then .ok ⟨.token .dash, 0, .line true true⟩
      else .error (.strayBetween c)

def stepNameLine (c : Char) (cs : List Char) : Except ParseFault Step :=
  if Text.isBlank c then .ok ⟨.nothing, Text.runLength Text.isBlank cs, .nameLine⟩
  else match newlineMore c cs with
    | some more => .ok ⟨.token .newline, more, .between⟩
    | none =>
      if Name.startsIdentifier c then
        .ok ⟨.token .identifier, Text.runLength Name.continuesIdentifier cs, .nameLine⟩
      else match punctuation? c with
        | some kind => .ok ⟨.token kind, 0, .nameLine⟩
        | none => .error (.strayInName c)

/-- A span that is taken whole: `more` is `none` when its end is missing. -/
def wholeSpan (kind : TokenKind) : Option Nat → Except ParseFault Step
  | some more => .ok ⟨.token kind, more, .line false false⟩
  | none => .error (.unterminated kind)

def stepContent (c : Char) (cs : List Char) : Except ParseFault Step :=
  let plain (kind : TokenKind) (more : Nat) : Except ParseFault Step :=
    .ok ⟨.token kind, more, .line false false⟩
  if fence.isPrefixOf (c :: cs) then wholeSpan .block ((beforeFence (cs.drop 2)).map (· + 5))
  else if c = '{' then wholeSpan .expression (Text.closingAfter '{' '}' 0 .outside cs)
  else if c = '[' then wholeSpan .reference (Text.closingAfter '[' ']' 0 .outside cs)
  else if c = '\\' ∧ cs.head?.any isEscapable then .ok ⟨.escape, 1, .line false false⟩
  else if Text.isBlank c then plain .blanks (Text.runLength Text.isBlank cs)
  else if standsAlone c then plain .separator 0
  else if c = '\\' then plain .text 0
  else plain .text (textLength cs)

def stepLine (dropsBlanks atStart : Bool) (c : Char) (cs : List Char) : Except ParseFault Step :=
  if dropsBlanks && Text.isBlank c then
    .ok ⟨.nothing, Text.runLength Text.isBlank cs, .line dropsBlanks atStart⟩
  else match newlineMore c cs with
    | some more => .ok ⟨.token .newline, more, .between⟩
    | none =>
      match if atStart then keyword? (c :: cs) else none with
      | some (kind, more) => .ok ⟨.token kind, more, .line true false⟩
      | none => stepContent c cs

/-- One step at a place where the character `c` stands in front of `cs`. -/
def step : Region → Char → List Char → Except ParseFault Step
  | .between => stepBetween
  | .nameLine => stepNameLine
  | .line dropsBlanks atStart => stepLine dropsBlanks atStart

/-- The bytes a fault points at: the stray character, or the first character of an open span. -/
def faultLength : ParseFault → Nat
  | .strayBetween c | .strayInName c => c.utf8Size
  | _ => 1

/-- The tokens of the remaining characters, which start at `p`. -/
def scan (region : Region) (p : Position) : List Char → Except ParseError (List Token)
  | [] => .ok [.endAt p]
  | c :: cs =>
    match step region c cs with
    | .error fault => .error ⟨fault, .ofPosition p (faultLength fault)⟩
    | .ok s =>
      let taken := c :: cs.take s.more
      let location := Location.ofPosition p (Text.byteLength taken)
      match scan s.next (p.after taken) (cs.drop s.more) with
      | .error e => .error e
      | .ok tokens =>
        match s.yield with
        | .nothing => .ok tokens
        | .token kind => .ok (⟨kind, String.ofList taken, location⟩ :: tokens)
        | .escape => .ok (⟨.text, String.ofList (taken.drop 1), location⟩ :: tokens)
termination_by cs => cs.length
decreasing_by simp only [List.length_drop, List.length_cons]; omega

/-- The tokens of a source, closed by one that marks its end. -/
def ofSource (source : String) : Except ParseError (List Token) :=
  scan .between .start source.toList

end Phrasebook.Token
