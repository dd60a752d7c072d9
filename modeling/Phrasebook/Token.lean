import Phrasebook.Source.Location

namespace Phrasebook

/-- What a token is. Comments, and blanks outside template lines, leave no token. -/
inductive TokenKind where
  | newline
  | hash
  | dash
  | identifier
  | dot
  | openParen
  | closeParen
  | comma
  /-- Blanks kept inside a template line. -/
  | blanks
  | caseKeyword
  | defaultKeyword
  /-- A fenced block, fences included. -/
  | block
  /-- An expression in braces, braces included. -/
  | expression
  /-- A template reference in brackets, brackets included. -/
  | reference
  /-- A bracket or parenthesis that stands alone in a line. -/
  | separator
  | text
  | endOfInput
  deriving DecidableEq, Repr

namespace TokenKind

/-- How an error message names the kind. -/
def describe : TokenKind → String
  | newline => "newline"
  | hash => "'#'"
  | dash => "'-'"
  | identifier => "identifier"
  | dot => "'.'"
  | openParen => "'('"
  | closeParen => "')'"
  | comma => "','"
  | blanks => "whitespace"
  | caseKeyword => "'CASE:'"
  | defaultKeyword => "'DEFAULT:'"
  | block => "multi-line text"
  | expression => "expression"
  | reference => "template reference"
  | separator => "text separator"
  | text => "text"
  | endOfInput => "end of input"

/-- Kinds that stand for themselves in a line. -/
def isPlain : TokenKind → Bool
  | text | separator | blanks => true
  | _ => false

def isContent : TokenKind → Bool
  | expression | reference | block => true
  | k => k.isPlain

end TokenKind

/-- A token with its text, which is the source text it covers except that an escape has lost its
backslash. -/
structure Token where
  kind : TokenKind
  text : String
  location : Location
  deriving DecidableEq, Repr

/-- The token that closes every token list. -/
def Token.endAt (p : Position) : Token := ⟨.endOfInput, "", .ofPosition p 0⟩

end Phrasebook
