import Phrasebook.Text.Visible
import Phrasebook.Token

namespace Phrasebook

inductive ParseFault where
  /-- A character that cannot stand between templates. -/
  | strayBetween (c : Char)
  /-- A character that cannot stand in the line of a template's name. -/
  | strayInName (c : Char)
  /-- A block, expression or reference without its end. -/
  | unterminated (span : TokenKind)
  /-- A token where others were wanted. -/
  | unexpected (kind : TokenKind) (text : String) (wanted : List TokenKind)
  /-- A body without a single line; `found` is the text of the token in its place. -/
  | noLines (found : String)
  /-- Cases without a closing default; `found` is the text of the token in its place. -/
  | noDefault (found : String)
  deriving DecidableEq, Repr

namespace ParseFault

def message : ParseFault → String
  | strayBetween c | strayInName c => "unexpected character " ++ Text.quotedChar c
  | unterminated span => "unterminated " ++ span.describe
  | unexpected kind _ _ => "unexpected " ++ kind.describe
  | noLines _ => "template body must contain at least one '-' line"
  | noDefault _ => "conditional template requires a DEFAULT: clause"

/-- What could have stood at the place instead. -/
def expected : ParseFault → List String
  | strayBetween _ => ["'#'", "'-'", "'>'", "newline"]
  | strayInName _ => ["identifier", "'.'", "'('", "')'", "','", "newline"]
  | unterminated .block => ["'```'"]
  | unterminated .expression => ["'\x7d'"]
  | unterminated _ => ["']'"]
  | unexpected _ _ wanted => wanted.map TokenKind.describe
  | noLines _ => [TokenKind.dash.describe]
  | noDefault _ => ["'- DEFAULT:'", "'- CASE:'"]

/-- The text that stands at the place, if the message has one to show. -/
def found : ParseFault → Option String
  | strayBetween c | strayInName c => some (String.singleton c)
  | unterminated _ => none
  | unexpected .endOfInput _ _ => some TokenKind.endOfInput.describe
  | unexpected _ text _ => some text
  | noLines text | noDefault text => some text

end ParseFault

/-- A rejected source: the cause and the text it was found at. -/
structure ParseError where
  fault : ParseFault
  location : Location
  deriving DecidableEq, Repr

namespace ParseError

def named (e : ParseError) (name : String) : ParseError :=
  { e with location := e.location.named name }

def text (e : ParseError) : String :=
  let alternatives :=
    match e.fault.expected with
    | [] => ""
    | wanted => " (expected " ++ " or ".intercalate wanted ++ ")"
  "Parse error at " ++ e.location.description ++ ": " ++ e.fault.message ++ alternatives

end ParseError

end Phrasebook
