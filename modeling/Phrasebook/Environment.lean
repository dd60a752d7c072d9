import Phrasebook.Text.Basic
import Phrasebook.Text.Letters

namespace Phrasebook

abbrev Environment := String → Option String

namespace Environment

/-- Sets a variable that is not set yet. -/
def add (environment : Environment) (name value : String) : Environment := fun n =>
  if n = name then some ((environment n).getD value) else environment n

/-- Where a reader stands in a line, as far as quotes, escapes and comments are concerned. -/
inductive LineState where
  | word
  /-- After a blank, where a comment may start. -/
  | blank
  | escape
  | quoted (mark : Char) (escaped : Bool)
  deriving DecidableEq, Repr

namespace LineState

def isMark (c : Char) : Bool := c = '\x27' || c = '"'

/-- The state after a character that starts no comment. -/
def next : LineState → Char → LineState
  | .escape, _ => .word
  | .quoted mark true, _ => .quoted mark false
  | .quoted mark false, c =>
    if c = '\\' then .quoted mark true else if c = mark then .word else .quoted mark false
  | state, c =>
    if c = '\\' then .escape
    else if isMark c then .quoted c false
    else if state = .word ∧ Text.isSpace c ∧ Text.isLineEnd c = false then .blank
    else .word

/-- The state after some text, or the number of characters in front of a comment in it. -/
def after (state : LineState) (count : Nat) : List Char → LineState ⊕ Nat
  | [] => .inl state
  | c :: cs =>
    if state = .blank ∧ c = '#' then .inr count else (state.next c).after (count + 1) cs

end LineState

def withoutEnd (line : List Char) : List Char :=
  match line.reverse with
  | '\n' :: '\r' :: cs => cs.reverse
  | '\n' :: cs => cs.reverse
  | _ => line

/-- Joins the lines that a quoted value or a final blank holds together. Lines that are held open to
the end of the text are lost. -/
def joinLines (held : List Char) (state : LineState) : List (List Char) → List (List Char)
  | [] => []
  | line :: lines =>
    let whole := held ++ line
    if (Text.trimStart whole).head? = some '#' then [] :: joinLines [] .word lines
    else
      match state.after 0 line with
      | .inr count => (held ++ line.take count) :: joinLines [] .word lines
      | .inl .word => withoutEnd whole :: joinLines [] .word lines
      | .inl state => joinLines whole state lines

/-- The name of a variable that is being taken in, reversed: after a dollar sign, or in braces. -/
inductive Reading where
  | nothing
  | bare (name : List Char)
  | braced (name : List Char)

/-- The value of the variable that a reversed name gives, reversed; unset ones are empty. -/
def lookup (environment : Environment) (name : List Char) : List Char :=
  ((environment (String.ofList name.reverse)).getD "").toList.reverse

/-- The characters that a backslash may precede, and what they then are. -/
def unescape? (c : Char) : Option Char :=
  if c = 'n' then some '\n' else if "\\\x27\"$ ".toList.contains c then some c else none

/-- The rest of a value. `text` has been read, reversed; `mark` is the quote that is open, and
nothing but a comment may follow once the value has `ended`. -/
def valueFrom (environment : Environment) (text : List Char) (mark : Option Char)
    (escaped ended : Bool) (reading : Reading) : List Char → Option (List Char)
  | [] =>
    match mark, reading with
    | some _, _ | none, .braced _ => none
    | none, .bare name => some (lookup environment name ++ text).reverse
    | none, .nothing => some text.reverse
  | c :: cs =>
    let go (text : List Char) (mark : Option Char) (escaped ended : Bool) (reading : Reading) :
        Option (List Char) := valueFrom environment text mark escaped ended reading cs
    if ended then
      if Text.isBlank c then go text mark false true reading
      else if c = '#' then some text.reverse
      else none
    else if escaped then
      match unescape? c with
      | some d => go (d :: text) mark false false reading
      | none => none
    else if mark = some '\x27' then
      if c = '\x27' then go text none false false reading
      else go (c :: text) mark false false reading
    else
      match reading with
      | .bare name =>
        if Text.isLetterOrDigit c then go text mark false false (.bare (c :: name))
        else if c = '{' ∧ name = [] then go text mark false false (.braced [])
        else
          let text := lookup environment name ++ text
          if c = '$' then go text mark false false (.bare [])
          else go (c :: text) mark false false .nothing
      | .braced name =>
        if Text.isLetterOrDigit c ∨ c ≠ '}' then go text mark false false (.braced (c :: name))
        else go (lookup environment name ++ text) mark false false .nothing
      | .nothing =>
        if c = '$' then go text mark false false (.bare [])
        else if c = '\\' then go text mark true false .nothing
        else if mark = some '"' then
          if c = '"' then go text none false false .nothing
          else go (c :: text) mark false false .nothing
        else if LineState.isMark c then go text (some c) false false .nothing
        else if Text.isBlank c then go text mark false true .nothing
        else go (c :: text) mark false false .nothing

def startsName (c : Char) : Bool := c.isAlpha || c = '_'

def continuesName (c : Char) : Bool := c.isAlphanum || c = '_' || c = '.'

def nameAt (cs : List Char) : Option (List Char × List Char) :=
  if cs.head?.any startsName then
    some (cs.takeWhile continuesName, Text.trimStart (cs.dropWhile continuesName))
  else none

/-- A name in front of an equals sign, and what follows that and white space. The word `export` may
precede the name. -/
def target (cs : List Char) : Option (List Char × List Char) :=
  match nameAt cs with
  | some (name, '=' :: rest) => some (name, Text.trimStart rest)
  | some (name, rest) =>
    if name = "export".toList then
      match nameAt rest with
      | some (name, '=' :: rest) => some (name, Text.trimStart rest)
      | _ => none
    else none
  | none => none

/-- What a line does: nothing, an assignment `NAME=value`, or a fault. A value may be quoted, may
take other variables in, and may have a comment behind it. -/
def assignment (environment : Environment) (line : List Char) :
    Option (Option (String × String)) :=
  let cs := Text.trim line
  if cs = [] ∨ cs.head? = some '#' then some none
  else
    match target cs with
    | none => none
    | some (name, rest) =>
      if rest = [] ∨ rest.head? = some '#' then some (some (String.ofList name, ""))
      else
        (valueFrom environment [] none false false .nothing rest).map fun value =>
          some (String.ofList name, String.ofList value)

/-- Carries out the assignments of lines up to the first fault. -/
def assign (environment : Environment) : List (List Char) → Environment
  | [] => environment
  | line :: lines =>
    match assignment environment line with
    | none => environment
    | some none => assign environment lines
    | some (some (name, value)) => assign (environment.add name value) lines

/-- The environment with the assignments of a text, which change no variable that is set. -/
def withAssignments (environment : Environment) (text : String) : Environment :=
  let cs := text.toList
  let cs := if cs.head?.any (fun c => c.toNat = 0xFEFF) then cs.drop 1 else cs
  assign environment (joinLines [] .word (Text.linesOf '\n' cs))

end Environment

end Phrasebook
