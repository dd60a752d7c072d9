import Phrasebook.Yaml.Cursor

namespace Phrasebook.Yaml

/-- The bytes of a tag, which end before a zero byte. Escapes may write bytes that are no text. -/
abbrev Tag := List UInt8

namespace Tag

def ofChars (cs : List Char) : Tag := cs.flatMap String.utf8EncodeChar

def ofString (s : String) : Tag := ofChars s.toList

/-- The tag without what follows a zero byte. -/
def cut (t : Tag) : Tag := t.takeWhile (· ≠ 0)

def text? (t : Tag) : Option String := String.fromUTF8? ⟨t.toArray⟩

/-- The tag that says nothing but that it is one. -/
def bare : Tag := ofString "!"

/-- The name in a tag that is local to the document: without its mark, unless that is all. -/
def localName? (t : Tag) : Option String :=
  match t with
  | 33 :: name => text? (if name = [] then bare else name)
  | _ => none

/-- The characters of tags. Those of `wide` tags are more: tags in full, and what handles mean. -/
def isTagChar (wide : Bool) (c : Char) : Bool :=
  isNameChar c || ";/?:@&=+$.!~*\x27()".toList.contains c || (wide && ",[]".toList.contains c)

/-- How many bytes follow the byte that starts a character. -/
def followers? (byte : Nat) : Option Nat :=
  if byte < 0x80 then some 0
  else if byte / 32 = 6 then some 1
  else if byte / 16 = 14 then some 2
  else if byte / 8 = 30 then some 3
  else none

/-- How many bytes of a character are missing after one more byte. -/
def missingAfter (missing byte : Nat) : Option Nat :=
  if missing = 0 then followers? byte
  else if byte / 64 = 2 then some (missing - 1)
  else none

/-- The bytes at the start of a text, and how many characters write them. An escape gives a byte in
hexadecimal; the bytes of a character are escaped together. -/
def bytesAt (wide : Bool) (missing : Nat) : List Char → Option (Tag × Nat)
  | '%' :: a :: b :: cs => do
    let byte ← digitsValue? 16 [a, b]
    let missing ← missingAfter missing byte
    let (bytes, count) ← bytesAt wide missing cs
    return (UInt8.ofNat byte :: bytes, count + 3)
  | c :: cs =>
    if c = '%' ∨ missing ≠ 0 then none
    else if isTagChar wide c then do
      let (bytes, count) ← bytesAt wide 0 cs
      return (ofChars [c] ++ bytes, count + 1)
    else some ([], 0)
  | [] => if missing = 0 then some ([], 0) else none

/-- Bytes that have to be there, and what follows them. -/
def someBytes (wide : Bool) (p : Cursor) : Option (Tag × Cursor) :=
  match bytesAt wide 0 p.rest with
  | some (bytes, count) => if count = 0 then none else some (bytes.cut, p.skip count)
  | none => none

/-- What may be a handle: a mark, perhaps with a name and a second mark behind it. -/
def handleAt (p : Cursor) : Option (List Char × Cursor) :=
  if p.head? = some '!' then
    let name := p.next.rest.takeWhile isNameChar
    let q := p.next.skip name.length
    if q.head? = some '!' then some ('!' :: name ++ ['!'], q.next) else some ('!' :: name, q)
  else none

def isClosed (handle : List Char) : Bool := 1 < handle.length && handle.getLast? = some '!'

/-- A tag as it is written: a handle, which is empty for a tag in full, and a suffix. -/
structure Written where
  handle : String
  suffix : Tag
  deriving DecidableEq, Repr

/-- A tag between angle brackets. -/
def verbatimAt (p : Cursor) : Option (Written × Cursor) := do
  let (suffix, q) ← someBytes true (p.skip 2)
  if q.head? = some '>' then return (⟨"", suffix⟩, q.next) else none

/-- A tag with a handle. The mark alone is a tag in full. -/
def shorthandAt (p : Cursor) : Option (Written × Cursor) := do
  let (handle, q) ← handleAt p
  if isClosed handle then
    let (suffix, q) ← someBytes false q
    return (⟨String.ofList handle, suffix⟩, q)
  else
    let (bytes, count) ← bytesAt false 0 q.rest
    let suffix := (ofChars (handle.drop 1) ++ bytes).cut
    let written : Written := if suffix = [] then ⟨"", bare⟩ else ⟨"!", suffix⟩
    return (written, q.skip count)

/-- A tag, and what follows it: the end of a word, or a comma inside brackets. -/
def read (flow : Bool) (p : Cursor) : Option (Written × Cursor) := do
  let (written, q) ← if p.next.head? = some '<' then verbatimAt p else shorthandAt p
  if endsWord q.head? || (flow && q.head? = some ',') then return (written, q) else none

abbrev Handles := List (String × Tag)

def standardSpace : Tag := ofString "tag:yaml.org,2002:"

def standard (name : String) : Tag := standardSpace ++ ofString name

/-- The handles that need no directive. -/
def standardHandles : Handles := [("!", bare), ("!!", standardSpace)]

/-- The tag that is meant; `none` for a handle that stands for nothing. -/
def Written.resolve (handles : Handles) (t : Written) : Option Tag :=
  if t.handle = "" then some t.suffix else (handles.lookup t.handle).map (· ++ t.suffix)

end Tag

end Phrasebook.Yaml
