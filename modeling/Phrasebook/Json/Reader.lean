import Phrasebook.Value.Basic
import Phrasebook.Text.Basic

namespace Phrasebook.Json

inductive Fault where
  | listUnfinished
  | objectUnfinished
  | stringUnfinished
  | valueUnfinished
  | noColon
  | noListEnd
  | noObjectEnd
  | noWord
  | noValue
  | badEscape
  | badNumber
  | numberTooLarge
  | controlInString
  | keyNotString
  | loneSurrogate
  | endlessEscape
  | trailingComma
  | trailingText
  | tooDeep
  deriving DecidableEq, Repr

def Fault.message : Fault → String
  | listUnfinished => "EOF while parsing a list"
  | objectUnfinished => "EOF while parsing an object"
  | stringUnfinished => "EOF while parsing a string"
  | valueUnfinished => "EOF while parsing a value"
  | noColon => "expected `:`"
  | noListEnd => "expected `,` or `]`"
  | noObjectEnd => "expected `,` or `\x7d`"
  | noWord => "expected ident"
  | noValue => "expected value"
  | badEscape => "invalid escape"
  | badNumber => "invalid number"
  | numberTooLarge => "number out of range"
  | controlInString => "control character (\\u0000-\\u001F) found while parsing a string"
  | keyNotString => "key must be a string"
  | loneSurrogate => "lone leading surrogate in hex escape"
  | endlessEscape => "unexpected end of hex escape"
  | trailingComma => "trailing comma"
  | trailingText => "trailing characters"
  | tooDeep => "recursion limit exceeded"

/-- A fault, `bytes` bytes into the text that remained when it was found. -/
structure Failure where
  fault : Fault
  rest : List Char
  bytes : Nat

def failAt {α : Type} (fault : Fault) (rest : List Char) : Except Failure α :=
  .error ⟨fault, rest, 0⟩

/-- The fault lies in the next byte, if there is one. -/
def failIn {α : Type} (fault : Fault) (rest : List Char) : Except Failure α :=
  .error ⟨fault, rest, if rest.isEmpty then 0 else 1⟩

def skipGaps (cs : List Char) : List Char := cs.dropWhile Text.isGap

/-- The rest of a fixed word. -/
def readWord (value : Value) : List Char → List Char → Except Failure (Value × List Char)
  | [], cs => .ok (value, cs)
  | _ :: _, [] => failAt .valueUnfinished []
  | w :: ws, c :: cs => if c = w then readWord value ws cs else failIn .noWord (c :: cs)

/-- The largest integer that digits are gathered into. -/
def wordLimit : Nat := Nat.pow 2 64 - 1

def digitOf (c : Char) : Nat := c.toNat - 48

/-- Digits gathered while the integer fits in a word, their number, and what follows. -/
def readDigits (value count : Nat) : List Char → Nat × Nat × List Char
  | [] => (value, count, [])
  | c :: cs =>
    if c.isDigit ∧ value * 10 + digitOf c ≤ wordLimit then
      readDigits (value * 10 + digitOf c) (count + 1) cs
    else (value, count, c :: cs)

/-- The significand times a power of ten, each step rounded on its own. -/
def scale (f : Double) (exponent : Int) : Nat → Option Double
  | 0 => some f
  | steps + 1 =>
    if exponent.natAbs ≤ 308 then
      let power := Double.ofDecimal false 1 exponent.natAbs
      let scaled := if 0 ≤ exponent then f.mul power else f.div power
      if scaled.inRange then some scaled else none
    else if f.isZero then some f
    else if 0 ≤ exponent then none
    else scale (f.div (Double.ofDecimal false 1 308)) (exponent + 308) steps

def floatOf (negative : Bool) (significand : Nat) (exponent : Int) (rest : List Char) :
    Except Failure (Value × List Char) :=
  match scale (.ofInt significand) exponent 8 with
  | some f => .ok (.number (.float ⟨negative, f.units⟩), rest)
  | none => failAt .numberTooLarge rest

def exponentLimit : Nat := Nat.pow 2 31 - 1

/-- The digits of an exponent; `none` when they pass the limit, with what follows the digit that
does. -/
def exponentDigits (value : Nat) : List Char → Option Nat × List Char
  | [] => (some value, [])
  | c :: cs =>
    if c.isDigit then
      if value * 10 + digitOf c ≤ exponentLimit then exponentDigits (value * 10 + digitOf c) cs
      else (none, cs)
    else (some value, c :: cs)

def readExponent (negative : Bool) (significand : Nat) (start : Int) (cs : List Char) :
    Except Failure (Value × List Char) :=
  let (down, cs) :=
    match cs with
    | '+' :: rest => (false, rest)
    | '-' :: rest => (true, rest)
    | _ => (false, cs)
  match cs with
  | [] => failAt .valueUnfinished []
  | c :: rest =>
    if c.isDigit then
      match exponentDigits (digitOf c) rest with
      | (some e, rest) =>
        floatOf negative significand (if down then start - (e : Int) else start + (e : Int)) rest
      | (none, rest) =>
        if significand ≠ 0 ∧ !down then failAt .numberTooLarge rest
        else .ok (.number (.float ⟨negative, 0⟩), rest.dropWhile Char.isDigit)
    else failIn .badNumber (c :: rest)

/-- An exponent, if one follows. -/
def exponentOrEnd (negative : Bool) (significand : Nat) (exponent : Int) (cs : List Char) :
    Except Failure (Value × List Char) :=
  match cs with
  | 'e' :: rest | 'E' :: rest => readExponent negative significand exponent rest
  | _ => floatOf negative significand exponent cs

/-- What follows the decimal point. Digits that no longer fit in a word are ignored. -/
def readFraction (negative : Bool) (significand : Nat) (exponent : Int) (cs : List Char) :
    Except Failure (Value × List Char) :=
  let (significand, count, rest) := readDigits significand 0 cs
  match rest with
  | [] =>
    if count = 0 then failIn .valueUnfinished []
    else floatOf negative significand (exponent - count) []
  | c :: _ =>
    if c.isDigit then
      exponentOrEnd negative significand (exponent - count) (rest.dropWhile Char.isDigit)
    else if count = 0 then failIn .badNumber rest
    else exponentOrEnd negative significand (exponent - count) rest

/-- What follows an integer part: `dropped` counts the digits that did not fit in a word. -/
def afterInteger (negative : Bool) (significand dropped : Nat) (cs : List Char) :
    Except Failure (Value × List Char) :=
  match cs with
  | '.' :: rest => readFraction negative significand dropped rest
  | 'e' :: rest | 'E' :: rest => readExponent negative significand dropped rest
  | _ =>
    if 0 < dropped then floatOf negative significand dropped cs
    else if !negative then .ok (.int significand, cs)
    else if 0 < significand ∧ significand ≤ Number.wordBound then
      .ok (.int (-(significand : Int)), cs)
    else .ok (.number (.float ⟨true, (Double.ofInt significand).units⟩), cs)

/-- A number without fraction and exponent is an integer while it fits in 64 bits; every other
number is a float. -/
def readNumber (negative : Bool) (cs : List Char) : Except Failure (Value × List Char) :=
  match cs with
  | [] => failAt .valueUnfinished []
  | c :: rest =>
    if c = '0' then
      match rest with
      | d :: _ =>
        if d.isDigit then failIn .badNumber rest else afterInteger negative 0 0 rest
      | [] => afterInteger negative 0 0 []
    else if c.isDigit then
      let (significand, _, rest) := readDigits 0 0 (c :: rest)
      let dropped := Text.runLength Char.isDigit rest
      afterInteger negative significand dropped (rest.drop dropped)
    else failIn .badNumber (c :: rest)

def hexDigit? (c : Char) : Option Nat :=
  if c.isDigit then some (c.toNat - 48)
  else if 'a' ≤ c ∧ c ≤ 'f' then some (c.toNat - 87)
  else if 'A' ≤ c ∧ c ≤ 'F' then some (c.toNat - 55)
  else none

def readHex (cs : List Char) : Except Failure (Nat × List Char) :=
  if Text.byteLength cs < 4 then failAt .stringUnfinished []
  else match cs with
    | a :: b :: c :: d :: rest =>
      match hexDigit? a, hexDigit? b, hexDigit? c, hexDigit? d with
      | some a, some b, some c, some d => .ok (((a * 16 + b) * 16 + c) * 16 + d, rest)
      | _, _, _, _ => .error ⟨.badEscape, cs, 4⟩
    | _ => .error ⟨.badEscape, cs, 4⟩

/-- A character that has to come next inside an escape. -/
def readMark (mark : Char) (cs : List Char) : Except Failure (Unit × List Char) :=
  match cs with
  | [] => failAt .stringUnfinished []
  | c :: rest => if c = mark then .ok ((), rest) else failIn .endlessEscape cs

/-- The character that a hexadecimal escape stands for; those beyond the first plane take two. -/
def readUnicode (cs : List Char) : Except Failure (Char × List Char) := do
  let (high, rest) ← readHex cs
  if 0xDC00 ≤ high ∧ high ≤ 0xDFFF then failAt .loneSurrogate rest
  else if high < 0xD800 ∨ 0xDBFF < high then return (Char.ofNat high, rest)
  else
    let (_, rest) ← readMark '\\' rest
    let (_, rest) ← readMark 'u' rest
    let (low, rest) ← readHex rest
    if low < 0xDC00 ∨ 0xDFFF < low then failAt .loneSurrogate rest
    else return (Char.ofNat ((high - 0xD800) * 1024 + (low - 0xDC00) + 0x10000), rest)

def readEscape (cs : List Char) : Except Failure (Char × List Char) :=
  match cs with
  | [] => failAt .stringUnfinished []
  | c :: rest =>
    if c = '"' ∨ c = '\\' ∨ c = '/' then .ok (c, rest)
    else if c = 'b' then .ok (Char.ofNat 8, rest)
    else if c = 'f' then .ok (Char.ofNat 12, rest)
    else if c = 'n' then .ok ('\n', rest)
    else if c = 'r' then .ok ('\r', rest)
    else if c = 't' then .ok ('\t', rest)
    else if c = 'u' then readUnicode rest
    else failIn .badEscape cs

/-- A string after its opening quote; `steps` is at least the number of characters left. -/
def readString (before : List Char) : Nat → List Char → Except Failure (String × List Char)
  | 0, _ => failAt .stringUnfinished []
  | steps + 1, cs =>
    match cs with
    | [] => failAt .stringUnfinished []
    | c :: rest =>
      if c = '"' then .ok (String.ofList before.reverse, rest)
      else if c = '\\' then do
        let (c, rest) ← readEscape rest
        readString (c :: before) steps rest
      else if c.toNat < 32 then failIn .controlInString cs
      else readString (c :: before) steps rest

/-- The items of a list after its opening bracket. -/
def readItems (readValue : List Char → Except Failure (Value × List Char)) (first : Bool) :
    Nat → List Char → Except Failure (List Value × List Char)
  | 0, _ => failAt .listUnfinished []
  | steps + 1, cs =>
    let item (cs : List Char) : Except Failure (List Value × List Char) := do
      let (v, rest) ← readValue cs
      let (vs, rest) ← readItems readValue false steps rest
      return (v :: vs, rest)
    match skipGaps cs with
    | [] => failIn .listUnfinished []
    | c :: rest =>
      if c = ']' then .ok ([], rest)
      else if first then item (c :: rest)
      else if c = ',' then
        match skipGaps rest with
        | [] => failIn .valueUnfinished []
        | d :: rest => if d = ']' then failIn .trailingComma (d :: rest) else item (d :: rest)
      else failIn .noListEnd (c :: rest)

/-- The fields of an object after its opening brace. -/
def readFields (readValue : List Char → Except Failure (Value × List Char)) (first : Bool) :
    Nat → List Char → Except Failure (List (String × Value) × List Char)
  | 0, _ => failAt .objectUnfinished []
  | steps + 1, cs =>
    let field (cs : List Char) : Except Failure (List (String × Value) × List Char) := do
      let (key, rest) ← readString [] cs.length (cs.drop 1)
      match skipGaps rest with
      | [] => failIn .objectUnfinished []
      | c :: rest =>
        if c = ':' then do
          let (v, rest) ← readValue rest
          let (more, rest) ← readFields readValue false steps rest
          return ((key, v) :: more, rest)
        else failIn .noColon (c :: rest)
    match skipGaps cs with
    | [] => failIn .objectUnfinished []
    | c :: rest =>
      if c = '}' then .ok ([], rest)
      else if first then
        if c = '"' then field (c :: rest) else failIn .keyNotString (c :: rest)
      else if c = ',' then
        match skipGaps rest with
        | [] => failIn .valueUnfinished []
        | d :: rest =>
          if d = '"' then field (d :: rest)
          else if d = '}' then failIn .trailingComma (d :: rest)
          else failIn .keyNotString (d :: rest)
      else failIn .noObjectEnd (c :: rest)

/-- A value with fewer than `depth` lists and objects around each other. -/
def readValue : Nat → List Char → Except Failure (Value × List Char)
  | 0, cs => failIn .tooDeep (skipGaps cs)
  | depth + 1, cs =>
    match skipGaps cs with
    | [] => failIn .valueUnfinished []
    | c :: rest =>
      if c = 'n' then readWord .null "ull".toList rest
      else if c = 't' then readWord (.bool true) "rue".toList rest
      else if c = 'f' then readWord (.bool false) "alse".toList rest
      else if c = '-' then readNumber true rest
      else if c.isDigit then readNumber false (c :: rest)
      else if c = '"' then do
        let (s, rest) ← readString [] (rest.length + 1) rest
        return (.text s, rest)
      else if c = '[' then
        if depth = 0 then failIn .tooDeep (c :: rest)
        else do
          let (items, rest) ← readItems (readValue depth) true (rest.length + 1) rest
          return (.list items, rest)
      else if c = '{' then
        if depth = 0 then failIn .tooDeep (c :: rest)
        else do
          let (pairs, rest) ← readFields (readValue depth) true (rest.length + 1) rest
          return (.mapping (Fields.ofPairs pairs), rest)
      else failIn .noValue (c :: rest)

/-- Lists and objects may stand around each other up to this number. -/
def depthLimit : Nat := 128

def readDocument (cs : List Char) : Except Failure Value := do
  let (v, rest) ← readValue depthLimit cs
  match skipGaps rest with
  | [] => return v
  | rest => failIn .trailingText rest

/-- Line and column of a byte offset: lines count from one, columns count the bytes since the line
feed before the offset. -/
def placeOf (index line column offset : Nat) : List Char → Nat × Nat
  | [] => (line, column + (index - offset))
  | c :: cs =>
    if offset + c.utf8Size ≤ index then
      if c = '\n' then placeOf index (line + 1) 0 (offset + 1) cs
      else placeOf index line (column + c.utf8Size) (offset + c.utf8Size) cs
    else (line, column + (index - offset))

/-- Reads a text that holds one value and nothing else; the error is a message with its place. -/
def parse (text : String) : Except String Value :=
  let cs := text.toList
  match readDocument cs with
  | .ok v => .ok v
  | .error ⟨fault, rest, bytes⟩ =>
    let (line, column) := placeOf (Text.byteLength cs - Text.byteLength rest + bytes) 1 0 0 cs
    .error (fault.message ++ " at line " ++ toString line ++ " column " ++ toString column)

end Phrasebook.Json
