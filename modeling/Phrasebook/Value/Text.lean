import Phrasebook.Text.Visible
import Phrasebook.Value.Basic

namespace Phrasebook

/-- Every digit of an integer, and the shortest digits of a float. -/
def Number.text : Number → String
  | int i => toString i
  | float x => x.text

def jsonChar (c : Char) : String :=
  if c = '"' then "\\\""
  else if c = '\\' then "\\\\"
  else if c = '\n' then "\\n"
  else if c = '\r' then "\\r"
  else if c = '\t' then "\\t"
  else if c.toNat = 8 then "\\b"
  else if c.toNat = 12 then "\\f"
  else if c.toNat < 32 then
    (if c.toNat < 16 then "\\u000" else "\\u00") ++ Text.hexDigits c.toNat
  else String.singleton c

def jsonString (s : String) : String := "\"" ++ String.join (s.toList.map jsonChar) ++ "\""

namespace Value

mutual

/-- JSON without spaces. -/
def json : Value → String
  | .null => "null"
  | .bool b => if b then "true" else "false"
  | .number n => n.text
  | .text s => jsonString s
  | .list items => "[" ++ ",".intercalate (jsonItems items) ++ "]"
  | .mapping fields => "\x7b" ++ ",".intercalate (jsonFields fields) ++ "\x7d"

def jsonItems : List Value → List String
  | [] => []
  | v :: vs => v.json :: jsonItems vs

def jsonFields : List (String × Value) → List String
  | [] => []
  | (key, v) :: rest => (jsonString key ++ ":" ++ v.json) :: jsonFields rest

end

/-- A bracketed group with each entry on a line of its own, `margin` deep. -/
def grouped (opening closing : String) (margin : Nat) (entries : List String) : String :=
  let indent (n : Nat) : String := String.ofList ('\n' :: List.replicate n ' ')
  match entries with
  | [] => opening ++ closing
  | _ =>
    opening ++ ",".intercalate (entries.map (indent (margin + 2) ++ ·)) ++ indent margin ++ closing

mutual

/-- JSON with one entry a line, indented by two spaces for each level. -/
def prettyAt (margin : Nat) : Value → String
  | .list items => grouped "[" "]" margin (prettyItems margin items)
  | .mapping fields => grouped "\x7b" "\x7d" margin (prettyFields margin fields)
  | .null => "null"
  | .bool b => if b then "true" else "false"
  | .number n => n.text
  | .text s => jsonString s

def prettyItems (margin : Nat) : List Value → List String
  | [] => []
  | v :: vs => prettyAt (margin + 2) v :: prettyItems margin vs

def prettyFields (margin : Nat) : List (String × Value) → List String
  | [] => []
  | (key, v) :: rest =>
    (jsonString key ++ ": " ++ prettyAt (margin + 2) v) :: prettyFields margin rest

end

def pretty (v : Value) : String := prettyAt 0 v

/-- A number in rendered text: integral floats of moderate size lose their fraction. -/
def numberText : Number → String
  | .int i => toString i
  | .float x =>
    match integral? x with
    | some i => toString i
    | none => x.text

mutual

/-- The text of a value in a rendered line: null is empty, strings stand as they are, lists are
their items joined by commas, and mappings are compact JSON. -/
def toText : Value → String
  | .null => ""
  | .bool b => if b then "true" else "false"
  | .number n => numberText n
  | .text s => s
  | .list items => ",".intercalate (toTexts items)
  | .mapping fields => (Value.mapping fields).json

def toTexts : List Value → List String
  | [] => []
  | v :: vs => v.toText :: toTexts vs

end

end Value

end Phrasebook
