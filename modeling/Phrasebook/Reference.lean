import Phrasebook.Name
import Phrasebook.Text.Nesting

namespace Phrasebook

/-- A reference: the template's name and, if parentheses follow it, the argument expressions. A name
alone hands on the scope at hand. -/
structure Reference where
  name : String
  arguments : Option (List String)
  deriving DecidableEq, Repr

/-- Why a text is no reference; each cause holds the text it is about. -/
inductive ReferenceError where
  | malformed (text : String)
  | invalidName (name : String)
  deriving DecidableEq, Repr

def ReferenceError.message : ReferenceError → String
  | malformed text => "Not a valid template ref: " ++ text
  | invalidName name => "Not a valid template name in ref: " ++ name

namespace Reference

/-- The argument texts between the parentheses: none at all when there is only white space. -/
def argumentTexts (cs : List Char) : List String :=
  if Text.trim cs = [] then []
  else (Text.splitTopLevel ',' cs).map fun part => String.ofList (Text.trim part)

/-- What precedes the last closing parenthesis, if only white space follows that one. -/
def beforeClosing (cs : List Char) : Option (List Char) :=
  match Text.trimEnd cs |>.reverse with
  | ')' :: front => some front.reverse
  | _ => none

def ofName (cs : List Char) (arguments : Option (List String)) :
    Except ReferenceError Reference :=
  if Name.isTemplateNameChars cs then .ok ⟨String.ofList cs, arguments⟩
  else .error (.invalidName (String.ofList cs))

def ofTrimmed (cs : List Char) : Except ReferenceError Reference :=
  let name := cs.takeWhile fun c => c != '('
  match cs.dropWhile fun c => c != '(' with
  | [] => ofName cs none
  | _ :: rest =>
    if name = [] then .error (.malformed (String.ofList cs))
    else match beforeClosing rest with
      | none => .error (.malformed (String.ofList cs))
      | some inside => ofName (Text.trim name) (some (argumentTexts inside))

/-- Reads the text between the brackets of a reference. -/
def parse (text : String) : Except ReferenceError Reference := ofTrimmed (Text.trim text.toList)

end Reference

end Phrasebook
