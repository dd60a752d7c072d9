import Phrasebook.Environment
import Phrasebook.Number.Numeral

namespace Phrasebook.CommandLine

inductive OutputFormat where
  | text
  | json
  deriving DecidableEq, Repr

/-- What the program can do; paths are those of sources. -/
inductive Command where
  /-- Report findings. -/
  | check (paths : List String)
  /-- Render a template. -/
  | eval (paths : List String) (template scope : String) (seed : Option Nat)
  /-- List templates. -/
  | list (paths : List String)
  deriving DecidableEq, Repr

structure Invocation where
  format : OutputFormat
  configuration : Option String
  command : Command
  deriving DecidableEq, Repr

inductive OptionName where
  | format
  | configuration
  | template
  | scope
  | seed
  deriving DecidableEq, Repr

namespace OptionName

/-- The name behind two dashes. -/
def long : OptionName → String
  | format => "format"
  | configuration => "config"
  | template => "template"
  | scope => "scope"
  | seed => "seed"

/-- The letter behind one dash. -/
def short? : OptionName → Option Char
  | format => some 'o'
  | configuration => some 'c'
  | template => some 't'
  | scope => some 's'
  | seed => none

def general : List OptionName := [format, configuration]

end OptionName

inductive UsageError where
  | unknownOption (word : String)
  | missingValue (option : OptionName)
  | repeatedOption (option : OptionName)
  | badValue (option : OptionName) (value : String)
  | emptyPath
  | unknownCommand (word : String)
  | missingCommand
  | missingTemplate
  deriving DecidableEq, Repr

def UsageError.message : UsageError → String
  | unknownOption word => "unexpected argument '" ++ word ++ "' found"
  | missingValue option => "a value is required for '--" ++ option.long ++ "'"
  | repeatedOption option => "'--" ++ option.long ++ "' cannot be used multiple times"
  | badValue option value => "invalid value '" ++ value ++ "' for '--" ++ option.long ++ "'"
  | emptyPath => "a path cannot be empty"
  | unknownCommand word => "unrecognized subcommand '" ++ word ++ "'"
  | missingCommand => "a subcommand is required"
  | missingTemplate => "'--template' is required"

inductive Word where
  /-- All words that follow are plain. -/
  | escape
  /-- An option with the value that is attached to it, if any. -/
  | option (name : Option OptionName) (value : Option String)
  | plain

def afterEquals : List Char → Option String
  | '=' :: value => some (String.ofList value)
  | _ => none

/-- Tells what a word is, among the options known. A single dash is plain. -/
def Word.of (known : List OptionName) (word : String) : Word :=
  match word.toList with
  | '-' :: '-' :: [] => .escape
  | '-' :: '-' :: cs =>
    let name := String.ofList (cs.takeWhile fun c => c != '=')
    .option (known.find? fun o => o.long == name) (afterEquals (cs.dropWhile fun c => c != '='))
  | '-' :: c :: cs =>
    let value := if cs = [] then none else some ((afterEquals cs).getD (String.ofList cs))
    .option (known.find? fun o => o.short? == some c) value
  | _ => .plain

/-- A word that can be the value of the option in front of it. -/
def isPlain (word : String) : Bool :=
  match Word.of [] word with
  | .plain => true
  | _ => false

abbrev Values := List (OptionName × String)

def setOption (values : Values) (option : OptionName) (value : String) :
    Except UsageError Values :=
  if values.any fun v => v.1 == option then .error (.repeatedOption option)
  else .ok ((option, value) :: values)

/-- The options in front of the command, its name, and the words behind that. -/
def readGeneral (values : Values) : List String → Except UsageError (Values × String × List String)
  | [] => .error .missingCommand
  | word :: words =>
    match Word.of OptionName.general word with
    | .escape =>
      match words with
      | [] => .error .missingCommand
      | word :: _ => .error (.unknownOption word)
    | .option none _ => .error (.unknownOption word)
    | .option (some option) (some value) => do
      let values ← setOption values option value
      readGeneral values words
    | .option (some option) none =>
      match words with
      | [] => .error (.missingValue option)
      | value :: words =>
        if isPlain value then do
          let values ← setOption values option value
          readGeneral values words
        else .error (.missingValue option)
    | .plain => .ok (values, word, words)

def readSpecific (known : List OptionName) (values : Values) (paths : List String) :
    List String → Except UsageError (Values × List String)
  | [] => .ok (values, paths)
  | word :: words =>
    match Word.of known word with
    | .escape => .ok (values, paths ++ words)
    | .option none _ => .error (.unknownOption word)
    | .option (some option) (some value) => do
      let values ← setOption values option value
      readSpecific known values paths words
    | .option (some option) none =>
      match words with
      | [] => .error (.missingValue option)
      | value :: words =>
        if isPlain value then do
          let values ← setOption values option value
          readSpecific known values paths words
        else .error (.missingValue option)
    | .plain => readSpecific known values (paths ++ [word]) words

/-- The format of a level, if it gives one. -/
def formatIn (values : Values) : Except UsageError (Option OutputFormat) :=
  match values.lookup .format with
  | none => .ok none
  | some "text" => .ok (some .text)
  | some "json" => .ok (some .json)
  | some other => .error (.badValue .format other)

/-- The configuration file of a level: the one given, or else that of the environment. -/
def configurationIn (values : Values) (ambient : Option String) :
    Except UsageError (Option String) :=
  match values.lookup .configuration <|> ambient with
  | some "" => .error .emptyPath
  | other => .ok other

def seedIn (values : Values) : Except UsageError (Option Nat) :=
  match values.lookup .seed with
  | none => .ok none
  | some text =>
    match Numeral.read text.toList with
    | .ok n => .ok (some n)
    | .error _ => .error (.badValue .seed text)

/-- The scope where none is given. -/
def emptyScope : String := "\x7b\x7d"

def optionsOf (name : String) : Option (List OptionName) :=
  if name = "check" ∨ name = "list" then some OptionName.general
  else if name = "eval" then some (OptionName.general ++ [.template, .scope, .seed])
  else none

def commandOf (name : String) (values : Values) (paths : List String) :
    Except UsageError Command := do
  if paths.contains "" then throw .emptyPath
  match name with
  | "check" => return .check paths
  | "list" => return .list paths
  | _ =>
    let seed ← seedIn values
    match values.lookup .template with
    | some template =>
      return .eval paths template ((values.lookup .scope).getD emptyScope) seed
    | none => throw .missingTemplate

/-- The variable that holds the path of a configuration file. -/
def configurationVariable : String := "LG_CONFIG"

/-- Reads the arguments. Options and paths may stand in any order behind the name of a command, and
general options also in front of it; of one that stands on both sides the second counts. -/
def read (environment : Environment) (arguments : List String) : Except UsageError Invocation := do
  let (outer, name, words) ← readGeneral [] arguments
  let some known := optionsOf name | throw (.unknownCommand name)
  let (inner, paths) ← readSpecific known [] [] words
  let ambient := environment configurationVariable
  let outerFormat ← formatIn outer
  let innerFormat ← formatIn inner
  let outerFile ← configurationIn outer ambient
  let innerFile ← configurationIn inner ambient
  let command ← commandOf name inner paths
  return {
    format := (innerFormat <|> outerFormat).getD .text
    configuration := if (inner.lookup .configuration).isSome then innerFile else outerFile
    command := command }

end Phrasebook.CommandLine
