import Phrasebook.Environment
import Phrasebook.Failure
import Phrasebook.Files.Path
import Phrasebook.Yaml.Reader

namespace Phrasebook

/-- Sources in the order in which they are loaded, and how they are loaded. -/
structure Configuration where
  templatePaths : List String
  duplicatePolicy : DuplicatePolicy
  randomSeed : Option Nat
  deriving DecidableEq, Repr

namespace Configuration

/-- No sources, no name twice, no seed. -/
def default : Configuration := ⟨[], .reject, none⟩

def pathOf (root path : Yaml) : Option String :=
  match root.content path with
  | .scalar _ text _ _ => some text
  | _ => none

/-- A list of scalars; an empty place is an empty list. -/
def pathsOf (root paths : Yaml) : Option (List String) :=
  match root.content paths with
  | .list _ items => items.mapM (pathOf root)
  | .scalar _ "" .plain _ => some []
  | _ => none

def isNullWord (text : String) : Bool := ["null", "Null", "NULL", "~"].contains text

def policyNamed (name : String) : Option DuplicatePolicy :=
  if name = "reject" then some .reject
  else if name = "last_wins" then some .lastWins
  else none

/-- A policy by its name, which may be a tag on nothing. -/
def policyOf (root policy : Yaml) : Option DuplicatePolicy :=
  match root.content policy with
  | .scalar _ text style tag =>
    match tag.bind Yaml.Tag.localName? with
    | none => policyNamed text
    | some name =>
      if style = .plain ∧ (text = "" ∨ isNullWord text) then policyNamed name else none
  | _ => none

/-- The base that the start of a number shows, with the digits after it. -/
def radixOf : List Char → Option (Nat × List Char)
  | '0' :: 'x' :: cs => some (16, cs)
  | '0' :: 'o' :: cs => some (8, cs)
  | '0' :: 'b' :: cs => some (2, cs)
  | _ => none

/-- Digits that start with a superfluous zero are no number. -/
def hasIdleZero (cs : List Char) : Bool :=
  cs.head? = some '0' && 1 < cs.length && cs.all Char.isDigit

/-- An unsigned integer in decimal or with the mark of another base; it may have a plus sign. -/
def integerOf (cs : List Char) : Option Nat :=
  let cs := if cs.head? = some '+' then cs.drop 1 else cs
  match radixOf cs with
  | some (radix, digits) =>
    if digits = [] then none
    else (Yaml.digitsValue? radix digits).filter fun n => n ≤ Numeral.limit
  | none =>
    if cs.head? = some '+' ∨ hasIdleZero cs then none else (Numeral.read cs).toOption

/-- An unsigned integer, or nothing. A number is a plain scalar, or a literal one that is tagged as
an integer. -/
def seedOf (root seed : Yaml) : Option (Option Nat) :=
  match root.content seed with
  | .scalar _ text style tag =>
    let number := (integerOf text.toList).map some
    if style = .literal ∧ tag = some (Yaml.Tag.standard "int") then number
    else if style ≠ .plain then none
    else if tag = none then if text = "" ∨ isNullWord text then some none else number
    else if tag = some (Yaml.Tag.standard "null") then
      if isNullWord text then some none else none
    else number
  | _ => none

/-- Sets the field of a key. A field is set once, and keys that name no field count for nothing. -/
def setField (root : Yaml) (key : String) (value : Yaml) (seen : List String) (c : Configuration) :
    Option Configuration :=
  if key ∈ seen then none
  else if key = "template_paths" then
    (pathsOf root value).map ({ c with templatePaths := · })
  else if key = "duplicate_policy" then
    (policyOf root value).map ({ c with duplicatePolicy := · })
  else if key = "random_seed" then (seedOf root value).map ({ c with randomSeed := · })
  else some c

def fieldNames : List String := ["template_paths", "duplicate_policy", "random_seed"]

/-- Sets the fields of a mapping in the document `root`; `seen` holds those set before. -/
def setFields (root : Yaml) (seen : List String) (c : Configuration) :
    List (Yaml × Yaml) → Option Configuration
  | [] => some c
  | (key, value) :: entries =>
    match root.content key with
    | .scalar _ key _ _ => do
      let c ← setField root key value seen c
      setFields root (if key ∈ fieldNames then key :: seen else seen) c entries
    | _ => none

/-- A mapping with the fields under their names. What is missing has its default. -/
def ofYaml (root : Yaml) : Option Configuration :=
  match root with
  | .mapping _ entries => setFields root [] default entries
  | .scalar _ "" .plain _ => some default
  | _ => none

def ofText (text : String) : Except Failure Configuration :=
  match (Yaml.read text).bind ofYaml with
  | some c => .ok c
  | none => .error (.misconfigured none)

/-- The variable that holds paths of sources, separated by colons. -/
def pathVariable : String := "LG_TEMPLATE_PATH"

def seedVariable : String := "LG_RANDOM_SEED"

/-- The paths of a variable, which counts as unset when it is blank. -/
def overridePaths (environment : Environment) (paths : List String) : List String :=
  match environment pathVariable with
  | some text =>
    if Text.trim text.toList = [] then paths
    else (Text.splitOn ':' text.toList).map String.ofList
  | none => paths

/-- The seed of a variable, which has to be a number with nothing but white space around it. -/
def overrideSeed (environment : Environment) (seed : Option Nat) : Except Failure (Option Nat) :=
  match environment seedVariable with
  | some text =>
    match Numeral.read (Text.trim text.toList) with
    | .ok n => .ok (some n)
    | .error fault => .error (.badSeed seedVariable fault)
  | none => .ok seed

/-- The configuration with what the environment says in place of its own. -/
def withOverrides (c : Configuration) (environment : Environment) :
    Except Failure Configuration := do
  let seed ← overrideSeed environment c.randomSeed
  return { c with
    templatePaths := overridePaths environment c.templatePaths, randomSeed := seed }

/-- Paths in a configuration file start from its directory. -/
def startingFrom (directory : String) (c : Configuration) : Configuration :=
  { c with templatePaths := c.templatePaths.map (Path.join directory) }

variable {m : Type → Type} [Monad m]

def ofFile (files : FileAccess m) (path : String) : ExceptT Failure m Configuration := do
  match ← files.readText path with
  | .error e => throw (.unreadable path e)
  | .ok text =>
    match (Yaml.read text).bind ofYaml with
    | some c => return c.startingFrom (Path.parent path)
    | none => throw (.misconfigured (some path))

/-- The configuration of a file, or the default without one, as the environment overrides it. -/
def load (files : FileAccess m) (environment : Environment) (path : Option String) :
    ExceptT Failure m Configuration := do
  let c ←
    match path with
    | some path => ofFile files path
    | none => pure default
  ExceptT.mk (pure (c.withOverrides environment))

end Configuration

end Phrasebook
