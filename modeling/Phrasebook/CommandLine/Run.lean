import Phrasebook.Check
import Phrasebook.CommandLine.Arguments
import Phrasebook.Diagnostic.Json
import Phrasebook.Json.Reader
import Phrasebook.Sources
import Phrasebook.Value.Text

namespace Phrasebook.CommandLine

variable {m : Type → Type} [Monad m]

/-- How the program ends. The exit code is 0 when a command succeeds, 1 when it says no or fails,
and 2 for arguments that are no command. -/
structure Outcome where
  code : Nat
  output : String
  errors : String
  deriving DecidableEq, Repr

/-- The output of a command that has not failed, and whether it says yes. -/
structure Reply where
  success : Bool
  output : String
  deriving DecidableEq, Repr

def linesOf (texts : List String) : String := String.join (texts.map (· ++ "\n"))

/-- The files that were checked, and what there is to say of them. Files that are rejected have one
finding each, ahead of the findings on the others. -/
structure CheckResult where
  fileCount : Nat
  report : Report

/-- Reads sources, each under its path. Rejected sources do not count as failures. -/
def parseAll (files : FileAccess m) :
    List String → ExceptT Failure m (List (Except ParseError SourceFile))
  | [] => return []
  | path :: paths => do
    let text ← Sources.readText files path
    let rest ← parseAll files paths
    return SourceFile.parseNamed text path :: rest

/-- The findings on files of which some may be rejected. -/
def reportOn (parsed : List (Except ParseError SourceFile)) : Report :=
  let rejected := parsed.filterMap fun p =>
    match p with
    | .error e => some (Diagnostic.ofParseError e)
    | .ok _ => none
  let report := Check.files (parsed.filterMap Except.toOption)
  { report with diagnostics := rejected ++ report.diagnostics }

def checkSources (files : FileAccess m) (c : Configuration) :
    ExceptT Failure m CheckResult := do
  let paths ← Sources.expandAll files c.templatePaths
  let parsed ← parseAll files paths
  return ⟨paths.length, reportOn parsed⟩

def summary (r : CheckResult) : String :=
  if r.report.isValid then
    "OK " ++ toString r.report.census.templates ++ " template(s) in " ++ toString r.fileCount ++
      " file(s), " ++ toString r.report.warnings.length ++ " warning(s)"
  else "FAILED " ++ toString r.report.errors.length ++ " error(s)"

def showCheck (format : OutputFormat) (r : CheckResult) : String :=
  match format with
  | .text => linesOf (r.report.diagnostics.map Diagnostic.text ++ [summary r])
  | .json =>
    linesOf [(Value.ofFields
      [("valid", .bool r.report.isValid), ("files", .int r.fileCount),
        ("templates", .int r.report.census.templates),
        ("errors", .int r.report.errors.length), ("warnings", .int r.report.warnings.length),
        ("diagnostics", .list (r.report.diagnostics.map Diagnostic.toValue))]).pretty]

def check (files : FileAccess m) (c : Configuration) (format : OutputFormat) :
    ExceptT Failure m Reply := do
  let result ← checkSources files c
  return ⟨result.report.isValid, showCheck format result⟩

def showText (format : OutputFormat) (template text : String) : String :=
  match format with
  | .text => linesOf [text]
  | .json => linesOf [(Value.ofFields [("template", .text template), ("text", .text text)]).json]

/-- Renders a template in a scope that is given as JSON. -/
def eval (files : FileAccess m) (entropy : Nat) (c : Configuration) (template scope : String)
    (format : OutputFormat) : ExceptT Failure m Reply := do
  match Json.parse scope with
  | .error e => throw (.badScope e)
  | .ok scope =>
    let engine ← Engine.ofConfiguration files c
    match engine.evaluate entropy template scope with
    | .error e => throw (.unrendered e)
    | .ok text => return ⟨true, showText format template text⟩

def showTemplate (t : Template) : String :=
  if t.parameters = [] then t.name else t.name ++ "(" ++ ", ".intercalate t.parameters ++ ")"

def showTemplates (format : OutputFormat) (r : Registry) : String :=
  match format with
  | .text => linesOf (r.templates.map showTemplate)
  | .json =>
    let entry (t : Template) : Value :=
      .ofFields [("name", .text t.name), ("parameters", .list (t.parameters.map .text))]
    linesOf [(Value.list (r.templates.map entry)).pretty]

def list (files : FileAccess m) (c : Configuration) (format : OutputFormat) :
    ExceptT Failure m Reply := do
  let engine ← Engine.ofConfiguration files c
  return ⟨true, showTemplates format engine.registry⟩

/-- The sources of a command, in place of those of the configuration if there are any. -/
def Command.paths : Command → List String
  | check paths | list paths => paths
  | eval paths _ _ _ => paths

def Command.seed? : Command → Option Nat
  | eval _ _ _ seed => seed
  | check _ | list _ => none

/-- The configuration that a command works with; there has to be a source. -/
def configure (files : FileAccess m) (environment : Environment) (i : Invocation) :
    ExceptT Failure m Configuration := do
  let c ← Configuration.load files environment i.configuration
  let c := if i.command.paths = [] then c else { c with templatePaths := i.command.paths }
  if c.templatePaths = [] then throw (.noSources Configuration.pathVariable)
  else return { c with randomSeed := i.command.seed? <|> c.randomSeed }

def execute (files : FileAccess m) (environment : Environment) (entropy : Nat) (i : Invocation) :
    ExceptT Failure m Reply := do
  let c ← configure files environment i
  match i.command with
  | .check _ => check files c i.format
  | .eval _ template scope _ => eval files entropy c template scope i.format
  | .list _ => list files c i.format

/-- A failure is told where the format wants it. -/
def failed (format : OutputFormat) (f : Failure) : Outcome :=
  match format with
  | .text => ⟨1, "", "error: " ++ f.message ++ "\n"⟩
  | .json => ⟨1, (Value.ofFields [("error", .text f.message)]).json ++ "\n", ""⟩

def variablesFile : String := ".env"

/-- The environment with the variables of the file, if there is one. It is read line by line, and
to where that fails. -/
def withVariablesFile (files : FileAccess m) (environment : Environment) : m Environment := do
  match ← files.read variablesFile with
  | .ok content => return environment.withAssignments content.start
  | .error _ => return environment

/-- Runs the program. `entropy` is where choices start from when there is no seed. -/
def run (files : FileAccess m) (environment : Environment) (entropy : Nat)
    (arguments : List String) : m Outcome := do
  let environment ← withVariablesFile files environment
  match read environment arguments with
  | .error e => return ⟨2, "", "error: " ++ e.message ++ "\n"⟩
  | .ok i =>
    match ← (execute files environment entropy i).run with
    | .error f => return failed i.format f
    | .ok reply => return ⟨if reply.success then 0 else 1, reply.output, ""⟩

end Phrasebook.CommandLine
