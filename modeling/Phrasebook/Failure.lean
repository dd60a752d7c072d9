import Phrasebook.EvaluationError
import Phrasebook.Files
import Phrasebook.Number.Numeral
import Phrasebook.Registry

namespace Phrasebook

/-- Why a whole job fails: reading configuration and sources, loading them, or rendering. -/
inductive Failure where
  | unreadable (path : String) (error : ReadError)
  | unlistable (path : String) (error : ReadError)
  /-- A source file is rejected. -/
  | malformed (path : String) (error : ParseError)
  | unloadable (error : LoadError)
  /-- A configuration is rejected; it may come from a file. -/
  | misconfigured (path : Option String)
  /-- The environment variable of this name should hold the seed. -/
  | badSeed (name : String) (fault : NumeralFault)
  /-- Nothing names any source; the environment variable of this name could. -/
  | noSources (name : String)
  /-- The scope on the command line is no JSON. -/
  | badScope (message : String)
  | unrendered (error : EvaluationError)

namespace Failure

/-- The messages of a failure, each caused by the one after it. -/
def chain : Failure → List String
  | unreadable path error => ["Failed to read " ++ path, error.message]
  | unlistable path error => ["Failed to read directory " ++ path, error.message]
  | malformed path error =>
    ["Failed to parse " ++ path, (LoadError.malformed error).message, error.text]
  | unloadable (.malformed error) => [(LoadError.malformed error).message, error.text]
  | unloadable error => [error.message]
  | misconfigured (some path) => ["Failed to parse " ++ path]
  | misconfigured none => ["Failed to parse engine configuration"]
  | badSeed name fault => [name ++ " must be an unsigned integer: " ++ fault.message]
  | noSources name => ["no template files given (pass paths or set " ++ name ++ ")"]
  | badScope message => ["--scope must be valid JSON", message]
  | unrendered error => error.chain

/-- The whole chain on one line. -/
def message (f : Failure) : String := ": ".intercalate f.chain

end Failure

end Phrasebook
