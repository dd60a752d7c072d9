import Phrasebook.Text.Basic

namespace Phrasebook.Path

def isAbsolute (path : String) : Bool := path.toList.head? = some '/'

/-- The path that leads to `path` from the directory `base`. -/
def join (base path : String) : String :=
  if isAbsolute path ∨ base = "" then path
  else if base.toList.getLast? = some '/' then base ++ path
  else base ++ "/" ++ path

/-- Drops slashes and parts that are a single dot from the front of a reversed path. -/
def dropTrailing : List Char → List Char
  | [] => []
  | '/' :: [] => ['/']
  | '/' :: cs => dropTrailing cs
  | '.' :: '/' :: cs => dropTrailing ('/' :: cs)
  | cs => cs

/-- The directory that a file's path leads through, empty for a bare name. -/
def parent (path : String) : String :=
  String.ofList (dropTrailing (path.toList.reverse.dropWhile fun c => c != '/')).reverse

def parts (path : String) : List String := (Text.splitOn '/' path.toList).map String.ofList

/-- The name of a template file has the extension `lg`, and something in front of it. -/
def isTemplateFile (name : String) : Bool := ".lg".toList.isSuffixOf name.toList && name != ".lg"

end Phrasebook.Path
