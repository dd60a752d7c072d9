import Phrasebook.Configuration
import Phrasebook.Engine

namespace Phrasebook

namespace Sources

variable {m : Type → Type} [Monad m]

def inDirectory (path : String) (names : List String) : List String :=
  ((names.filter Path.isTemplateFile).mergeSort fun a b => decide (a ≤ b)).map (Path.join path)

/-- The files that a path stands for: those with templates in a directory, in the order of their
names, or else the path itself. -/
def expand (files : FileAccess m) (path : String) : ExceptT Failure m (List String) := do
  match ← files.list path with
  | .noDirectory => return [path]
  | .unreadable e => throw (.unlistable path e)
  | .files names => return inDirectory path names

/-- The files that paths stand for, in the order in which they are loaded. -/
def expandAll (files : FileAccess m) : List String → ExceptT Failure m (List String)
  | [] => return []
  | path :: paths => do
    let first ← expand files path
    let rest ← expandAll files paths
    return first ++ rest

def readText (files : FileAccess m) (path : String) : ExceptT Failure m String := do
  match ← files.readText path with
  | .ok text => return text
  | .error e => throw (.unreadable path e)

def readFile (files : FileAccess m) (path : String) : ExceptT Failure m SourceFile := do
  let text ← readText files path
  match SourceFile.parseNamed text path with
  | .ok file => return file
  | .error e => throw (.malformed path e)

/-- Reads files up to the first that fails. -/
def readFiles (files : FileAccess m) : List String → ExceptT Failure m (List SourceFile)
  | [] => return []
  | path :: paths => do
    let file ← readFile files path
    let rest ← readFiles files paths
    return file :: rest

def load (files : FileAccess m) (paths : List String) : ExceptT Failure m (List SourceFile) := do
  let expanded ← expandAll files paths
  readFiles files expanded

end Sources

/-- Loads what a configuration names. -/
def Engine.ofConfiguration {m : Type → Type} [Monad m] (files : FileAccess m)
    (c : Configuration) : ExceptT Failure m Engine := do
  let sources ← Sources.load files c.templatePaths
  match Registry.ofFiles c.duplicatePolicy sources with
  | .ok registry => return ⟨registry, c.randomSeed⟩
  | .error e => throw (.unloadable e)

end Phrasebook
