import Phrasebook.CommandLine.Run

namespace Phrasebook.Main

def readErrorOf : IO.Error → ReadError
  | .noFileOrDirectory _ _ _ => .missing
  | e => .other (toString e)

def listFiles (path : String) : IO Listing := do
  try
    let place ← IO.FS.realPath path
    let entries ← place.readDir
    let isFile (entry : IO.FS.DirEntry) : IO Bool := do
      let data ← entry.path.metadata
      return data.type == IO.FS.FileType.file
    let files ← entries.filterM isFile
    return .files (files.toList.map fun entry => entry.fileName)
  catch _ => return .noDirectory

def readContent (path : String) : IO (Except ReadError FileContent) := do
  try
    let bytes ← IO.FS.readBinFile path
    return .ok (.ofBytes bytes)
  catch e => return .error (readErrorOf e)

def systemFiles : FileAccess IO := ⟨listFiles, readContent⟩

/-- The variables that the program looks at, as they are set now. -/
def currentEnvironment : IO Environment := do
  let names := [CommandLine.configurationVariable, Configuration.pathVariable,
    Configuration.seedVariable]
  let values ← names.mapM fun name => do
    let value ← IO.getEnv name
    return (name, value)
  return fun name => (values.lookup name).join

end Phrasebook.Main

def main (arguments : List String) : IO UInt32 := do
  let environment ← Phrasebook.Main.currentEnvironment
  let entropy ← IO.rand 0 Phrasebook.Numeral.limit
  let files := Phrasebook.Main.systemFiles
  let outcome ← Phrasebook.CommandLine.run files environment entropy arguments
  IO.print outcome.output
  IO.eprint outcome.errors
  return UInt32.ofNat outcome.code
