import Phrasebook.Files.Content

namespace Phrasebook

inductive ReadError where
  | missing
  | notDirectory
  | isDirectory
  | nameTooLong
  | nulInPath
  | notText
  /-- Any other reason, in the words of the system. -/
  | other (reason : String)
  deriving DecidableEq, Repr

def ReadError.message : ReadError → String
  | missing => "No such file or directory (os error 2)"
  | notDirectory => "Not a directory (os error 20)"
  | isDirectory => "Is a directory (os error 21)"
  | nameTooLong => "File name too long (os error 36)"
  | nulInPath => "file name contained an unexpected NUL byte"
  | notText => "stream did not contain valid UTF-8"
  | other reason => reason

/-- What a path leads to, for one who wants to list it. -/
inductive Listing where
  /-- A file, or nothing at all. -/
  | noDirectory
  | unreadable (error : ReadError)
  /-- A directory with files of these names, in any order. -/
  | files (names : List String)
  deriving DecidableEq, Repr

/-- The two ways of looking at files. -/
structure FileAccess (m : Type → Type) where
  list : String → m Listing
  read : String → m (Except ReadError FileContent)

def FileAccess.readText {m : Type → Type} [Monad m] (files : FileAccess m) (path : String) :
    m (Except ReadError String) := do
  match ← files.read path with
  | .ok content =>
    match content.text? with
    | some text => return .ok text
    | none => return .error .notText
  | .error e => return .error e

end Phrasebook
