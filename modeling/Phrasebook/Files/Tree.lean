import Phrasebook.Files
import Phrasebook.Files.Path

namespace Phrasebook

inductive FileTree where
  | file (content : FileContent)
  | directory (entries : List (String × FileTree))
  deriving Repr, Inhabited

namespace FileTree

def empty : FileTree := .directory []

def child? (entries : List (String × FileTree)) (name : String) : Option FileTree :=
  (entries.find? fun e => e.1 == name).map Prod.snd

/-- The entries with one set, in place of an earlier one. -/
def setEntry (name : String) (t : FileTree) (entries : List (String × FileTree)) :
    List (String × FileTree) :=
  if entries.any fun e => e.1 == name then
    entries.map fun e => if e.1 == name then (name, t) else e
  else entries ++ [(name, t)]

/-- The tree with another one at the end of a path, and directories on the way there. -/
def insert : FileTree → List String → FileTree → FileTree
  | _, [], added => added
  | t, name :: names, added =>
    let entries :=
      match t with
      | .directory entries => entries
      | .file _ => []
    .directory (setEntry name (((child? entries name).getD empty).insert names added) entries)

def nameLimit : Nat := 255

def pathLimit : Nat := 4095

/-- Follows the parts of a path from a place in the tree, given with the directories around it. -/
def follow (around : List FileTree) (here : FileTree) : List String → Except ReadError FileTree
  | [] => .ok here
  | part :: parts =>
    match here with
    | .file _ => .error .notDirectory
    | .directory entries =>
      if part = "" ∨ part = "." then follow around here parts
      else if part = ".." then
        match around with
        | [] => .error .missing
        | outer :: around => follow around outer parts
      else if nameLimit < Text.byteLength part.toList then .error .nameTooLong
      else
        match child? entries part with
        | none => .error .missing
        | some inner => follow (here :: around) inner parts

/-- What a path leads to from the root. -/
def resolve (t : FileTree) (path : String) : Except ReadError FileTree :=
  if path.toList.contains (Char.ofNat 0) then .error .nulInPath
  else if path = "" then .error .missing
  else if pathLimit < Text.byteLength path.toList then .error .nameTooLong
  else if Path.isAbsolute path then .error .missing
  else follow [] t (Path.parts path)

def list (t : FileTree) (path : String) : Listing :=
  match t.resolve path with
  | .ok (.directory entries) =>
    .files (entries.filterMap fun (name, e) =>
      match e with
      | .file _ => some name
      | .directory _ => none)
  | _ => .noDirectory

def read (t : FileTree) (path : String) : Except ReadError FileContent :=
  match t.resolve path with
  | .ok (.file content) => .ok content
  | .ok (.directory _) => .error .isDirectory
  | .error e => .error e

/-- The tree as files to look at. -/
def access (t : FileTree) : FileAccess Id := ⟨t.list, t.read⟩

end FileTree

end Phrasebook
