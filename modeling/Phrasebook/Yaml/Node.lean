import Phrasebook.Yaml.Token

namespace Phrasebook

/-- A node. An empty place reads as a plain scalar without text. Only scalars keep their tags.
Anchors are numbered, and more than one may have the same number. -/
inductive Yaml where
  | scalar (anchor : Option Nat) (text : String) (style : Yaml.Style) (tag : Option Yaml.Tag)
  | list (anchor : Option Nat) (items : List Yaml)
  | mapping (anchor : Option Nat) (entries : List (Yaml × Yaml))
  | aliased (number : Nat)
  deriving Repr, Inhabited

namespace Yaml

def nothing : Yaml := .scalar none "" .plain none

/-- A node with its number, if it has one. -/
def marked (anchor : Option Nat) (node : Yaml) : List (Nat × Yaml) :=
  anchor.toList.map fun number => (number, node)

mutual

/-- The nodes that have anchors, in the order in which they start. -/
def anchors : Yaml → List (Nat × Yaml)
  | .scalar anchor text style tag => marked anchor (.scalar anchor text style tag)
  | .list anchor items => marked anchor (.list anchor items) ++ anchorsOfItems items
  | .mapping anchor entries => marked anchor (.mapping anchor entries) ++ anchorsOfEntries entries
  | .aliased _ => []

def anchorsOfItems : List Yaml → List (Nat × Yaml)
  | [] => []
  | item :: items => item.anchors ++ anchorsOfItems items

def anchorsOfEntries : List (Yaml × Yaml) → List (Nat × Yaml)
  | [] => []
  | (key, value) :: entries => key.anchors ++ value.anchors ++ anchorsOfEntries entries

end

/-- What a node of the document `root` stands for: an alias stands for the last node that has its
number, and every other node for itself. -/
def content (root : Yaml) : Yaml → Yaml
  | .aliased number => (root.anchors.reverse.lookup number).getD nothing
  | node => node

end Yaml

end Phrasebook
