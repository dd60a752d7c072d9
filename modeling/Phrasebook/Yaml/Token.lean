import Phrasebook.Yaml.Tag

namespace Phrasebook.Yaml

inductive Style where
  | plain
  | quoted
  | literal
  | folded
  deriving DecidableEq, Repr

/-- Marks, and words between them. Starts and ends of block collections follow from columns. -/
inductive Token where
  | version (major minor : Nat)
  | handle (name : String) (meaning : Tag)
  | documentStart
  | documentStop
  | blockList
  | blockMapping
  | blockEnd
  | flowList
  | flowListEnd
  | flowMapping
  | flowMappingEnd
  | item
  | comma
  | key
  | value
  | aliased (name : String)
  | anchor (name : String)
  | tag (written : Tag.Written)
  | scalar (text : String) (style : Style)
  deriving DecidableEq, Repr

end Phrasebook.Yaml
