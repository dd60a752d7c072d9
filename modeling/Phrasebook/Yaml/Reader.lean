import Phrasebook.Yaml.Node
import Phrasebook.Yaml.Token.Scan

namespace Phrasebook.Yaml

/-- Readings that remember the numbers of the anchors met so far, and fail on malformed text. -/
abbrev Reading (α : Type) := StateT (List (String × Nat)) Option α

namespace Reading

def refuse {α : Type} : Reading α := fun _ => none

def ofOption {α : Type} (x : Option α) : Reading α := fun names => x.map fun a => (a, names)

/-- Numbers an anchor: by the number of names met before, whether or not its own is among them. -/
def number (name : String) : Reading Nat := fun names =>
  some (names.length, (name, names.length) :: names.filter fun known => known.1 != name)

def numberOf (name : String) : Reading Nat := fun names =>
  (names.lookup name).map fun number => (number, names)

end Reading

/-- What stands in front of a node: an anchor, a tag, or both. -/
structure Properties where
  anchor : Option String
  tag : Option Tag.Written

namespace Properties

/-- The properties at the start of the tokens, and the tokens behind them. -/
def read : List Token → Properties × List Token
  | .anchor name :: .tag tag :: ts => (⟨some name, some tag⟩, ts)
  | .tag tag :: .anchor name :: ts => (⟨some name, some tag⟩, ts)
  | .anchor name :: ts => (⟨some name, none⟩, ts)
  | .tag tag :: ts => (⟨none, some tag⟩, ts)
  | ts => (⟨none, none⟩, ts)

/-- The tag that is meant, if there is one; `none` for a handle that stands for nothing. -/
def meaning (handles : Tag.Handles) (ps : Properties) : Option (Option Tag) :=
  match ps.tag with
  | none => some none
  | some written => (written.resolve handles).map some

def number (ps : Properties) : Reading (Option Nat) :=
  match ps.anchor with
  | none => pure none
  | some name => some <$> Reading.number name

end Properties

/-- No key or value in block form starts here. -/
def endsBlockPart : List Token → Bool
  | .key :: _ | .value :: _ | .blockEnd :: _ => true
  | _ => false

/-- No item of a list in block form starts here; keys follow one that is `flush` with them. -/
def endsItem (flush : Bool) : List Token → Bool
  | .item :: _ | .blockEnd :: _ => true
  | .key :: _ | .value :: _ => flush
  | _ => false

/-- No value starts here inside brackets that `last` closes. -/
def endsFlowPart (last : Token) : List Token → Bool
  | t :: _ => t = .comma || t = last
  | [] => false

/-- No key starts here behind its mark. -/
def endsFlowKey (last : Token) (ts : List Token) : Bool :=
  endsFlowPart last ts || ts.head? = some .value

/-- The tokens behind the comma that is in front of all parts but the first. -/
def afterComma (first : Bool) : List Token → Option (List Token)
  | .comma :: ts => some (if first then .comma :: ts else ts)
  | ts => if first then some ts else none

/-- A node of which there is nothing but its properties. -/
def emptyNode (properties : Properties) (tag : Option Tag) : Reading Yaml :=
  if properties.anchor.isSome || tag.isSome then do
    let anchor ← properties.number
    return .scalar anchor "" .plain tag
  else .refuse

mutual

/-- A node, and the tokens behind it; `steps` bounds the depth of the reading. In `block` content it
may be in block form, and if `flush`, a list of it may stand in the column of the keys around it. -/
def readNode (handles : Tag.Handles) (block flush : Bool) :
    Nat → List Token → Reading (Yaml × List Token)
  | 0, _ => .refuse
  | _ + 1, .aliased name :: ts => do
    let number ← Reading.numberOf name
    return (.aliased number, ts)
  | steps + 1, ts => do
    let (properties, ts) := Properties.read ts
    let tag ← Reading.ofOption (properties.meaning handles)
    match block, flush, ts with
    | _, _, .scalar text style :: ts => do
      let anchor ← properties.number
      return (.scalar anchor text style tag, ts)
    | _, _, .flowList :: ts => do
      let anchor ← properties.number
      let (items, ts) ← readFlowItems handles true steps ts
      return (.list anchor items, ts)
    | _, _, .flowMapping :: ts => do
      let anchor ← properties.number
      let (entries, ts) ← readFlowEntries handles true steps ts
      return (.mapping anchor entries, ts)
    | true, _, .blockList :: ts => do
      let anchor ← properties.number
      let (items, ts) ← readBlockItems handles steps ts
      return (.list anchor items, ts)
    | true, _, .blockMapping :: ts => do
      let anchor ← properties.number
      let (entries, ts) ← readBlockEntries handles steps ts
      return (.mapping anchor entries, ts)
    | _, true, .item :: ts => do
      let anchor ← properties.number
      let (items, ts) ← readFlushItems handles steps (.item :: ts)
      return (.list anchor items, ts)
    | _, _, ts => do
      let node ← emptyNode properties tag
      return (node, ts)

def readBlockItems (handles : Tag.Handles) : Nat → List Token → Reading (List Yaml × List Token)
  | 0, _ => .refuse
  | _ + 1, .blockEnd :: ts => return ([], ts)
  | steps + 1, .item :: ts => do
    let (item, ts) ←
      if endsItem false ts then pure (nothing, ts) else readNode handles true false steps ts
    let (items, ts) ← readBlockItems handles steps ts
    return (item :: items, ts)
  | _ + 1, _ => .refuse

/-- The items of a list in the column of the keys around it. -/
def readFlushItems (handles : Tag.Handles) : Nat → List Token → Reading (List Yaml × List Token)
  | 0, _ => .refuse
  | steps + 1, .item :: ts => do
    let (item, ts) ←
      if endsItem true ts then pure (nothing, ts) else readNode handles true false steps ts
    let (items, ts) ← readFlushItems handles steps ts
    return (item :: items, ts)
  | _ + 1, ts => return ([], ts)

/-- A key or a value in block form, which may be missing. -/
def readBlockPart (handles : Tag.Handles) : Nat → List Token → Reading (Yaml × List Token)
  | 0, _ => .refuse
  | steps + 1, ts =>
    if endsBlockPart ts then return (nothing, ts) else readNode handles true true steps ts

def readBlockEntries (handles : Tag.Handles) :
    Nat → List Token → Reading (List (Yaml × Yaml) × List Token)
  | 0, _ => .refuse
  | _ + 1, .blockEnd :: ts => return ([], ts)
  | steps + 1, .key :: ts => do
    let (key, ts) ← readBlockPart handles steps ts
    let (value, ts) ←
      match ts with
      | .value :: ts => readBlockPart handles steps ts
      | ts => pure (nothing, ts)
    let (entries, ts) ← readBlockEntries handles steps ts
    return ((key, value) :: entries, ts)
  | _ + 1, _ => .refuse

/-- The value behind a key inside brackets that `last` closes. It may be missing, with or without
its colon. -/
def readFlowValue (handles : Tag.Handles) (last : Token) :
    Nat → List Token → Reading (Yaml × List Token)
  | 0, _ => .refuse
  | steps + 1, .value :: ts =>
    if endsFlowPart last ts then return (nothing, ts) else readNode handles false false steps ts
  | _ + 1, ts => return (nothing, ts)

/-- The key and the value of an item with a mark or a colon. A token that comes in place of the key
is taken for it. -/
def readFlowPair (handles : Tag.Handles) : Nat → List Token → Reading (Yaml × List Token)
  | 0, _ => .refuse
  | steps + 1, ts => do
    let (key, ts) ←
      if endsFlowKey .flowListEnd ts then pure (nothing, ts.drop 1)
      else readNode handles false false steps ts
    let (value, ts) ← readFlowValue handles .flowListEnd steps ts
    return (.mapping none [(key, value)], ts)

/-- The items of a list in brackets, with commas in front of all but the `first` one. -/
def readFlowItems (handles : Tag.Handles) (first : Bool) :
    Nat → List Token → Reading (List Yaml × List Token)
  | 0, _ => .refuse
  | _ + 1, .flowListEnd :: ts => return ([], ts)
  | steps + 1, ts => do
    match ← Reading.ofOption (afterComma first ts) with
    | .flowListEnd :: ts => return ([], ts)
    | ts =>
      let (item, ts) ←
        match ts with
        | .key :: ts => readFlowPair handles steps ts
        | ts => readNode handles false false steps ts
      let (items, ts) ← readFlowItems handles false steps ts
      return (item :: items, ts)

/-- The entries of a mapping in brackets, with commas in front of all but the `first` one. A node
without a mark or a colon is a key without a value. -/
def readFlowEntries (handles : Tag.Handles) (first : Bool) :
    Nat → List Token → Reading (List (Yaml × Yaml) × List Token)
  | 0, _ => .refuse
  | _ + 1, .flowMappingEnd :: ts => return ([], ts)
  | steps + 1, ts => do
    match ← Reading.ofOption (afterComma first ts) with
    | .flowMappingEnd :: ts => return ([], ts)
    | .key :: ts =>
      let (key, ts) ←
        if endsFlowKey .flowMappingEnd ts then pure (nothing, ts)
        else readNode handles false false steps ts
      let (value, ts) ← readFlowValue handles .flowMappingEnd steps ts
      let (entries, ts) ← readFlowEntries handles false steps ts
      return ((key, value) :: entries, ts)
    | ts =>
      let (key, ts) ← readNode handles false false steps ts
      let (entries, ts) ← readFlowEntries handles false steps ts
      return ((key, nothing) :: entries, ts)

end

structure Directives where
  versioned : Bool
  handles : Tag.Handles

/-- The directives at the start of the tokens, and the tokens behind them. There is one version at
most, 1.1 or 1.2, and each handle is given a meaning once. -/
def readDirectives (d : Directives) : List Token → Option (Directives × List Token)
  | .version major minor :: ts =>
    if d.versioned ∨ major ≠ 1 ∨ (minor ≠ 1 ∧ minor ≠ 2) then none
    else readDirectives { d with versioned := true } ts
  | .handle name meaning :: ts =>
    if d.handles.any fun known => known.1 == name then none
    else readDirectives { d with handles := (name, meaning) :: d.handles } ts
  | ts => some (d, ts)

def isBlankDocument : List Token → Bool
  | [] | .version _ _ :: _ | .handle _ _ :: _ | .documentStart :: _ | .documentStop :: _ => true
  | _ => false

/-- The node of the one document that the tokens make up, by the grammar

    document = directive* '---' node? | node
    node     = alias | (anchor tag? | tag anchor?)? (scalar | list | mapping)?

Where an anchor or a tag stands, the rest of a node may be missing, and so may keys, values and
items as a whole. -/
def readDocument (steps : Nat) (ts : List Token) : Reading Yaml := do
  let (d, shown) ← Reading.ofOption (readDirectives ⟨false, []⟩ ts)
  let (explicit, rest) ←
    match shown with
    | .documentStart :: rest => pure (true, rest)
    | rest => if rest = ts then pure (false, rest) else .refuse
  let handles := d.handles ++ Tag.standardHandles
  let (node, rest) ←
    if rest = [] ∨ (explicit ∧ isBlankDocument rest) then pure (nothing, rest)
    else readNode handles true false steps rest
  if rest.all (· = .documentStop) then return node else .refuse

/-- Reads a text that holds one document; a text without any stands for an empty node. -/
def read (text : String) : Option Yaml := do
  let ts ← Token.ofText text
  ((readDocument (8 * (ts.length + 1)) ts).run []).map Prod.fst

end Phrasebook.Yaml
