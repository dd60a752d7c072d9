import Phrasebook.Template

namespace Phrasebook

/-- What an island asks to be put in its place. An island is `@` and a pair of braces with something
between them and no other brace inside. -/
inductive Island where
  | expression (text : String)
  /-- A reference in brackets, brackets removed. -/
  | reference (text : String)
  deriving DecidableEq, Repr

namespace Island

def isBrace (c : Char) : Bool := c = '{' || c = '}'

/-- The island with this text between its braces. -/
def ofBody : List Char → Island
  | '[' :: rest =>
    match rest.reverse with
    | ']' :: inner => .reference (String.ofList inner.reverse)
    | _ => .expression (String.ofList ('[' :: rest))
  | body => .expression (String.ofList body)

end Island

/-- A block is cut into characters that stand for themselves and islands. -/
inductive BlockPart where
  | char (c : Char)
  | island (body : List Char)
  deriving DecidableEq, Repr

namespace BlockPart

/-- The characters of the block that the part covers. -/
def source : BlockPart → List Char
  | char c => [c]
  | island body => '@' :: '{' :: body ++ ['}']

/-- The body of the island at the start of the text, if one stands there. -/
def bodyAt? : List Char → Option (List Char)
  | '@' :: '{' :: rest =>
    let body := rest.takeWhile fun c => !Island.isBrace c
    if body ≠ [] ∧ (rest.drop body.length).head? = some '}' then some body else none
  | _ => none

def ofBlock (cs : List Char) : List BlockPart :=
  match cs with
  | [] => []
  | c :: rest =>
    match bodyAt? (c :: rest) with
    | some body => island body :: ofBlock (rest.drop (body.length + 2))
    | none => char c :: ofBlock rest
termination_by cs.length
decreasing_by
  · simp only [List.length_drop, List.length_cons]
    omega
  · simp

theorem eq_of_bodyAt? {cs body : List Char} (h : bodyAt? cs = some body) :
    cs = (island body).source ++ cs.drop (body.length + 3) := by
  unfold bodyAt? at h
  split at h
  · rename_i rest
    obtain ⟨⟨-, hclose⟩, hbody⟩ := Option.ite_none_right_eq_some.1 h
    have hrest : body ++ rest.dropWhile (fun c => !Island.isBrace c) = rest := by
      rw [← Option.some.inj hbody]
      exact List.takeWhile_append_dropWhile
    rw [Option.some.inj hbody, ← hrest, List.drop_left] at hclose
    obtain ⟨after, hafter⟩ := List.head?_eq_some_iff.1 hclose
    rw [hafter] at hrest
    subst hrest
    simp [source]
  · contradiction

/-- Nothing of a block is lost where it is cut. -/
theorem flatMap_source_ofBlock (cs : List Char) : (ofBlock cs).flatMap source = cs := by
  induction cs using ofBlock.induct with
  | case1 => simp [ofBlock]
  | case2 c rest body hbody ih =>
    rw [ofBlock, hbody]
    dsimp only
    rw [List.flatMap_cons, ih]
    exact (eq_of_bodyAt? hbody).symm
  | case3 c rest hbody ih =>
    rw [ofBlock, hbody]
    dsimp only
    rw [List.flatMap_cons, ih]
    rfl

/-- The islands among the parts, each with the byte range it covers. -/
def islandsFrom (offset : Nat) : List BlockPart → List (Nat × Nat × Island)
  | [] => []
  | char c :: parts => islandsFrom (offset + c.utf8Size) parts
  | island body :: parts =>
    let stop := offset + Text.byteLength (island body).source
    (offset, stop, Island.ofBody body) :: islandsFrom stop parts

def island? : BlockPart → Option Island
  | char _ => none
  | island body => some (Island.ofBody body)

theorem map_islandsFrom (offset : Nat) (parts : List BlockPart) :
    ((islandsFrom offset parts).map fun found => found.2.2) = parts.filterMap island? := by
  induction parts generalizing offset with
  | nil => rfl
  | cons part parts ih =>
    cases part with
    | char c => simp [islandsFrom, List.filterMap_cons, island?, ih]
    | island body => simp [islandsFrom, island?, ih]

end BlockPart

/-- The islands of a block with their byte ranges, in order. -/
def Island.all (text : String) : List (Nat × Nat × Island) :=
  BlockPart.islandsFrom 0 (BlockPart.ofBlock text.toList)

/-- What a segment asks to be put in its place, or in the places of its islands. -/
def Segment.islands (s : Segment) : List Island :=
  match s with
  | .text _ => []
  | .expression _ => [.expression s.inner]
  | .reference _ => [.reference s.inner]
  | .block _ => (Island.all s.inner).map fun found => found.2.2

theorem Segment.islands_block (raw : String) :
    (Segment.block raw).islands =
      (BlockPart.ofBlock (Segment.block raw).inner.toList).filterMap BlockPart.island? :=
  BlockPart.map_islandsFrom 0 _

def Line.islands (l : Line) : List Island := l.segments.flatMap Segment.islands

def Island.reference? : Island → Option String
  | reference text => some text
  | expression _ => none

/-- The references in a line: its own and those in the islands of its blocks. -/
def Line.references (l : Line) : List String := l.islands.filterMap Island.reference?

end Phrasebook
