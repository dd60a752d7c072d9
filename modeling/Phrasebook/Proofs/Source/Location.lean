import Phrasebook.Source.Location

namespace Phrasebook

namespace Text

/-- The characters behind the last line feed. -/
def lastLine (cs : List Char) : List Char := (cs.reverse.takeWhile fun c => c ≠ '\n').reverse

theorem lastLine_concat (cs : List Char) (c : Char) :
    lastLine (cs ++ [c]) = if c = '\n' then [] else lastLine cs ++ [c] := by
  by_cases hc : c = '\n' <;> simp [lastLine, hc]

end Text

namespace Position

theorem next_spec (before : List Char) (c : Char) :
    next ⟨before.count '\n' + 1, (Text.lastLine before).length + 1, Text.byteLength before⟩ c =
      ⟨(before ++ [c]).count '\n' + 1, (Text.lastLine (before ++ [c])).length + 1,
        Text.byteLength (before ++ [c])⟩ := by
  unfold next
  rw [Text.lastLine_concat, Text.byteLength_append]
  by_cases hc : c = '\n'
  · subst hc
    rw [if_pos rfl, if_pos rfl, List.count_append]
    rfl
  · rw [if_neg hc, if_neg hc, List.count_append, List.count_singleton]
    simp [hc]

/-- The place behind a text says how many lines it has, how long the last one is, and how many bytes
stand in front. -/
theorem after_start (before : List Char) : Position.start.after before =
    ⟨before.count '\n' + 1, (Text.lastLine before).length + 1, Text.byteLength before⟩ := by
  suffices h : ∀ cs front : List Char, after
      ⟨front.count '\n' + 1, (Text.lastLine front).length + 1, Text.byteLength front⟩ cs =
      ⟨(front ++ cs).count '\n' + 1, (Text.lastLine (front ++ cs)).length + 1,
        Text.byteLength (front ++ cs)⟩ from h before []
  intro cs
  induction cs with
  | nil =>
    intro front
    rw [List.append_nil]
    rfl
  | cons c cs ih =>
    intro front
    rw [after_cons, next_spec, ih, List.append_assoc]
    rfl

end Position

namespace Location

/-- The location is that of `slice` in a source that starts with `before` and goes on with it. -/
structure Marks (l : Location) (before slice : List Char) : Prop where
  line : l.line = before.count '\n' + 1
  column : l.column = (Text.lastLine before).length + 1
  offset : l.offset = Text.byteLength before
  length : l.length = Text.byteLength slice

/-- The location is that of some stretch of the source. -/
def Fits (l : Location) (source : List Char) : Prop :=
  ∃ before slice after, source = before ++ slice ++ after ∧ l.Marks before slice

theorem marks_ofPosition (before slice : List Char) :
    (ofPosition (Position.start.after before) (Text.byteLength slice)).Marks before slice := by
  rw [Position.after_start]
  exact ⟨rfl, rfl, rfl, rfl⟩

end Location

end Phrasebook
