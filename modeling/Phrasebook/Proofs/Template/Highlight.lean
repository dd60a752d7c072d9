import Phrasebook.Diagnostic
import Phrasebook.Proofs.Template.Blame

namespace Phrasebook

namespace Text

/-- The characters in the first `n` bytes, unless these end inside a character or pass the end. -/
def takeBytes : Nat → List Char → Option (List Char)
  | 0, _ => some []
  | _ + 1, [] => none
  | n + 1, c :: cs =>
    if c.utf8Size ≤ n + 1 then (takeBytes (n + 1 - c.utf8Size) cs).map (c :: ·) else none

theorem takeBytes_append (before rest : List Char) :
    takeBytes (byteLength before) (before ++ rest) = some before := by
  induction before with
  | nil => simp [takeBytes]
  | cons c before ih =>
    have hpos := c.utf8Size_pos
    have hsum : c.utf8Size + byteLength before = (c.utf8Size + byteLength before - 1) + 1 := by
      omega
    rw [byteLength_cons, List.cons_append, hsum, takeBytes, ← hsum, if_pos (Nat.le_add_right _ _),
      Nat.add_sub_cancel_left, ih, Option.map_some]

/-- Line and column behind the first `offset` bytes, each counted from one, the column in
characters. -/
def placeAt (source : List Char) (offset : Nat) : Option (Nat × Nat) :=
  (takeBytes offset source).map fun before =>
    (before.count '\n' + 1, (lastLine before).length + 1)

theorem placeAt_append (before rest : List Char) :
    placeAt (before ++ rest) (byteLength before) =
      some (before.count '\n' + 1, (lastLine before).length + 1) := by
  rw [placeAt, takeBytes_append, Option.map_some]

theorem lastLine_append {cs : List Char} (before : List Char) (h : '\n' ∉ cs) :
    lastLine (before ++ cs) = lastLine before ++ cs := by
  induction cs generalizing before with
  | nil => simp
  | cons c cs ih =>
    rw [List.mem_cons, not_or] at h
    rw [← List.singleton_append, ← List.append_assoc, ih _ h.2, lastLine_concat,
      if_neg (Ne.symm h.1), List.append_assoc]

theorem byteLength_eq_length {cs : List Char} (h : ∀ c ∈ cs, c.utf8Size = 1) :
    byteLength cs = cs.length := by
  induction cs with
  | nil => rfl
  | cons c cs ih =>
    rw [List.forall_mem_cons] at h
    rw [byteLength_cons, h.1, ih h.2, List.length_cons, Nat.add_comm]

theorem length_le_byteLength (cs : List Char) : cs.length ≤ byteLength cs := by
  induction cs with
  | nil => simp
  | cons c cs ih =>
    have hpos := c.utf8Size_pos
    simp only [List.length_cons, byteLength_cons]
    omega

theorem length_lastLine_le (cs : List Char) : (lastLine cs).length ≤ cs.length := by
  have hle := (List.takeWhile_sublist (fun c => decide (c ≠ '\n')) (l := cs.reverse)).length_le
  simpa [lastLine] using hle

end Text

/-- The text of a location in a source. -/
def Location.text? (l : Location) (source : List Char) : Option (List Char) :=
  (Text.dropBytes l.offset source).bind (Text.takeBytes l.length)

theorem Location.Marks.text? {l : Location} {before slice : List Char} (h : l.Marks before slice)
    (after : List Char) : l.text? (before ++ slice ++ after) = some slice := by
  rw [Location.text?, h.offset, h.length, List.append_assoc, Text.dropBytes_append,
    Option.bind_some, Text.takeBytes_append]

/-- The range is the text of the location: it starts where that starts and ends where that ends. -/
structure Span.Covers (s : Span) (source : List Char) (l : Location) : Prop where
  start : Text.placeAt source l.offset = some (s.startLine.toNat, s.startColumn.toNat)
  stop : Text.placeAt source (l.offset + l.length) = some (s.endLine.toNat, s.endColumn.toNat)

/-- The range has the numbers of the location, none of which is cut off. -/
structure Span.Shows (s : Span) (l : Location) : Prop where
  startLine : s.startLine.toNat = l.line
  startColumn : s.startColumn.toNat = l.column
  endLine : s.endLine.toNat = l.line
  endColumn : s.endColumn.toNat = l.column + l.length

/-- Nothing is cut off where line and last column fit in 32 bits. -/
theorem Span.shows_ofLocation {l : Location} (hline : l.line < UInt32.size)
    (hend : l.column + l.length < UInt32.size) : (ofLocation l).Shows l := by
  have htoNat (n : Nat) (h : n < UInt32.size) : (UInt32.ofNat n).toNat = n :=
    UInt32.toNat_ofNat_of_lt h
  have hcolumn : l.column < UInt32.size := by omega
  have hlength : l.length < UInt32.size := by omega
  have hsum : (UInt32.ofNat l.column + UInt32.ofNat l.length).toNat = l.column + l.length := by
    rw [UInt32.toNat_add, htoNat _ hcolumn, htoNat _ hlength]
    exact Nat.mod_eq_of_lt hend
  exact ⟨htoNat _ hline, htoNat _ hcolumn, htoNat _ hline, hsum⟩

namespace Location.Marks

variable {l : Location} {before slice : List Char}

/-- Lines and columns are no more than the bytes that they are counted in. -/
theorem shows_ofLocation (h : l.Marks before slice) (after : List Char)
    (hsize : Text.byteLength (before ++ slice ++ after) + 1 < UInt32.size) :
    (Span.ofLocation l).Shows l := by
  have hbytes := Text.length_le_byteLength before
  have hlines : before.count '\n' ≤ before.length := List.count_le_length
  have hcolumns : (Text.lastLine before).length ≤ before.length := Text.length_lastLine_le before
  have hline := h.line
  have hcolumn := h.column
  have hlength := h.length
  rw [Text.byteLength_append, Text.byteLength_append] at hsize
  apply Span.shows_ofLocation
  · omega
  · omega

theorem placeAt_start (h : l.Marks before slice) (after : List Char) :
    Text.placeAt (before ++ slice ++ after) l.offset = some (l.line, l.column) := by
  rw [h.offset, List.append_assoc, Text.placeAt_append, h.line, h.column]

/-- The end of the text, told by its last line. -/
theorem placeAt_stop (h : l.Marks before slice) (after : List Char) :
    Text.placeAt (before ++ slice ++ after) (l.offset + l.length) =
      some (l.line + slice.count '\n', (Text.lastLine (before ++ slice)).length + 1) := by
  rw [h.offset, h.length, ← Text.byteLength_append, Text.placeAt_append, List.count_append, h.line,
    Nat.add_right_comm]

theorem covers_iff {span : Span} (h : l.Marks before slice) (hshows : span.Shows l)
    (after : List Char) (hbytes : ∀ c ∈ slice, c.utf8Size = 1) :
    span.Covers (before ++ slice ++ after) l ↔ '\n' ∉ slice := by
  constructor
  · intro hcovers
    have hstop := hcovers.stop
    rw [h.placeAt_stop, hshows.endLine] at hstop
    have hline : l.line + slice.count '\n' = l.line := congrArg Prod.fst (Option.some.inj hstop)
    exact List.count_eq_zero.1 (by omega)
  · intro hline
    constructor
    · rw [h.placeAt_start, hshows.startLine, hshows.startColumn]
    · have hlast : (Text.lastLine (before ++ slice)).length + 1 = l.column + l.length := by
        rw [Text.lastLine_append before hline, List.length_append, h.column, h.length,
          Text.byteLength_eq_length hbytes]
        omega
      rw [h.placeAt_stop, List.count_eq_zero.2 hline, hlast, hshows.endLine, hshows.endColumn,
        Nat.add_zero]

end Location.Marks

namespace SourceFile

/-- The range reported for a rejected source whose lines and columns fit in 32 bits starts at the
line and the column of the faulted text, and ends on that line. Where every character of the text has
one byte, it is as many columns wide as the text is long, and it ends where the text ends unless that
goes on to another line. -/
theorem parse_error_highlighted {source : String} {e : ParseError}
    (h : SourceFile.parse source = .error e)
    (hsize : Text.byteLength source.toList + 1 < UInt32.size) :
    ∃ span faulted, (Diagnostic.ofParseError e).span = some span ∧
      e.location.text? source.toList = some faulted ∧
      Text.placeAt source.toList e.location.offset =
        some (span.startLine.toNat, span.startColumn.toNat) ∧
      span.endLine = span.startLine ∧
      ((∀ c ∈ faulted, c.utf8Size = 1) →
        span.endColumn.toNat = span.startColumn.toNat + faulted.length ∧
        (span.Covers source.toList e.location ↔ '\n' ∉ faulted)) := by
  obtain ⟨before, faulted, after, hsource, hplace⟩ := SourceFile.parse_error_fits h
  rw [hsource] at hsize ⊢
  have hshows := hplace.shows_ofLocation after hsize
  refine ⟨.ofLocation e.location, faulted, rfl, hplace.text? after, ?_, rfl, ?_⟩
  · rw [hplace.placeAt_start, hshows.startLine, hshows.startColumn]
  · intro hbytes
    refine ⟨?_, hplace.covers_iff hshows after hbytes⟩
    rw [hshows.endColumn, hshows.startColumn, ← Text.byteLength_eq_length hbytes, hplace.length]

/-- A case that goes on to the end of the source without its expression. -/
theorem parse_error_highlighted_keyword :
    let e : ParseError :=
      ⟨.unexpected .text "old" [.expression], ⟨2, 9, 12, 3, none⟩⟩
    SourceFile.parse "# T\n- CASE: old" = .error e ∧
    Text.byteLength "# T\n- CASE: old".toList + 1 < UInt32.size ∧
    (Span.ofLocation e.location).Covers "# T\n- CASE: old".toList e.location := by
  intro e
  have herror : SourceFile.parse "# T\n- CASE: old" = .error e := by decide +kernel
  have hsize : Text.byteLength "# T\n- CASE: old".toList + 1 < UInt32.size := by decide +kernel
  obtain ⟨span, faulted, hspan, htext, -, -, hcovers⟩ := parse_error_highlighted herror hsize
  have hfaulted : e.location.text? "# T\n- CASE: old".toList = some "old".toList := by
    decide +kernel
  obtain rfl := Option.some.inj (hfaulted.symm.trans htext)
  cases hspan
  have hbytes : ∀ c ∈ "old".toList, c.utf8Size = 1 := by
    intro c hc
    have hword : c = 'o' ∨ c = 'l' ∨ c = 'd' := by simpa using hc
    rcases hword with rfl | rfl | rfl <;> rfl
  exact ⟨herror, hsize, (hcovers hbytes).2.2 (by simp)⟩

/-- Where the line behind a name is empty, the fault is its line feed: it ends at the start of the
next line, and the range does not. A letter of two bytes ends one column behind its start, and the
range two columns. -/
theorem faults_not_covered :
    (∃ e span, SourceFile.parse "# T\n\n- x" = .error e ∧
      (Diagnostic.ofParseError e).span = some span ∧
      Text.placeAt "# T\n\n- x".toList (e.location.offset + e.location.length) = some (3, 1) ∧
      (span.endLine, span.endColumn) = (2, 2) ∧ ¬span.Covers "# T\n\n- x".toList e.location) ∧
    ∃ e span, SourceFile.parse "é" = .error e ∧
      (Diagnostic.ofParseError e).span = some span ∧
      Text.placeAt "é".toList (e.location.offset + e.location.length) = some (1, 2) ∧
      (span.endLine, span.endColumn) = (1, 3) ∧ ¬span.Covers "é".toList e.location := by
  refine ⟨⟨⟨.noLines "\n", ⟨2, 1, 4, 1, none⟩⟩, ⟨none, 2, 1, 2, 2⟩, by decide +kernel, rfl,
    by decide +kernel, rfl, fun hcovers => ?_⟩, ⟨.strayBetween 'é', ⟨1, 1, 0, 2, none⟩⟩,
    ⟨none, 1, 1, 1, 3⟩, by decide +kernel, rfl, by decide +kernel, rfl, fun hcovers => ?_⟩
  all_goals exact absurd hcovers.stop (by decide +kernel)

end SourceFile

end Phrasebook
