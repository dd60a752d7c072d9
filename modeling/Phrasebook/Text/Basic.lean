namespace Phrasebook.Text

/-- A space or a tab: the blanks of the template language. -/
def isBlank (c : Char) : Bool := c = ' ' || c = '\t'

/-- A character that ends a line or stands in front of one that does. -/
def isLineEnd (c : Char) : Bool := c = '\n' || c = '\r'

/-- A blank or a line end: what may stand between the words of an expression. -/
def isGap (c : Char) : Bool := isBlank c || isLineEnd c

/-- White space of every script (Unicode White_Space). -/
def isSpace (c : Char) : Bool :=
  let n := c.toNat
  (9 ≤ n && n ≤ 13) || n = 32 || n = 133 || n = 160 || n = 5760 || (8192 ≤ n && n ≤ 8202) ||
    n = 8232 || n = 8233 || n = 8239 || n = 8287 || n = 12288

theorem isSpace_of_isGap {c : Char} (h : isGap c = true) : isSpace c = true := by
  simp only [isGap, isBlank, isLineEnd, Bool.or_eq_true, decide_eq_true_eq] at h
  rcases h with (rfl | rfl) | (rfl | rfl) <;> rfl

/-- Length in UTF-8 bytes. -/
def byteLength : List Char → Nat
  | [] => 0
  | c :: cs => c.utf8Size + byteLength cs

@[simp] theorem byteLength_nil : byteLength [] = 0 := rfl

@[simp] theorem byteLength_cons (c : Char) (cs : List Char) :
    byteLength (c :: cs) = c.utf8Size + byteLength cs := rfl

@[simp] theorem byteLength_append (as bs : List Char) :
    byteLength (as ++ bs) = byteLength as + byteLength bs := by
  induction as with
  | nil => simp
  | cons c as ih =>
    rw [List.cons_append, byteLength_cons, byteLength_cons, ih]
    omega

/-- The number of leading characters in the class. -/
def runLength (p : Char → Bool) (cs : List Char) : Nat := (cs.takeWhile p).length

def trimStart (cs : List Char) : List Char := cs.dropWhile isSpace

def trimEnd (cs : List Char) : List Char := (cs.reverse.dropWhile isSpace).reverse

def trim (cs : List Char) : List Char := trimEnd (trimStart cs)

/-- Drops exactly `n` bytes, or fails where that would cut a character or pass the end. -/
def dropBytes : Nat → List Char → Option (List Char)
  | 0, cs => some cs
  | _ + 1, [] => none
  | n + 1, c :: cs => if c.utf8Size ≤ n + 1 then dropBytes (n + 1 - c.utf8Size) cs else none

/-- Drops exactly `n` bytes at the end, under the same condition. -/
def dropBytesEnd (n : Nat) (cs : List Char) : Option (List Char) :=
  (dropBytes n cs.reverse).map List.reverse

theorem dropBytes_append (front cs : List Char) :
    dropBytes (byteLength front) (front ++ cs) = some cs := by
  induction front with
  | nil => simp [dropBytes]
  | cons c front ih =>
    have hpos := c.utf8Size_pos
    have hsum : c.utf8Size + byteLength front = (c.utf8Size + byteLength front - 1) + 1 := by omega
    rw [byteLength_cons, List.cons_append, hsum, dropBytes, ← hsum, if_pos (Nat.le_add_right _ _),
      Nat.add_sub_cancel_left]
    exact ih

theorem byteLength_reverse (cs : List Char) : byteLength cs.reverse = byteLength cs := by
  induction cs with
  | nil => rfl
  | cons c cs ih =>
    rw [List.reverse_cons, byteLength_append, ih, byteLength_cons, byteLength_cons, byteLength_nil]
    omega

theorem dropBytesEnd_append (cs back : List Char) :
    dropBytesEnd (byteLength back) (cs ++ back) = some cs := by
  rw [dropBytesEnd, List.reverse_append, ← byteLength_reverse back, dropBytes_append,
    Option.map_some, List.reverse_reverse]

def extendFirst {α : Type} (c : α) : List (List α) → List (List α)
  | [] => [[c]]
  | part :: parts => (c :: part) :: parts

theorem extendFirst_ne_nil {α : Type} (c : α) (parts : List (List α)) :
    extendFirst c parts ≠ [] := by
  cases parts <;> simp [extendFirst]

/-- The stretches between the separators; always at least one. -/
def splitOn (separator : Char) : List Char → List (List Char)
  | [] => [[]]
  | c :: cs =>
    if c = separator then [] :: splitOn separator cs
    else extendFirst c (splitOn separator cs)

/-- The stretches that end at a stop, each with it, and what is left after the last one. -/
def linesOf {α : Type} [DecidableEq α] (stop : α) : List α → List (List α)
  | [] => []
  | c :: cs => if c = stop then [c] :: linesOf stop cs else extendFirst c (linesOf stop cs)

end Phrasebook.Text
