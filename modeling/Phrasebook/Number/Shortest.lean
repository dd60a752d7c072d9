import Phrasebook.Number.Double

namespace Phrasebook.Double

/-- Twice the distance from the magnitude to the numbers that still round to it, below and above.
Below a power of two the neighbours are closer. -/
def slack (units : Nat) : Nat × Nat :=
  let gap := spacing units
  if units = Nat.pow 2 units.log2 ∧ 1 < gap then (gap / 2, gap) else (gap, gap)

/-- Whether `numerator / denominator` units round to the magnitude. The ends of the interval belong
to it when the last bit of the magnitude is even. -/
def roundsTo (units numerator denominator : Nat) : Bool :=
  let (below, above) := slack units
  let isEven := units / spacing units % 2 = 0
  let low := (2 * units - below) * denominator
  let high := (2 * units + above) * denominator
  let value := 2 * numerator
  if isEven then low ≤ value && value ≤ high else low < value && value < high

/-- A decimal number `digits * 10 ^ exponent`. -/
structure Decimal where
  digits : Nat
  exponent : Int
  deriving DecidableEq, Repr

/-- The multiple of `10 ^ exponent` next to the magnitude that rounds to it, if there is one: of
two the nearer, of two equally near the even one. -/
def onGrid (units : Nat) (exponent : Int) : Option Decimal :=
  let scale := Nat.pow 10 exponent.natAbs
  -- the grid step is `cell / share` units
  let (cell, share) := if exponent < 0 then (unit, scale) else (unit * scale, 1)
  let value := units * share
  let down := value / cell
  let up := down + 1
  let below := value - down * cell
  let above := up * cell - value
  let upFirst := above < below || (above = below && down % 2 = 1)
  let fits (d : Nat) : Bool := 0 < d && roundsTo units (d * cell) share
  let pick (d : Nat) : Option Decimal := some ⟨d, exponent⟩
  if upFirst then
    if fits up then pick up else if fits down then pick down else none
  else
    if fits down then pick down else if fits up then pick up else none

/-- Tries ever finer grids, starting at `exponent`. -/
def searchGrid (units : Nat) (exponent : Int) : Nat → Decimal
  | 0 => ⟨0, 0⟩
  | steps + 1 =>
    match onGrid units exponent with
    | some d => d
    | none => searchGrid units (exponent - 1) steps

/-- A decimal exponent that is no less than that of the magnitude. -/
def coarsest (units : Nat) : Int := ((units.log2 : Int) - 1073) * 30103 / 100000 + 1

/-- The shortest decimal of a magnitude other than zero. Twenty grids are enough, for seventeen
digits always do. -/
def shortest (units : Nat) : Decimal := searchGrid units (coarsest units) 24

/-- Digits with a point after the first, unless there is only one. -/
def withPoint : List Char → List Char
  | [] => []
  | [d] => [d]
  | d :: ds => d :: '.' :: ds

/-- Positional for a leading digit between the fifth decimal place and the sixteenth whole place,
always with a digit on both sides of the point; scientific with a signed exponent otherwise. -/
def layout (d : Decimal) : String :=
  let digits := Nat.toDigits 10 d.digits
  let lead := d.exponent + digits.length - 1
  if -5 ≤ lead ∧ lead ≤ 15 then
    if 0 ≤ d.exponent then
      String.ofList (digits ++ List.replicate d.exponent.toNat '0') ++ ".0"
    else if 0 ≤ lead then
      let whole := lead.toNat + 1
      String.ofList (digits.take whole ++ '.' :: digits.drop whole)
    else String.ofList ('0' :: '.' :: List.replicate (-lead - 1).toNat '0' ++ digits)
  else
    let sign := if lead < 0 then "-" else "+"
    String.ofList (withPoint digits) ++ "e" ++ sign ++ toString lead.natAbs

def text (x : Double) : String :=
  let magnitude := if x.units = 0 then "0.0" else layout (shortest x.units)
  if x.negative then "-" ++ magnitude else magnitude

end Phrasebook.Double
