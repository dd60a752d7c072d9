namespace Phrasebook

/-- A binary64 number in exact arithmetic. Every finite one is a whole multiple of 2^-1074 and is
stored as a sign and that multiple; zero has both signs. An operation computes the exact result and
rounds it once, to the nearest multiple with 53 significant bits, a tie going to the even one. The
result may be too large for the format; `inRange` tells. -/
structure Double where
  negative : Bool
  units : Nat
  deriving DecidableEq, Repr

namespace Double

def unit : Nat := Nat.pow 2 1074

/-- The least magnitude beyond the format, 2^1024, in units. -/
def limit : Nat := Nat.pow 2 2098

/-- `n / d` rounded to a whole number, a tie going to the even one. -/
def divideToEven (n d : Nat) : Nat :=
  let q := n / d
  let r := n % d
  if d < 2 * r ∨ (2 * r = d ∧ q % 2 = 1) then q + 1 else q

/-- The distance of neighbouring numbers at a magnitude: a power of two that leaves 53 bits. -/
def spacing (units : Nat) : Nat := Nat.pow 2 (units.log2 - 52)

/-- The magnitude nearest to `n / d` units. -/
def nearest (n d : Nat) : Nat :=
  let gap := spacing (n / d)
  divideToEven n (d * gap) * gap

def inRange (x : Double) : Bool := x.units < limit

def zero : Double := ⟨false, 0⟩

def toUnits (x : Double) : Int := if x.negative then -(x.units : Int) else x.units

/-- The number nearest to a signed count of units divided by `d`. -/
def ofUnits (n : Int) (d : Nat) : Double := ⟨n < 0, nearest n.natAbs d⟩

def ofInt (i : Int) : Double := ofUnits (i * unit) 1

def neg (x : Double) : Double := ⟨!x.negative, x.units⟩

def add (x y : Double) : Double := ofUnits (x.toUnits + y.toUnits) 1

def sub (x y : Double) : Double := ofUnits (x.toUnits - y.toUnits) 1

def mul (x y : Double) : Double :=
  ⟨x.negative != y.negative, nearest (x.units * y.units) unit⟩

/-- The quotient; the divisor is not zero. -/
def div (x y : Double) : Double :=
  ⟨x.negative != y.negative, nearest (x.units * unit) y.units⟩

/-- The remainder of the division toward zero, with the sign of the dividend; it is exact. -/
def rem (x y : Double) : Double := ⟨x.negative, x.units % y.units⟩

def isZero (x : Double) : Bool := x.units = 0

/-- Order by value; the zeros are equal. -/
def compare (x y : Double) : Ordering := Ord.compare x.toUnits y.toUnits

def eqv (x y : Double) : Bool := x.toUnits = y.toUnits

/-- The integer that the number is, if it is one. -/
def toInt? (x : Double) : Option Int :=
  if x.units % unit = 0 then
    some (if x.negative then -((x.units / unit : Nat) : Int) else (x.units / unit : Nat))
  else none

/-- The number nearest to `digits * 10 ^ exponent`. -/
def ofDecimal (negative : Bool) (digits : Nat) (exponent : Int) : Double :=
  let scaled := digits * unit
  ⟨negative,
    if exponent < 0 then nearest scaled (Nat.pow 10 exponent.natAbs)
    else nearest (scaled * Nat.pow 10 exponent.natAbs) 1⟩

end Double

end Phrasebook
