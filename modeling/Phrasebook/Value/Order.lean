import Phrasebook.Value.Basic

namespace Phrasebook

namespace Number

/-- Numbers are compared as binary64 numbers, integers being rounded first. -/
def compare (a b : Number) : Ordering := a.toDouble.compare b.toDouble

/-- Equality of the numbers as binary64 numbers. -/
def eqv (a b : Number) : Bool := a.toDouble.eqv b.toDouble

/-- Equality of numbers of one kind; an integer is never identical to a float. -/
def identical : Number → Number → Bool
  | int i, int j => i = j
  | float x, float y => x.eqv y
  | _, _ => false

end Number

namespace Value

mutual

/-- Equality part by part, with numbers of one kind only. -/
def identical : Value → Value → Bool
  | .null, .null => true
  | .bool a, .bool b => a = b
  | .number a, .number b => a.identical b
  | .text a, .text b => a = b
  | .list xs, .list ys => identicalItems xs ys
  | .mapping xs, .mapping ys => identicalFields xs ys
  | _, _ => false

def identicalItems : List Value → List Value → Bool
  | [], [] => true
  | x :: xs, y :: ys => x.identical y && identicalItems xs ys
  | _, _ => false

def identicalFields : List (String × Value) → List (String × Value) → Bool
  | [], [] => true
  | (k, x) :: xs, (l, y) :: ys => k = l && x.identical y && identicalFields xs ys
  | _, _ => false

end

mutual

/-- Equality of values: numbers count by their value, also inside lists, and anything else has to
be identical. -/
def equals : Value → Value → Bool
  | .number a, .number b => a.eqv b
  | .list xs, .list ys => equalsItems xs ys
  | x, y => x.identical y

def equalsItems : List Value → List Value → Bool
  | [], [] => true
  | x :: xs, y :: ys => x.equals y && equalsItems xs ys
  | _, _ => false

end

/-- The order of two numbers or of two strings; strings go by code points. -/
def compare? : Value → Value → Option Ordering
  | .number a, .number b => some (a.compare b)
  | .text a, .text b => some (Ord.compare a b)
  | _, _ => none

end Value

end Phrasebook
