namespace Phrasebook

inductive NumeralFault where
  | empty
  | badDigit
  | tooLarge
  deriving DecidableEq, Repr

def NumeralFault.message : NumeralFault → String
  | empty => "cannot parse integer from empty string"
  | badDigit => "invalid digit found in string"
  | tooLarge => "number too large to fit in target type"

namespace Numeral

def limit : Nat := Nat.pow 2 64 - 1

/-- The digits after those that make up `value`, taken one by one: a character that is no digit is
reported before an integer that gets too large with it. -/
def digits (value : Nat) : List Char → Except NumeralFault Nat
  | [] => .ok value
  | c :: cs =>
    if c.isDigit then
      let value := value * 10 + (c.toNat - 48)
      if value ≤ limit then digits value cs else .error .tooLarge
    else .error .badDigit

/-- Digits, which may have a plus sign. -/
def read : List Char → Except NumeralFault Nat
  | [] => .error .empty
  | ['+'] => .error .badDigit
  | '+' :: cs => digits 0 cs
  | cs => digits 0 cs

end Numeral

end Phrasebook
