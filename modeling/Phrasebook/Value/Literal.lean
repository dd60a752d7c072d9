import Phrasebook.Text.Basic
import Phrasebook.Value.Basic

namespace Phrasebook.Literal

/-- The digits that were read, as one number, and how many of them stand behind the point. -/
structure Digits where
  significand : Nat
  count : Nat
  fraction : Nat

/-- Digits up to the first other character, on top of those read before. -/
def more (d : Digits) (behindPoint : Bool) : List Char → Digits × List Char
  | [] => (d, [])
  | c :: cs =>
    if c.isDigit then
      more ⟨d.significand * 10 + (c.toNat - 48), d.count + 1,
        if behindPoint then d.fraction + 1 else d.fraction⟩ behindPoint cs
    else (d, c :: cs)

/-- Digits with at most one point. -/
def significand (cs : List Char) : Digits × List Char :=
  match more ⟨0, 0, 0⟩ false cs with
  | (d, '.' :: rest) => more d true rest
  | other => other

/-- A sign, if there is one: whether it is a minus, and what follows it. -/
def sign : List Char → Bool × List Char
  | '-' :: cs => (true, cs)
  | '+' :: cs => (false, cs)
  | cs => (false, cs)

/-- An exponent that takes up all of the text; no text at all stands for zero. -/
def exponent? : List Char → Option Int
  | [] => some 0
  | c :: cs =>
    if c = 'e' ∨ c = 'E' then
      let (down, digits) := sign cs
      match more ⟨0, 0, 0⟩ false digits with
      | (d, []) =>
        if d.count = 0 then none
        else some (if down then -(d.significand : Int) else d.significand)
      | _ => none
    else none

/-- Magnitudes from 10^400 on lie beyond every number of the format, and those up to 10^-400 below
its least. -/
def exponentBound : Nat := 400

/-- The number nearest to a significand of `count` digits times a power of ten. -/
def scaled (negative : Bool) (significand count : Nat) (exponent : Int) : Double :=
  if significand = 0 ∨ exponent + count < -exponentBound then ⟨negative, 0⟩
  else if exponentBound < exponent then ⟨negative, Double.limit⟩
  else Double.ofDecimal negative significand exponent

def number? (negative : Bool) (cs : List Char) : Option Double :=
  let (d, rest) := significand cs
  if d.count = 0 then none
  else (exponent? rest).map fun e => scaled negative d.significand d.count (e - d.fraction)

/-- The value that a literal denotes as a computed number. A literal is a sign, digits with a point
among or around them, and an exponent, where all but a digit may be missing; or a sign and a word
for what no digits denote. -/
def value? (text : String) : Option Value :=
  let (negative, cs) := sign text.toList
  let word := String.ofList (cs.map Char.toLower)
  if word = "nan" ∨ word = "inf" ∨ word = "infinity" then some .null
  else (number? negative cs).map Value.ofDouble

end Phrasebook.Literal
