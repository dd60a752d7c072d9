import Phrasebook.Number.Shortest

namespace Phrasebook

/-- An integer between -2^63 and 2^64-1, or a finite binary64 number. -/
inductive Number where
  | int (i : Int)
  | float (x : Double)
  deriving DecidableEq, Repr

namespace Number

def toDouble : Number → Double
  | int i => .ofInt i
  | float x => x

/-- The magnitude beyond the integers that integer arithmetic works on. -/
def wordBound : Nat := Nat.pow 2 63

/-- The integers that integer arithmetic works on. -/
def fitsWord (i : Int) : Bool := -(wordBound : Int) ≤ i && i < wordBound

/-- The number as an operand of integer arithmetic. -/
def toWord? : Number → Option Int
  | int i => if fitsWord i then some i else none
  | float _ => none

def toIndex? : Number → Option Nat
  | int i => if 0 ≤ i then some i.toNat else none
  | float _ => none

end Number

/-- A scalar, a list, or a mapping whose keys are sorted and distinct. -/
inductive Value where
  | null
  | bool (b : Bool)
  | number (n : Number)
  | text (s : String)
  | list (items : List Value)
  | mapping (fields : List (String × Value))
  deriving Repr, Inhabited

/-- The fields of a mapping, in the order of their keys. -/
abbrev Fields := List (String × Value)

namespace Fields

/-- Binds a key, in place of an earlier binding. -/
def insert (key : String) (value : Value) : Fields → Fields
  | [] => [(key, value)]
  | (k, v) :: rest =>
    if key = k then (key, value) :: rest
    else if key < k then (key, value) :: (k, v) :: rest
    else (k, v) :: insert key value rest

def get? (fields : Fields) (key : String) : Option Value :=
  (fields.find? fun field => field.1 == key).map Prod.snd

def ofPairs (pairs : List (String × Value)) : Fields :=
  pairs.foldl (fun fields pair => insert pair.1 pair.2 fields) []

theorem get?_cons (k : String) (v : Value) (fields : Fields) (key : String) :
    get? ((k, v) :: fields) key = if k = key then some v else get? fields key := by
  unfold get?
  by_cases h : k = key
  · simp [h]
  · simp [h]

/-- The key has its new value, and the others have the values they had. -/
theorem get?_insert (k : String) (v : Value) (fields : Fields) (key : String) :
    get? (insert k v fields) key = if k = key then some v else get? fields key := by
  induction fields with
  | nil => exact get?_cons k v [] key
  | cons field fields ih =>
    obtain ⟨k', v'⟩ := field
    unfold insert
    by_cases hk : k = k'
    · subst hk
      rw [if_pos rfl, get?_cons, get?_cons]
      split <;> rfl
    · rw [if_neg hk]
      by_cases hlt : k < k'
      · rw [if_pos hlt, get?_cons]
      · rw [if_neg hlt, get?_cons, ih, get?_cons]
        by_cases hkey : k' = key
        · rw [if_pos hkey, if_pos hkey, if_neg (hkey ▸ hk)]
        · rw [if_neg hkey, if_neg hkey]

theorem ofPairs_concat (pairs : List (String × Value)) (k : String) (v : Value) :
    ofPairs (pairs ++ [(k, v)]) = insert k v (ofPairs pairs) := by
  simp [ofPairs]

end Fields

namespace Value

def int (i : Int) : Value := .number (.int i)

/-- Magnitudes from here on stay floats even when they are integral. -/
def integralLimit : Nat := 9 * Nat.pow 10 15

/-- The integer that a float is shown as: integral and small enough to be exact. -/
def integral? (x : Double) : Option Int :=
  match x.toInt? with
  | some i => if i.natAbs < integralLimit then some i else none
  | none => none

/-- A computed number: an integer where it is one, and null where it is beyond the format. -/
def ofDouble (x : Double) : Value :=
  match integral? x with
  | some i => int i
  | none => if x.inRange then .number (.float x) else .null

/-- The value of a property; only mappings have properties. -/
def property? (v : Value) (name : String) : Option Value :=
  match v with
  | .mapping fields => Fields.get? fields name
  | _ => none

/-- Everything holds except false and numbers that are zero. -/
def isTruthy : Value → Bool
  | .bool b => b
  | .number n => !n.toDouble.isZero
  | _ => true

/-- The name of a value's type in messages. -/
def typeName : Value → String
  | .null => "null"
  | .bool _ => "boolean"
  | .number _ => "number"
  | .text _ => "string"
  | .list _ => "list"
  | .mapping _ => "mapping"

end Value

end Phrasebook
