namespace Phrasebook

/-- A way to choose one of `n` things, over a state that the choices move on. -/
structure Picker (σ : Type) where
  pick : Nat → σ → Nat × σ

namespace Picker

/-- Always the same index, or the last one if there are not so many. -/
def fixed (index : Nat) : Picker Unit where
  pick n s := (min index (n - 1), s)

/-- Goes through a list of indexes again and again, each taken modulo the number of things. The
state counts the choices made; a choice among nothing is none. -/
def sequence (indexes : List Nat) : Picker Nat where
  pick n made :=
    if n = 0 then (0, made)
    else match indexes[made % indexes.length]? with
      | some index => (index % n, made + 1)
      | none => (0, made)

/-- The next state of a generator with 64 bits of state. -/
def advance (s : UInt64) : UInt64 := s * 6364136223846793005 + 1442695040888963407

/-- Spreads the bits of a state. -/
def mix (s : UInt64) : UInt64 :=
  let s := (s ^^^ (s >>> 30)) * 0xBF58476D1CE4E5B9
  let s := (s ^^^ (s >>> 27)) * 0x94D049BB133111EB
  s ^^^ (s >>> 31)

/-- Pseudo-random choices, determined by the state they start from. -/
def random : Picker UInt64 where
  pick n s := ((mix (advance s)).toNat % max n 1, advance s)

end Picker

end Phrasebook
