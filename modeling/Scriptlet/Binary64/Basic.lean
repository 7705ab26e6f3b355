/-! Binary64 words, the exact sizes they stand for, and the word nearest to a quotient. -/

namespace Scriptlet

/-- A binary64 number, kept as its word, so that signed zeros and NaN payloads differ. -/
structure Binary64 where
  /-- Sign bit, eleven exponent bits and fifty-two fraction bits, from the top. -/
  bits : UInt64
deriving DecidableEq, Repr

namespace Binary64

/-- The weight of the sign bit, 2^63. -/
def signWeight : Nat :=
  0x8000000000000000

/-- The weight of the lowest exponent bit, 2^52; below it stands the fraction. -/
def exponentWeight : Nat :=
  0x10000000000000

/-- The magnitude word of infinity: all exponent bits set and no fraction. -/
def infinityWord : Nat :=
  0x7FF0000000000000

/-- How many of the smallest positive number make one, 2^1074. -/
def unitsPerOne : Nat :=
  Nat.pow 2 1074

/-- The sign bit is set. -/
def isNegative (x : Binary64) : Bool :=
  decide (signWeight ≤ x.bits.toNat)

/-- The word without its sign bit; magnitudes are ordered as these words are. -/
def magnitude (x : Binary64) : Nat :=
  x.bits.toNat % signWeight

/-- The word stands for no number. -/
def isNaN (x : Binary64) : Bool :=
  decide (infinityWord < x.magnitude)

/-- The non-negative number with a given magnitude word. -/
def ofMagnitude (word : Nat) : Binary64 :=
  ⟨UInt64.ofNat word⟩

/-- The size of a finite magnitude word, counted in the smallest positive number. -/
def units (word : Nat) : Nat :=
  -- Subnormal words have no hidden bit and share the exponent of the first normal binade.
  let exponent := word / exponentWeight
  let fraction := word % exponentWeight
  if exponent = 0 then fraction else (exponentWeight + fraction) * Nat.pow 2 (exponent - 1)

/-- The natural number nearest to a quotient; an exact half goes to the even neighbour. -/
def roundHalfEven (numerator denominator : Nat) : Nat :=
  let quotient := numerator / denominator
  let twice := 2 * (numerator % denominator)
  if twice < denominator ∨ (twice = denominator ∧ quotient % 2 = 0) then quotient
  else quotient + 1

/-- The magnitude word nearest to a quotient; what exceeds every finite word becomes infinity. -/
def nearest (numerator denominator : Nat) : Nat :=
  -- The binade is chosen so that at most fifty-three bits are left to round;
  -- rounding up to the next power of two carries into the exponent of the word.
  let scaled := numerator * unitsPerOne
  let binade := Nat.log2 (scaled / denominator) - 52
  let fraction := roundHalfEven scaled (denominator * Nat.pow 2 binade)
  min (binade * exponentWeight + fraction) infinityWord

/-- The number nearest to a coefficient with the decimal point so many places from its end. -/
def ofDecimal (coefficient places : Nat) : Binary64 :=
  ofMagnitude (nearest coefficient (Nat.pow 10 places))

end Binary64

end Scriptlet
