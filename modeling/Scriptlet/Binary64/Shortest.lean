import Scriptlet.Binary64.Basic

/-! The fewest decimal digits that read back to a binary64 magnitude. -/

namespace Scriptlet

namespace Binary64

/-- A decimal: some digits, and the power of ten that the last of them counts. -/
structure Decimal where
  /-- The digits as one natural number. -/
  digits : Nat
  /-- The power of ten of the last digit. -/
  exponent : Int
deriving DecidableEq, Repr

/-- The magnitude word that a decimal reads back to. -/
def Decimal.word (d : Decimal) : Nat :=
  nearest (d.digits * Nat.pow 10 d.exponent.toNat) (Nat.pow 10 (-d.exponent).toNat)

/-- The power of ten of the leading digit of a non-zero magnitude word. -/
def leadingExponent (word : Nat) : Int :=
  -- The smallest positive number exceeds 10^-324, so the scaled size keeps its leading digit.
  let scaled := units word * Nat.pow 10 324 / unitsPerOne
  (Nat.toDigits 10 scaled).length - 325

/-- The neighbour of a magnitude on a decimal grid that reads back to it, the nearer of two. -/
def onGrid? (word : Nat) (grid : Int) : Option Decimal :=
  let numerator := units word * Nat.pow 10 (-grid).toNat
  let denominator := unitsPerOne * Nat.pow 10 grid.toNat
  let below : Decimal := ⟨numerator / denominator, grid⟩
  let above : Decimal := ⟨numerator / denominator + 1, grid⟩
  if above.word = word then
    -- A magnitude halfway between two neighbours takes the upper one.
    if below.word = word ∧ 2 * (numerator % denominator) < denominator then some below
    else some above
  else if below.word = word then some below
  else none

/-- The exact decimal of a finite magnitude word. -/
def exactDecimal (word : Nat) : Decimal :=
  ⟨units word * Nat.pow 5 1074, -1074⟩

/-- The decimal with the fewest digits, up to seventeen, that reads back to a magnitude word. -/
def shortest (word : Nat) : Decimal :=
  -- Coarse grids come first, so the first hit has the fewest digits.
  let leading := leadingExponent word
  ((List.range 17).findSome? fun (extra : Nat) =>
    onGrid? word (leading - extra)).getD (exactDecimal word)

end Binary64

end Scriptlet
