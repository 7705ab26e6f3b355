import Mathlib.Algebra.Ring.Nat
import Mathlib.Tactic.Ring
import Scriptlet.Binary64.Shortest

/-! Rounding to a magnitude word: the word depends on the size of a quotient alone, and the shortest
decimal of a word reads back to it. -/

namespace Scriptlet

namespace Binary64

variable {numerator denominator factor word : Nat}

/-- The smallest positive numbers are parts of one that come from halving it again and again. -/
theorem exists_unitsPerOne : ∃ places, places = 1074 ∧ unitsPerOne = 2 ^ places := by
  -- The exponent stays a variable, so that the power is not multiplied out.
  unfold unitsPerOne
  generalize 1074 = places
  exact ⟨places, rfl, Nat.pow_eq⟩

section Rounding

/-- A common factor makes no difference to the rounding of a quotient. -/
theorem roundHalfEven_mul (positive : 0 < factor) (numerator denominator : Nat) :
    roundHalfEven (factor * numerator) (factor * denominator) =
      roundHalfEven numerator denominator := by
  -- The quotient stays, and the remainder is compared as before.
  have less : 2 * (factor * (numerator % denominator)) < factor * denominator ↔
      2 * (numerator % denominator) < denominator := by
    rw [Nat.mul_left_comm, Nat.mul_lt_mul_left positive]
  have half : 2 * (factor * (numerator % denominator)) = factor * denominator ↔
      2 * (numerator % denominator) = denominator := by
    rw [Nat.mul_left_comm, Nat.mul_right_inj (Nat.pos_iff_ne_zero.mp positive)]
  simp only [roundHalfEven, Nat.mul_div_mul_left _ _ positive, Nat.mul_mod_mul_left, less, half]

/-- A quotient without a remainder is not rounded. -/
theorem roundHalfEven_exact (positive : 0 < denominator) (quotient : Nat) :
    roundHalfEven (quotient * denominator) denominator = quotient := by
  -- The remainder is zero, which is less than half.
  simp [roundHalfEven, Nat.mul_div_cancel _ positive, positive]

/-- A common factor makes no difference to the nearest word. -/
theorem nearest_mul (positive : 0 < factor) (numerator denominator : Nat) :
    nearest (factor * numerator) (factor * denominator) = nearest numerator denominator := by
  -- The binade is found from the quotient, and rounding does not see the factor either.
  simp only [nearest, Nat.mul_assoc, Nat.mul_div_mul_left _ _ positive, roundHalfEven_mul positive]

/-- The nearest word depends on the quotient alone. -/
theorem nearest_congr {numerator' denominator' : Nat} (positive : 0 < denominator)
    (positive' : 0 < denominator') (same : numerator * denominator' = numerator' * denominator) :
    nearest numerator denominator = nearest numerator' denominator' := by
  -- Both quotients are widened to the product of the denominators.
  calc nearest numerator denominator
      = nearest (denominator' * numerator) (denominator' * denominator) :=
        (nearest_mul positive' _ _).symm
    _ = nearest (denominator * numerator') (denominator * denominator') := by
        rw [Nat.mul_comm denominator' numerator, same, Nat.mul_comm numerator',
          Nat.mul_comm denominator']
    _ = nearest numerator' denominator' := nearest_mul positive _ _

/-- No word is larger than that of infinity. -/
theorem nearest_le (numerator denominator : Nat) : nearest numerator denominator ≤ infinityWord :=
  -- A word is cut off at infinity.
  Nat.min_le_right _ _

/-- The word nearest to zero is that of zero. -/
theorem nearest_zero (denominator : Nat) : nearest 0 denominator = 0 := by
  -- Nothing is left over, which is less than half of the denominator or, like it, zero.
  have half : 0 < denominator ∨ 0 = denominator :=
    (Nat.eq_zero_or_pos denominator).symm.imp_right .symm
  simp [nearest, roundHalfEven, Nat.log2_zero, half]

end Rounding

section Reading

/-- The weight of the exponent leaves fifty-two bits to the fraction. -/
theorem exponentWeight_eq : exponentWeight = 2 ^ 52 := by
  -- The weight is written out as a number.
  decide

/-- A word below the first normal one is its own size. -/
theorem units_of_subnormal (subnormal : word < exponentWeight) : units word = word := by
  -- Its exponent is zero, and all its bits are fraction.
  simp [units, Nat.div_eq_of_lt subnormal, Nat.mod_eq_of_lt subnormal]

/-- A normal word counts its fraction and the hidden bit, in the binade below its exponent. -/
theorem units_of_normal {binade : Nat} (exponent : word / exponentWeight = binade + 1) :
    units word = (exponentWeight + word % exponentWeight) * 2 ^ binade := by
  -- The exponent is not zero, which is what the hidden bit depends on.
  simp [units, exponent]

/-- A fraction with the hidden bit has its highest bit where the binade says. -/
theorem log2_normal {fraction : Nat} (below : fraction < exponentWeight) (binade : Nat) :
    Nat.log2 ((exponentWeight + fraction) * 2 ^ binade) = 52 + binade := by
  -- With the hidden bit, the fraction lies between one weight and two of them.
  have positive : 0 < 2 ^ binade := Nat.two_pow_pos binade
  have low : 2 ^ (52 + binade) = exponentWeight * 2 ^ binade := by
    rw [Nat.pow_add, ← exponentWeight_eq]
  have high : 2 ^ (52 + binade + 1) = (exponentWeight + exponentWeight) * 2 ^ binade := by
    rw [Nat.pow_succ, low]
    ring
  have weight : 0 < exponentWeight := by decide
  rw [Nat.log2_eq_iff (Nat.mul_ne_zero (by omega) (by omega)), low, high]
  exact ⟨Nat.mul_le_mul_right _ (by omega), Nat.mul_lt_mul_of_pos_right (by omega) positive⟩

/-- A word is made of the binade of its size and of what is to be rounded there. -/
theorem units_eq (word : Nat) : ∃ fraction binade, units word = fraction * 2 ^ binade ∧
    Nat.log2 (units word) - 52 = binade ∧ binade * exponentWeight + fraction = word := by
  have below : word % exponentWeight < exponentWeight := Nat.mod_lt _ (by decide)
  rcases Nat.lt_or_ge word exponentWeight with subnormal | normal
  · -- All bits of the word count, and none of them is the fifty-third.
    have size := units_of_subnormal subnormal
    refine ⟨word, 0, by simp [size], ?_, by simp⟩
    rw [size]
    by_cases zero : word = 0
    · simp [zero, Nat.log2_zero]
    · have bits := (Nat.log2_lt zero).mpr (exponentWeight_eq ▸ subnormal)
      omega
  · -- The hidden bit is the fifty-third, and counts once more in the exponent of the word.
    obtain ⟨binade, exponent⟩ := Nat.exists_eq_succ_of_ne_zero
      (Nat.div_pos normal (by decide)).ne'
    have size := units_of_normal exponent
    have parts := Nat.div_add_mod word exponentWeight
    refine ⟨exponentWeight + word % exponentWeight, binade, size, ?_, ?_⟩
    · rw [size, log2_normal below]
      omega
    · rw [exponent, Nat.mul_succ, Nat.mul_comm] at parts
      omega

/-- Whatever is exactly as large as a word is nearest to it. -/
theorem nearest_of_units (finite : word ≤ infinityWord) (positive : 0 < denominator)
    (exact : numerator * unitsPerOne = units word * denominator) :
    nearest numerator denominator = word := by
  -- The rounding takes place in the binade of the word, and leaves no remainder there.
  obtain ⟨fraction, binade, size, highest, whole⟩ := units_eq word
  have quotient : numerator * unitsPerOne / denominator = units word := by
    rw [exact, Nat.mul_div_cancel _ positive]
  have rounded : roundHalfEven (numerator * unitsPerOne) (denominator * 2 ^ binade) = fraction := by
    rw [exact, size, Nat.mul_assoc, Nat.mul_comm (2 ^ binade)]
    exact roundHalfEven_exact (Nat.mul_pos positive (Nat.pow_pos (by decide))) _
  have binades : Nat.log2 (numerator * unitsPerOne / denominator) - 52 = binade := by
    rw [quotient, highest]
  simp only [nearest, binades, Nat.pow_eq, rounded, whole]
  exact Nat.min_eq_left finite

/-- A number of the smallest parts of one is a decimal with as many places. -/
theorem nearest_of_places (finite : word ≤ infinityWord) {places : Nat}
    (parts : unitsPerOne = 2 ^ places) :
    nearest (units word * 5 ^ places) (10 ^ places) = word := by
  -- Ten has the factors five and two.
  refine nearest_of_units finite (Nat.pow_pos (by decide)) ?_
  rw [parts, Nat.mul_assoc, ← Nat.mul_pow]

/-- The exact decimal of a word reads back to it. -/
theorem exactDecimal_word (finite : word ≤ infinityWord) : (exactDecimal word).word = word := by
  -- As many places as the smallest parts of one have are enough.
  obtain ⟨places, count, parts⟩ := exists_unitsPerOne
  simp only [Decimal.word, exactDecimal, show (-1074 : Int).toNat = 0 from rfl,
    show (-(-1074 : Int)).toNat = 1074 from rfl, ← count]
  simpa only [Nat.pow_eq, Nat.pow_zero, Nat.mul_one] using nearest_of_places finite parts

/-- A decimal on a grid is taken only if it reads back. -/
theorem onGrid?_word {grid : Int} {d : Decimal} (hit : onGrid? word grid = some d) :
    d.word = word := by
  -- Whichever neighbour is taken has been read back first.
  unfold onGrid? at hit
  extract_lets numerator denominator below above at hit
  split at hit
  · split at hit
    · rename_i lower
      obtain rfl := Option.some.inj hit
      exact lower.1
    · rename_i upper _
      obtain rfl := Option.some.inj hit
      exact upper
  · split at hit
    · rename_i lower
      obtain rfl := Option.some.inj hit
      exact lower
    · cases hit

/-- The shortest decimal of a word reads back to it. -/
theorem shortest_word (finite : word ≤ infinityWord) : (shortest word).word = word := by
  -- Either some grid has a decimal that reads back, or the exact one is taken.
  simp only [shortest]
  cases search : (List.range 17).findSome? fun (extra : Nat) =>
      onGrid? word (leadingExponent word - extra) with
  | none => exact exactDecimal_word finite
  | some d =>
    obtain ⟨extra, -, hit⟩ := List.exists_of_findSome?_eq_some search
    exact onGrid?_word hit

end Reading

end Binary64

end Scriptlet
