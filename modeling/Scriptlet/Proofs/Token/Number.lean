import Scriptlet.Proofs.Binary64.Text
import Scriptlet.Token.Basic

/-! The numbers that literals stand for are told apart by their texts. -/

namespace Scriptlet

open Scriptlet.Binary64

namespace Number

variable {number number' : Number}

/-- A number that some literal stands for. -/
def Literal (number : Number) : Prop :=
  ∃ whole fraction, ofDigits whole fraction = number

/-- A literal stands for a whole number that is not negative, or for a magnitude. -/
theorem Literal.cases (literal : number.Literal) : (∃ n : Nat, number = .int n) ∨
    ∃ word ≤ infinityWord, number = .float (ofMagnitude word) := by
  -- Whole numbers that are too large become magnitudes, as those with a point are.
  obtain ⟨whole, fraction, rfl⟩ := literal
  cases fraction with
  | none =>
    by_cases small : Nat.ofDigitChars 10 whole 0 < intBound
    · exact .inl ⟨_, if_pos small⟩
    · exact .inr ⟨_, nearest_le _ _, if_neg small⟩
  | some fraction => exact .inr ⟨_, nearest_le _ _, rfl⟩

/-- A magnitude has its own word, and is neither negative nor NaN. -/
theorem ofMagnitude_unsigned {word : Nat} (bounded : word ≤ infinityWord) :
    (ofMagnitude word).magnitude = word ∧ (ofMagnitude word).isNegative = false ∧
      (ofMagnitude word).isNaN = false := by
  -- The word is below the sign bit, and not above that of infinity.
  have small : word < signWeight := Nat.lt_of_le_of_lt bounded (by decide)
  have bits : (ofMagnitude word).bits.toNat = word :=
    UInt64.toNat_ofNat_of_lt (Nat.lt_trans small (by decide))
  have magnitude : (ofMagnitude word).magnitude = word := by
    rw [Binary64.magnitude, bits, Nat.mod_eq_of_lt small]
  refine ⟨magnitude, ?_, ?_⟩
  · rw [isNegative, bits]
    exact decide_eq_false (Nat.not_le.mpr small)
  · rw [isNaN, magnitude]
    exact decide_eq_false (Nat.not_lt.mpr bounded)

/-- A magnitude is written without a sign. -/
theorem toList_text_ofMagnitude {word : Nat} (bounded : word ≤ infinityWord) :
    (text (.float (ofMagnitude word))).toList = magnitudeText word := by
  -- A magnitude is a number and not negative, so its text is that of the magnitude.
  obtain ⟨magnitude, positive, isNumber⟩ := ofMagnitude_unsigned bounded
  simp [text, Binary64.text, isNumber, positive, magnitude]

/-- A whole number that is not negative, or another number that is neither negative nor NaN. -/
def Unsigned : Number → Prop
  | .int value => 0 ≤ value
  | .float value => value.isNegative = false ∧ value.isNaN = false

/-- No literal has a sign. -/
theorem Literal.unsigned (literal : number.Literal) : number.Unsigned := by
  -- A literal is an integer of digits or a magnitude.
  rcases literal.cases with ⟨n, rfl⟩ | ⟨word, bounded, rfl⟩
  · exact Int.natCast_nonneg n
  · exact (ofMagnitude_unsigned bounded).2

/-- The text of a literal has no line end. -/
theorem Literal.lineEnd_notMem (literal : number.Literal) : '\n' ∉ number.text.toList := by
  -- Neither digits nor the texts of magnitudes have one.
  rcases literal.cases with ⟨n, rfl⟩ | ⟨word, bounded, rfl⟩
  · intro member
    have digit := digits_toDigits n '\n' (toList_toString_ofNat n ▸ member)
    exact absurd digit (by decide)
  · rw [toList_text_ofMagnitude bounded]
    exact (magnitudeText_chars bounded).1

/-- Literals of the same text stand for the same number. -/
theorem Literal.eq_of_text (literal : number.Literal) (literal' : number'.Literal)
    (same : number.text = number'.text) : number = number' := by
  have letters := congrArg String.toList same
  -- What is no whole number is not written with digits alone.
  have apart (n : Nat) {word : Nat} (bounded : word ≤ infinityWord)
      (alike : (text (.int n)).toList = magnitudeText word) : False := by
    obtain ⟨-, c, member, foreign⟩ := magnitudeText_chars bounded
    have digit := digits_toDigits n c (toList_toString_ofNat n ▸ alike ▸ member)
    exact absurd digit (by simp [foreign])
  rcases literal.cases with ⟨n, rfl⟩ | ⟨word, bounded, rfl⟩ <;>
    rcases literal'.cases with ⟨n', rfl⟩ | ⟨word', bounded', rfl⟩
  · have values : (n : Int) = n' := by
      rw [← readWhole_toString n, ← readWhole_toString n']
      exact congrArg readWhole letters
    rw [values]
  · rw [toList_text_ofMagnitude bounded'] at letters
    exact (apart n bounded' letters).elim
  · rw [toList_text_ofMagnitude bounded] at letters
    exact (apart n' bounded letters.symm).elim
  · rw [toList_text_ofMagnitude bounded, toList_text_ofMagnitude bounded'] at letters
    rw [magnitudeText_inj bounded bounded' letters]

end Number

end Scriptlet
