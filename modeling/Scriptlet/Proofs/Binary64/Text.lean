import Mathlib.Algebra.Field.Rat
import Mathlib.Algebra.Order.Ring.Rat
import Mathlib.Data.List.TakeWhile
import Mathlib.Tactic.FieldSimp
import Mathlib.Tactic.Ring
import Scriptlet.Binary64.Text
import Scriptlet.Proofs.Binary64.Nearest

/-! The text of a binary64 number: it reads back to the number, and looks like no whole number. -/

namespace Scriptlet

namespace Binary64

section Value

variable {d d' : Decimal}

/-- The value of a decimal. -/
def Decimal.value (d : Decimal) : ℚ :=
  d.digits * 10 ^ d.exponent

/-- Decimals of the same value read back to the same word. -/
theorem Decimal.word_congr (same : d.value = d'.value) : d.word = d'.word := by
  -- The value is a quotient of natural numbers, to which the nearest word is taken.
  have quotient (d : Decimal) : d.value =
      (d.digits * 10 ^ d.exponent.toNat : ℕ) / (10 ^ (-d.exponent).toNat : ℕ) := by
    have parts : d.exponent = d.exponent.toNat - (-d.exponent).toNat := by omega
    push_cast
    rw [← zpow_natCast, ← zpow_natCast, mul_div_assoc, ← zpow_sub₀ (by decide), ← parts]
    rfl
  have positive (d : Decimal) : 0 < 10 ^ (-d.exponent).toNat := Nat.pow_pos (by decide)
  rw [quotient, quotient, div_eq_div_iff (Nat.cast_ne_zero.mpr (positive d).ne')
    (Nat.cast_ne_zero.mpr (positive d').ne')] at same
  exact nearest_congr (positive d) (positive d') (by exact_mod_cast same)

end Value

section Reading

variable {text front back digits : List Char}

/-- The value of digits with a point among them or none. -/
def readMantissa (text : List Char) : ℚ :=
  let places := (text.dropWhile (· != '.')).length - 1
  Nat.ofDigitChars 10 (text.filter (· != '.')) 0 / 10 ^ places

/-- The value of digits with a sign in front of them or none. -/
def readWhole : List Char → Int
  | '-' :: digits => -Nat.ofDigitChars 10 digits 0
  | digits => Nat.ofDigitChars 10 digits 0

/-- The value of a text of digits, with a point or an exponent. -/
def read (text : List Char) : ℚ :=
  readMantissa (text.takeWhile (· != 'e')) * 10 ^ readWhole (text.dropWhile (· != 'e')).tail

/-- A text of digits. -/
def Digits (text : List Char) : Prop :=
  ∀ c ∈ text, c.isDigit = true

/-- A text of digits and points. -/
def Mantissa (text : List Char) : Prop :=
  ∀ c ∈ text, c.isDigit = true ∨ c = '.'

/-- A digit is no other character. -/
theorem ne_of_isDigit {c other : Char} (digit : c.isDigit = true)
    (foreign : other.isDigit = false) : (c != other) = true := by
  -- If they were the same, it would be a digit and no digit.
  simp only [bne_iff_ne, ne_eq]
  rintro rfl
  exact absurd digit (Bool.eq_false_iff.mp foreign)

/-- Digits have no point among them. -/
theorem Digits.noPoint (digits : Digits text) : ∀ c ∈ text, (c != '.') = true :=
  -- The point is no digit.
  fun c member => ne_of_isDigit (digits c member) rfl

/-- Digits and points have no exponent behind them. -/
theorem Mantissa.noExponent (mantissa : Mantissa text) : ∀ c ∈ text, (c != 'e') = true := by
  -- Neither a digit nor the point is the letter of the exponent.
  intro c member
  rcases mantissa c member with digit | rfl
  · exact ne_of_isDigit digit rfl
  · rfl

/-- Digits in front of others are digits. -/
theorem Digits.append (before : Digits front) (behind : Digits back) : Digits (front ++ back) :=
  -- Each character stands in one of the two parts.
  fun c member => (List.mem_append.mp member).elim (before c) (behind c)

/-- Zeros are digits. -/
theorem digits_zeros (count : Nat) : Digits (List.replicate count '0') := by
  -- All that is repeated is one digit.
  intro c member
  rw [List.eq_of_mem_replicate member]
  rfl

/-- Digits around a point are a mantissa. -/
theorem Digits.pointed (before : Digits front) (behind : Digits back) :
    Mantissa (front ++ '.' :: back) := by
  -- In front of the point and behind it there are digits only.
  intro c member
  rcases List.mem_append.mp member with first | second
  · exact .inl (before c first)
  · exact (List.mem_cons.mp second).symm.imp_left (behind c)

/-- Digits with a point among them have as many places as there are digits behind the point. -/
theorem readMantissa_pointed (before : Digits front) (behind : Digits back) :
    readMantissa (front ++ '.' :: back) =
      Nat.ofDigitChars 10 (front ++ back) 0 / 10 ^ back.length := by
  -- The only point is the one between the digits, and it is left out of them.
  have places : (front ++ '.' :: back).dropWhile (· != '.') = '.' :: back := by
    rw [List.dropWhile_append_of_pos before.noPoint]
    rfl
  have kept : (front ++ '.' :: back).filter (· != '.') = front ++ back := by
    rw [List.filter_append, List.filter_eq_self.mpr before.noPoint,
      List.filter_cons_of_neg (by decide), List.filter_eq_self.mpr behind.noPoint]
  simp [readMantissa, places, kept]

/-- Digits without a point are a whole number. -/
theorem readMantissa_whole (digits : Digits text) :
    readMantissa text = Nat.ofDigitChars 10 text 0 := by
  -- Without a point there are no places, and dropping the point drops nothing.
  have places : text.dropWhile (· != '.') = [] := List.dropWhile_eq_nil_iff.mpr digits.noPoint
  simp [readMantissa, places, List.filter_eq_self.mpr digits.noPoint]

/-- The digits of a natural number are digits. -/
theorem digits_toDigits (n : Nat) : Digits (Nat.toDigits 10 n) :=
  -- The base is at most ten, so that no letters are needed.
  fun _ member => Nat.isDigit_of_mem_toDigits (by decide) (by decide) member

/-- A whole number that is not negative is written with digits alone. -/
theorem toList_toString_ofNat (n : Nat) :
    (toString (Int.ofNat n)).toList = Nat.toDigits 10 n :=
  -- It is written as the natural number that it is.
  Nat.toList_repr

/-- A negative number has a sign in front of its digits. -/
theorem toList_toString_negSucc (n : Nat) :
    (toString (Int.negSucc n)).toList = '-' :: Nat.toDigits 10 (n + 1) := by
  -- Behind the sign it is written as the natural number above it.
  rw [← Nat.toList_repr]
  exact String.toList_append

/-- A whole number is read as it was written. -/
theorem readWhole_toString (value : Int) : readWhole (toString value).toList = value := by
  cases value with
  | ofNat n =>
    rw [toList_toString_ofNat, readWhole, Nat.ofDigitChars_ten_toDigits]
    · rfl
    · -- The first digit is no sign.
      rintro digits sign
      have digit := digits_toDigits n '-' (by rw [sign]; exact List.mem_cons_self)
      exact absurd digit (by decide)
  | negSucc n =>
    rw [toList_toString_negSucc, readWhole, Nat.ofDigitChars_ten_toDigits]
    rfl

/-- A mantissa alone has no exponent. -/
theorem read_mantissa (mantissa : Mantissa text) : read text = readMantissa text := by
  -- All of the text comes in front of the missing letter.
  have nothing : text.dropWhile (· != 'e') = [] :=
    List.dropWhile_eq_nil_iff.mpr mantissa.noExponent
  have all : text.takeWhile (· != 'e') = text := List.takeWhile_eq_self_iff.mpr mantissa.noExponent
  simp [read, nothing, all, readWhole]

/-- The exponent behind a mantissa is read as it was written. -/
theorem read_exponent (mantissa : Mantissa text) (exponent : Int) :
    read (text ++ 'e' :: (toString exponent).toList) = readMantissa text * 10 ^ exponent := by
  -- The first letter is the one that was written between them.
  have front : (text ++ 'e' :: (toString exponent).toList).takeWhile (· != 'e') = text := by
    rw [List.takeWhile_append_of_pos mantissa.noExponent]
    simp
  have back : (text ++ 'e' :: (toString exponent).toList).dropWhile (· != 'e') =
      'e' :: (toString exponent).toList := by
    rw [List.dropWhile_append_of_pos mantissa.noExponent]
    rfl
  rw [read, front, back, List.tail_cons, readWhole_toString]

end Reading

section Layout

variable {digits : List Char}

/-- The value of digits, the first of which counts a given power of ten. -/
def placed (digits : List Char) (leading : Int) : ℚ :=
  Nat.ofDigitChars 10 digits 0 * 10 ^ (leading + 1 - digits.length)

/-- Zeros behind digits, and a point in front of some of them, place the digits. -/
theorem placed_of_zeros {leading : Int} (zeros places : Nat)
    (distance : leading + 1 - digits.length = zeros - places) :
    ((10 ^ zeros * Nat.ofDigitChars 10 digits 0 : Nat) : ℚ) / 10 ^ places =
      placed digits leading := by
  -- The zeros move the digits up, and the point moves them down.
  rw [placed, distance, zpow_sub₀ (by decide), zpow_natCast, zpow_natCast]
  push_cast
  ring

/-- A point in front of some digits places the digits. -/
theorem placed_of_places {leading : Int} (places : Nat)
    (distance : leading + 1 - digits.length = -places) :
    (Nat.ofDigitChars 10 digits 0 : ℚ) / 10 ^ places = placed digits leading := by
  -- This is the case in which no zeros are written behind the digits.
  rw [← placed_of_zeros 0 places (by omega), Nat.pow_zero, Nat.one_mul]

/-- Zeros in front of digits count nothing. -/
theorem ofDigitChars_zeros_append (count : Nat) (digits : List Char) :
    Nat.ofDigitChars 10 (List.replicate count '0' ++ digits) 0 = Nat.ofDigitChars 10 digits 0 := by
  -- What has been read of zeros is zero, and that is what the digits start from.
  rw [Nat.ofDigitChars_append, Nat.ofDigitChars_replicate_zero, Nat.mul_zero]

/-- Zeros behind digits count as many powers of ten. -/
theorem ofDigitChars_append_zeros (digits : List Char) (count : Nat) :
    Nat.ofDigitChars 10 (digits ++ List.replicate count '0') 0 =
      10 ^ count * Nat.ofDigitChars 10 digits 0 := by
  -- Each zero that is read last multiplies by ten.
  rw [Nat.ofDigitChars_append, Nat.ofDigitChars_replicate_zero]

/-- A number without an exponent is pointed. -/
theorem exists_plain (all : Digits digits) (leading : Int) :
    ∃ front back, plain digits leading = front ++ '.' :: back ∧ Digits front ∧ Digits back ∧
      (Nat.ofDigitChars 10 (front ++ back) 0 : ℚ) / 10 ^ back.length = placed digits leading := by
  -- The point stands in front of the digits, behind them, or among them.
  unfold plain
  split
  · rename_i small
    refine ⟨['0'], List.replicate (-leading - 1).toNat '0' ++ digits, rfl, digits_zeros 1,
      (digits_zeros _).append all, ?_⟩
    have zeros : ['0'] ++ (List.replicate (-leading - 1).toNat '0' ++ digits) =
        List.replicate ((-leading - 1).toNat + 1) '0' ++ digits := rfl
    rw [zeros, ofDigitChars_zeros_append]
    exact placed_of_places _ (by simp only [List.length_append, List.length_replicate]; omega)
  · rename_i large
    extract_lets whole
    split
    · rename_i short
      refine ⟨digits ++ List.replicate (whole - digits.length) '0', ['0'], by simp,
        all.append (digits_zeros _), digits_zeros 1, ?_⟩
      have zeros : digits ++ List.replicate (whole - digits.length) '0' ++ ['0'] =
          digits ++ List.replicate (whole - digits.length + 1) '0' := by
        rw [List.replicate_succ', List.append_assoc]
      rw [zeros, ofDigitChars_append_zeros]
      exact placed_of_zeros _ _ (by simp only [List.length_singleton]; omega)
    · rename_i long
      refine ⟨digits.take whole, digits.drop whole, rfl,
        fun c member => all c (List.mem_of_mem_take member),
        fun c member => all c (List.mem_of_mem_drop member), ?_⟩
      rw [List.take_append_drop]
      exact placed_of_places _ (by rw [List.length_drop]; omega)

/-- A number with an exponent has its digits before it. -/
theorem exists_scientific (all : Digits digits) (leading : Int) :
    ∃ mantissa, scientific digits leading = mantissa ++ 'e' :: (toString leading).toList ∧
      Mantissa mantissa ∧ readMantissa mantissa * 10 ^ leading = placed digits leading := by
  -- A point is written only where a digit follows it.
  match digits with
  | [] =>
    refine ⟨[], rfl, fun c member => absurd member (by simp), ?_⟩
    rw [readMantissa_whole all]
    simp [placed]
  | [only] =>
    refine ⟨[only], rfl, fun c member => .inl (all c member), ?_⟩
    rw [readMantissa_whole all]
    simp [placed]
  | first :: second :: rest =>
    have before : Digits [first] := fun c member => all c (by simp_all)
    have behind : Digits (second :: rest) := fun c member => all c (List.mem_cons_of_mem _ member)
    refine ⟨[first] ++ '.' :: second :: rest, rfl, before.pointed behind, ?_⟩
    rw [readMantissa_pointed before behind]
    have power : leading + 1 - (first :: second :: rest).length =
        leading - (second :: rest).length := by
      simp only [List.length_cons]
      omega
    rw [placed, power, zpow_sub₀ (by decide), zpow_natCast, div_mul_eq_mul_div, mul_div_assoc]
    rfl

end Layout

section Text

variable {d : Decimal} {word word' : Nat}

/-- Only zeros at the end of a number are no significant digits. -/
theorem exists_zeros (n : Nat) :
    ∃ count, Nat.toDigits 10 n = significantDigits n ++ List.replicate count '0' := by
  -- What is dropped from the reversed digits are the zeros in front of the others.
  have zeros : ∀ c ∈ (Nat.toDigits 10 n).reverse.takeWhile (· == '0'), c = '0' := by
    intro c member
    simpa using List.mem_takeWhile_imp member
  have all := List.takeWhile_append_dropWhile (p := (· == '0')) (l := (Nat.toDigits 10 n).reverse)
  rw [List.eq_replicate_of_mem zeros] at all
  refine ⟨((Nat.toDigits 10 n).reverse.takeWhile (· == '0')).length, ?_⟩
  have written := congrArg List.reverse all
  rw [List.reverse_append, List.reverse_replicate, List.reverse_reverse] at written
  exact written.symm

/-- Significant digits are digits. -/
theorem digits_significantDigits (n : Nat) : Digits (significantDigits n) := by
  -- They are the first of all digits.
  obtain ⟨count, written⟩ := exists_zeros n
  intro c member
  exact digits_toDigits n c (by rw [written]; exact List.mem_append_left _ member)

/-- The significant digits of a decimal, placed by its leading digit, are its value. -/
theorem placed_significantDigits (d : Decimal) : placed (significantDigits d.digits)
    ((Nat.toDigits 10 d.digits).length - 1 + d.exponent) = d.value := by
  -- The zeros that are left out count as many powers of ten.
  obtain ⟨count, written⟩ := exists_zeros d.digits
  have digits : d.digits = 10 ^ count * Nat.ofDigitChars 10 (significantDigits d.digits) 0 := by
    rw [← ofDigitChars_append_zeros, ← written, Nat.ofDigitChars_ten_toDigits]
  have power : ((Nat.toDigits 10 d.digits).length : Int) - 1 + d.exponent + 1 -
      (significantDigits d.digits).length = count + d.exponent := by
    rw [written]
    simp only [List.length_append, List.length_replicate]
    omega
  have value : (d.digits : ℚ) =
      10 ^ count * Nat.ofDigitChars 10 (significantDigits d.digits) 0 := by
    exact_mod_cast digits
  rw [placed, power, zpow_add₀ (by decide), zpow_natCast, Decimal.value, value]
  ring

/-- A decimal is written as a mantissa with a point, or as a mantissa with an exponent. -/
theorem Decimal.text_cases (d : Decimal) :
    (∃ front back, d.text = front ++ '.' :: back ∧ Digits front ∧ Digits back ∧
      (Nat.ofDigitChars 10 (front ++ back) 0 : ℚ) / 10 ^ back.length = d.value) ∨
    ∃ mantissa leading, d.text = mantissa ++ 'e' :: (toString (leading : Int)).toList ∧
      Mantissa mantissa ∧ readMantissa mantissa * 10 ^ leading = d.value := by
  -- Which of both layouts is taken depends on the power of ten of the leading digit.
  have all := digits_significantDigits d.digits
  unfold Decimal.text
  extract_lets digits leading
  rw [← placed_significantDigits]
  split
  · exact .inl (exists_plain all leading)
  · obtain ⟨mantissa, rest⟩ := exists_scientific all leading
    exact .inr ⟨mantissa, leading, rest⟩

/-- A decimal is read as it was written. -/
theorem Decimal.read_text (d : Decimal) : read d.text = d.value := by
  -- Both layouts have the value of the decimal.
  rcases d.text_cases with ⟨front, back, text, before, behind, value⟩ |
    ⟨mantissa, leading, text, isMantissa, value⟩
  · rw [text, read_mantissa (before.pointed behind), readMantissa_pointed before behind, value]
  · rw [text, read_exponent isMantissa, value]

/-- The characters that numbers are written with. -/
def Numeral (c : Char) : Prop :=
  c.isDigit = true ∨ c ∈ ['.', 'e', '-']

/-- Whole numbers are written with digits and a sign. -/
theorem numeral_of_mem_toString {value : Int} {c : Char} (member : c ∈ (toString value).toList) :
    Numeral c := by
  -- Only a negative number has a sign.
  cases value with
  | ofNat n =>
    rw [toList_toString_ofNat] at member
    exact .inl (digits_toDigits n c member)
  | negSucc n =>
    rw [toList_toString_negSucc, List.mem_cons] at member
    rcases member with rfl | member
    · exact .inr (by decide)
    · exact .inl (digits_toDigits _ c member)

/-- A mantissa is written with digits and a point. -/
theorem Mantissa.numeral {text : List Char} (mantissa : Mantissa text) {c : Char}
    (member : c ∈ text) : Numeral c :=
  -- The point is one of the characters of numerals.
  (mantissa c member).imp_right fun point => by simp [point]

/-- A decimal is written with digits, a point, an exponent and a sign, and not with digits alone. -/
theorem Decimal.numeral_text (d : Decimal) :
    (∀ c ∈ d.text, Numeral c) ∧ ∃ c ∈ d.text, c.isDigit = false := by
  -- The point or the exponent is there in any case.
  rcases d.text_cases with ⟨front, back, text, before, behind, -⟩ |
    ⟨mantissa, leading, text, isMantissa, -⟩
  · rw [text]
    exact ⟨fun c => (before.pointed behind).numeral, '.', by simp, rfl⟩
  · rw [text]
    refine ⟨fun c member => ?_, 'e', by simp, rfl⟩
    rcases List.mem_append.mp member with first | second
    · exact isMantissa.numeral first
    · rcases List.mem_cons.mp second with rfl | exponent
      · exact .inr (by decide)
      · exact numeral_of_mem_toString exponent

/-- A finite word is written as a decimal that reads back to it. -/
theorem exists_decimal (finite : word < infinityWord) : ∃ d : Decimal, d.word = word ∧
    read (magnitudeText word) = d.value ∧ (∀ c ∈ magnitudeText word, Numeral c) ∧
    ∃ c ∈ magnitudeText word, c.isDigit = false := by
  by_cases zero : word = 0
  · -- Zero has a text of its own, which is that of no decimal with digits.
    subst zero
    have text : magnitudeText 0 = ['0'] ++ '.' :: ['0'] := rfl
    have pointed := (digits_zeros 1).pointed (digits_zeros 1)
    refine ⟨⟨0, 0⟩, ?_, ?_, ?_, ?_⟩
    · rw [Decimal.word, Nat.zero_mul, nearest_zero]
    · rw [text]
      refine (read_mantissa pointed).trans ((readMantissa_pointed (digits_zeros 1)
        (digits_zeros 1)).trans ?_)
      simp [Decimal.value, Nat.ofDigitChars]
    · rw [text]
      exact fun c => pointed.numeral
    · rw [text]
      exact ⟨'.', by decide, rfl⟩
  · have text : magnitudeText word = (shortest word).text := by
      rw [magnitudeText, if_neg zero, if_neg (Nat.ne_of_lt finite)]
    rw [text]
    exact ⟨shortest word, shortest_word (Nat.le_of_lt finite), (shortest word).read_text,
      (shortest word).numeral_text⟩

/-- Infinity is written as no decimal is. -/
theorem foreign_of_infinityWord : 'i' ∈ magnitudeText infinityWord ∧ ¬ Numeral 'i' := by
  -- It is written as a word, and the letter is neither a digit nor one of the other marks.
  unfold Numeral
  decide

/-- Different words are written differently. -/
theorem magnitudeText_inj (bounded : word ≤ infinityWord) (bounded' : word' ≤ infinityWord)
    (same : magnitudeText word = magnitudeText word') : word = word' := by
  -- The text of a finite word has the value of a decimal that reads back to the word.
  obtain ⟨inside, foreign⟩ := foreign_of_infinityWord
  rcases Nat.lt_or_eq_of_le bounded with finite | rfl <;>
    rcases Nat.lt_or_eq_of_le bounded' with finite' | rfl
  · obtain ⟨d, reads, value, -⟩ := exists_decimal finite
    obtain ⟨d', reads', value', -⟩ := exists_decimal finite'
    rw [← reads, ← reads', Decimal.word_congr (value.symm.trans (same ▸ value'))]
  · obtain ⟨-, -, -, numeral, -⟩ := exists_decimal finite
    exact absurd (numeral 'i' (same ▸ inside)) foreign
  · obtain ⟨-, -, -, numeral, -⟩ := exists_decimal finite'
    exact absurd (numeral 'i' (same ▸ inside)) foreign
  · rfl

/-- A word is written on one line, and not with digits alone. -/
theorem magnitudeText_chars (bounded : word ≤ infinityWord) :
    '\n' ∉ magnitudeText word ∧ ∃ c ∈ magnitudeText word, c.isDigit = false := by
  -- A word below infinity is written as a decimal, and infinity by its name.
  rcases Nat.lt_or_eq_of_le bounded with finite | rfl
  · obtain ⟨-, -, -, numeral, foreign⟩ := exists_decimal finite
    refine ⟨fun member => ?_, foreign⟩
    rcases numeral _ member with digit | other
    · exact absurd digit (by decide)
    · exact absurd other (by decide)
  · exact ⟨by decide, 'i', by decide, rfl⟩

end Text

end Binary64

end Scriptlet
