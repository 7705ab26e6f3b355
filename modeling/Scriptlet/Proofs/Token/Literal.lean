import Mathlib.Data.List.Induction
import Mathlib.Data.Nat.Digits.Defs
import Scriptlet.Proofs.Token.Feed
import Scriptlet.Proofs.Token.Number

/-! Numeric literals are read as far as they go, and stand for exactly what their digits say. -/

namespace Scriptlet

open Scriptlet.Binary64

/-- What digits count in base ten, the last one of them for ones. -/
def decimalValue (digits : List Char) : Nat :=
  Nat.ofDigits 10 (digits.reverse.map fun c => c.toNat - '0'.toNat)

/-- One more digit behind others counts ones, and moves the others up by one place. -/
theorem decimalValue_concat (digits : List Char) (c : Char) :
    decimalValue (digits ++ [c]) = 10 * decimalValue digits + (c.toNat - '0'.toNat) := by
  -- The digits are counted from the last one on.
  rw [decimalValue, List.reverse_concat, List.map_cons, Nat.ofDigits_cons, Nat.add_comm]
  rfl

/-- Digits that are taken up one after another come to what they count. -/
theorem ofDigitChars_eq_decimalValue (digits : List Char) :
    Nat.ofDigitChars 10 digits 0 = decimalValue digits := by
  -- The last digit is taken up when all others have been.
  induction digits using List.reverseRecOn with
  | nil => rfl
  | append_singleton digits c ih =>
    rw [Nat.ofDigitChars_append, ih, decimalValue_concat]
    rfl

namespace Number

/-- The largest whole number is just below the bound. -/
theorem lt_intBound_iff {n : Nat} : n < intBound ↔ n ≤ 2 ^ 63 - 1 := by
  -- The bound is one more than that number.
  have bound : intBound = 2 ^ 63 - 1 + 1 := by decide
  rw [bound, Nat.lt_succ_iff]

/-- Digits without a point stand for what they count, as a whole number if it is small enough. -/
theorem ofDigits_none (digits : List Char) : ofDigits digits none =
    if decimalValue digits ≤ 2 ^ 63 - 1 then int (decimalValue digits)
    else float (ofDecimal (decimalValue digits) 0) := by
  -- The digits are counted in the usual way, and the test is the one against the bound.
  simp only [ofDigits, ofDigitChars_eq_decimalValue, lt_intBound_iff]

/-- Digits with a point among them stand for what they count without it, moved down by as many
places as there are digits behind it. -/
theorem ofDigits_some (digits fraction : List Char) : ofDigits digits (some fraction) =
    float (ofDecimal (decimalValue (digits ++ fraction)) fraction.length) := by
  -- All digits are counted as if there were no point.
  rw [ofDigits, ofDigitChars_eq_decimalValue]

/-- A whole number that some literal stands for is not negative, and small enough. -/
theorem Literal.exists_ofNat {value : Int} (literal : (int value).Literal) :
    ∃ n : Nat, value = n ∧ n < intBound := by
  obtain ⟨whole, fraction, same⟩ := literal
  -- With a point, or from the bound on, a literal stands for no whole number.
  cases fraction with
  | none =>
    simp only [ofDigits] at same
    split at same
    · exact ⟨_, (int.inj same).symm, ‹_›⟩
    · cases same
  | some fraction => cases same

/-- The digits of a small number stand for this number. -/
theorem ofDigits_toDigits {n : Nat} (small : n < intBound) :
    ofDigits (Nat.toDigits 10 n) none = int n := by
  -- Counting the digits of a number gives the number.
  simp only [ofDigits, Nat.ofDigitChars_ten_toDigits, small, if_true]

end Number

/-- The number that a written token holds is one that some literal stands for. -/
theorem Token.Written.literal {token : Token} {number : Number} (written : token.Written)
    (holds : token.value = .number number) : number.Literal := by
  obtain ⟨lexeme, next, line, -, own⟩ := written
  -- Words, strings and marks hold text.
  cases lexeme with
  | number whole fraction =>
    obtain rfl := Option.some.inj own
    exact ⟨whole, fraction, TokenValue.number.inj holds⟩
  | word _ | string _ | mark _ =>
    obtain rfl := Option.some.inj own
    cases holds
  | _ => cases own

namespace Lexer

/-- A number is read with one step, which moves the lexer behind it and changes nothing else. -/
theorem next_of_number {l : Lexer} {whole rest : List Char} {fraction : Option (List Char)}
    (normal : l.mode = .normal) (fits : (Lexeme.number whole fraction).Fits rest.head?)
    (stands : l.rest = (Lexeme.number whole fraction).text ++ rest) :
    l.next = (some ⟨.number, .number (.ofDigits whole fraction), l.line⟩, { l with rest }) := by
  -- Neither digits nor the point end a line.
  have line : lineEnds (Lexeme.number whole fraction).text = 0 :=
    lineEnds_eq_zero (first_of_number fits).2
  have behind : l.behind (.number whole fraction) rest = { l with rest } := by
    simp only [Lexer.behind, Lexeme.defect?, line, Nat.add_zero]
  exact (next_lexeme fits normal stands).trans (congrArg (Prod.mk _) behind)

end Lexer

/-- A whole number that some literal stands for is read again from its own text. -/
theorem tokenizeWithErrors_int {value : Int} (literal : (Number.int value).Literal) :
    tokenizeWithErrors (Number.text (.int value)) =
      ([⟨.number, .number (.int value), 1⟩], []) := by
  obtain ⟨n, rfl, small⟩ := literal.exists_ofNat
  -- The text is a single number, with nothing behind it.
  have fitting : Lexeme.Fitting [.number (Nat.toDigits 10 n) none] :=
    ⟨⟨Nat.toDigits_ne_nil, digits_toDigits n, nofun, nofun⟩, trivial⟩
  have joined : Lexeme.joined [.number (Nat.toDigits 10 n) none] =
      (Number.text (.int n)).toList :=
    (List.append_nil _).trans (toList_toString_ofNat n).symm
  rw [tokenizeWithErrors_of_fitting fitting joined, Lexeme.tokens_cons, Lexeme.defects_cons,
    Lexeme.token?, Number.ofDigits_toDigits small]
  rfl

/-- Number literals are exact, and as long as the text allows. Digits without a point behind them
are one token, which holds what they count as long as that is at most 2^63 - 1, and the double
nearest to it from there on; with a point, the token goes on to the end of the digits behind it,
however few, and holds the double nearest to the whole. Nothing is reported, and the lexer stands
right behind the literal. So each whole number that any source has a token of is read again from
the text that it is shown as. -/
theorem next_digits :
    (∀ (l : Lexer) (digits rest : List Char), l.mode = .normal → digits ≠ [] → Digits digits →
      (∀ c, rest.head? = some c → c.isDigit = false) → l.rest = digits ++ rest →
      (rest.head? ≠ some '.' →
        l.next = (some ⟨.number, .number (if decimalValue digits ≤ 2 ^ 63 - 1
          then .int (decimalValue digits) else .float (ofDecimal (decimalValue digits) 0)),
          l.line⟩, { l with rest })) ∧
      ∀ fraction behind, Digits fraction → (∀ c, behind.head? = some c → c.isDigit = false) →
        rest = '.' :: (fraction ++ behind) →
        l.next = (some ⟨.number, .number (.float
          (ofDecimal (decimalValue (digits ++ fraction)) fraction.length)), l.line⟩,
          { l with rest := behind })) ∧
    ∀ (source : String) (token : Token) (value : Int), token ∈ tokenize source →
      token.value = .number (.int value) →
      tokenizeWithErrors (Number.text (.int value)) =
        ([⟨.number, .number (.int value), 1⟩], []) := by
  -- Either form is a lexeme that fits, whose value was given above; a whole
  -- number in a token is never negative.
  refine ⟨fun l digits rest normal nonempty whole stop stands => ⟨fun noPoint => ?_, ?_⟩, ?_⟩
  · have read := Lexer.next_of_number normal
      (show (Lexeme.number digits none).Fits rest.head? from
        ⟨nonempty, whole, noPoint, stop⟩) stands
    rwa [Number.ofDigits_none] at read
  · rintro fraction behind decimals ends rfl
    have read := Lexer.next_of_number normal
      (show (Lexeme.number digits (some fraction)).Fits behind.head? from
        ⟨nonempty, whole, decimals, ends⟩)
      (stands.trans (List.append_assoc digits ('.' :: fraction) behind).symm)
    rwa [Number.ofDigits_some] at read
  · intro source token value member holds
    have written : token.Written :=
      Lexer.written_of_mem_drain (l := Lexer.ofSource source) rfl member
    exact tokenizeWithErrors_int (written.literal holds)

/-- The largest whole number may have zeros in front of it, and one more than that with a point
behind it is no whole number; a second point is left alone. -/
theorem next_digits_bound :
    ((Lexer.ofSource "009223372036854775807;").next =
      (some ⟨.number, .number (.int 9223372036854775807), 1⟩,
        { Lexer.ofSource "009223372036854775807;" with rest := [';'] })) ∧
    ((Lexer.ofSource "9223372036854775808..").next =
      (some ⟨.number, .number (.float (ofDecimal 9223372036854775808 0)), 1⟩,
        { Lexer.ofSource "9223372036854775808.." with rest := ['.'] })) ∧
    tokenizeWithErrors (Number.text (.int 7)) = ([⟨.number, .number (.int 7), 1⟩], []) := by
  -- What stands behind the digits is a semicolon, or a point with no digit behind it.
  have digits (text : List Char) (all : text.all Char.isDigit = true) : Digits text :=
    List.all_eq_true.mp all
  refine ⟨?_, ?_, ?_⟩
  · exact (next_digits.1 _ "009223372036854775807".toList [';'] rfl (by decide)
      (digits _ (by decide)) (by rintro _ ⟨⟩; rfl) rfl).1 (by decide)
  · exact (next_digits.1 _ "9223372036854775808".toList ['.', '.'] rfl (by decide)
      (digits _ (by decide)) (by rintro _ ⟨⟩; rfl) rfl).2 [] ['.'] nofun (by rintro _ ⟨⟩; rfl) rfl
  · exact next_digits.2 "x = 07;" ⟨.number, .number (.int 7), 1⟩ 7 (by decide +kernel) rfl

end Scriptlet
