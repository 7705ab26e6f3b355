import Scriptlet.Binary64.Shortest

/-! The text of a binary64 number: which digits are shown, and where the point stands. -/

namespace Scriptlet

namespace Binary64

/-- The powers of ten of the leading digit for which a number is written without an exponent. -/
structure PlainRange where
  /-- The lowest such power. -/
  lowest : Int
  /-- The first power above the range. -/
  beyond : Int

/-- Numbers from 10^-4 up to 10^16 are written without an exponent. -/
def plainRange : PlainRange where
  lowest := -4
  beyond := 16

/-- The digits of a natural number without the zeros at its end. -/
def significantDigits (n : Nat) : List Char :=
  ((Nat.toDigits 10 n).reverse.dropWhile (· == '0')).reverse

/-- Digits written without an exponent, with at least one digit on either side of the point. -/
def plain (digits : List Char) (leading : Int) : List Char :=
  if leading < 0 then
    ['0', '.'] ++ List.replicate (-leading - 1).toNat '0' ++ digits
  else
    let whole := leading.toNat + 1
    if digits.length ≤ whole then
      digits ++ List.replicate (whole - digits.length) '0' ++ ['.', '0']
    else
      digits.take whole ++ '.' :: digits.drop whole

/-- Digits written with an exponent, and with a point only where a digit follows it. -/
def scientific (digits : List Char) (leading : Int) : List Char :=
  let mantissa := match digits with
    | first :: second :: rest => first :: '.' :: second :: rest
    | short => short
  mantissa ++ 'e' :: (toString leading).toList

/-- The text of a decimal whose digits are not all zero. -/
def Decimal.text (d : Decimal) : List Char :=
  let digits := significantDigits d.digits
  let leading := (Nat.toDigits 10 d.digits).length - 1 + d.exponent
  if plainRange.lowest ≤ leading ∧ leading < plainRange.beyond then plain digits leading
  else scientific digits leading

/-- The text of a magnitude word. -/
def magnitudeText (word : Nat) : List Char :=
  if word = 0 then ['0', '.', '0']
  else if word = infinityWord then ['i', 'n', 'f']
  else (shortest word).text

/-- The text of a number: its sign if it is set, and the fewest digits that read back. -/
def text (x : Binary64) : String :=
  if x.isNaN then "NaN"
  else String.ofList ((if x.isNegative then ['-'] else []) ++ magnitudeText x.magnitude)

end Binary64

instance : ToString Binary64 where
  toString := Binary64.text

end Scriptlet
