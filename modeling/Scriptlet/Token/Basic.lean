import Scriptlet.Binary64.Text
import Scriptlet.Text.Field
import Scriptlet.Token.Kind

/-! Tokens: a kind, what was read, and the line where it starts; and their listings, one line for
each token, in columns. Numeric literals are exact integers where they fit, and binary64 numbers
otherwise. -/

namespace Scriptlet

/-- The value of a numeric literal. -/
inductive Number where
  /-- A whole number. -/
  | int (value : Int)
  /-- A number that was written with a point, or is too large for a whole number. -/
  | float (value : Binary64)
deriving DecidableEq, Repr

namespace Number

/-- Whole numbers from 2^63 on are kept as binary64 numbers. -/
def intBound : Nat :=
  0x8000000000000000

/-- The value of a literal from its whole digits and, if it has a point, the digits after it. -/
def ofDigits (whole : List Char) : (fraction : Option (List Char)) → Number
  | none =>
    let value := Nat.ofDigitChars 10 whole 0
    if value < intBound then int value else float (Binary64.ofDecimal value 0)
  | some fraction =>
    float (Binary64.ofDecimal (Nat.ofDigitChars 10 (whole ++ fraction) 0) fraction.length)

/-- The text of a numeric value. -/
def text : Number → String
  | int value => toString value
  | float value => value.text

end Number

instance : ToString Number where
  toString := Number.text

/-- What was read for a token. -/
inductive TokenValue where
  /-- The spelling of a word or a mark, or the payload of a string. -/
  | text (content : String)
  /-- The value of a numeric literal. -/
  | number (value : Number)
deriving DecidableEq, Repr

/-- One token of a source. -/
structure Token where
  /-- The sort of token. -/
  kind : TokenKind
  /-- What was read. -/
  value : TokenValue
  /-- The line of the first character, counted from one. -/
  line : Nat
deriving DecidableEq, Repr

namespace Token

/-- A token of a kind whose spelling is fixed. -/
def fixed (kind : TokenKind) (line : Nat) : Token :=
  ⟨kind, .text (kind.spelling?.getD ""), line⟩

/-- A token of a word, which is a keyword or an identifier. -/
def word (spelling : String) (line : Nat) : Token :=
  ⟨.ofWord spelling, .text spelling, line⟩

/-- How diagnostics and listings speak of a token. -/
def description (token : Token) : String :=
  match token.kind, token.value with
  | .identifier, .text content => s!"identifier '{content}'"
  | .string, .text content => s!"string \"{content}\""
  | _, .number value => s!"number {value}"
  | _, .text content => s!"'{content}'"

end Token

instance : ToString Token where
  toString := Token.description

namespace Listing

/-- The column of lines, with the units below each other. -/
def lineColumn : Field where
  width := 4
  precision := none
  alignment := .right
  fill := ' '

/-- The column of kinds. -/
def kindColumn : Field where
  width := 10
  precision := none
  alignment := .left
  fill := ' '

end Listing

/-- The entry of a token: its line, its kind and its description. -/
def Token.entry (token : Token) : String :=
  let line := Listing.lineColumn.fit (toString token.line)
  let kind := Listing.kindColumn.fit token.kind.name
  s!"{line}  {kind} {token.description}"

/-- The entries of some tokens. -/
def listing (tokens : List Token) : List String :=
  tokens.map Token.entry

end Scriptlet
