import Scriptlet.Token.Kind

/-! The operators of expressions, their spellings and how strongly they bind. -/

namespace Scriptlet

/-- An operator before one operand. -/
inductive UnaryOperator where
  /-- Logical negation, `!`. -/
  | not
  /-- Arithmetic negation, `-`. -/
  | negate
deriving DecidableEq, Repr

namespace UnaryOperator

/-- The kind of token that spells an operator. -/
def kind : UnaryOperator → TokenKind
  | .not => .not
  | .negate => .minus

/-- The operator that a token of a given kind spells before an operand. -/
def ofKind? : TokenKind → Option UnaryOperator
  | .not => some .not
  | .minus => some .negate
  | _ => none

/-- The operator that spells `kind` is found again from it. -/
@[simp] theorem ofKind?_kind (operator : UnaryOperator) :
    ofKind? operator.kind = some operator := by
  -- Each operator has a kind of its own.
  cases operator <;> rfl

end UnaryOperator

/-- An operator between two operands. -/
inductive BinaryOperator where
  /-- Logical disjunction, `||`. -/
  | or
  /-- Logical conjunction, `&&`. -/
  | and
  /-- Equality, `==`. -/
  | equal
  /-- Inequality, `!=`. -/
  | notEqual
  /-- Strictly below, `<`. -/
  | less
  /-- Strictly above, `>`. -/
  | greater
  /-- At most, `<=`. -/
  | lessEqual
  /-- At least, `>=`. -/
  | greaterEqual
  /-- Addition, `+`. -/
  | add
  /-- Subtraction, `-`. -/
  | subtract
  /-- Multiplication, `*`. -/
  | multiply
  /-- Division, `/`. -/
  | divide
deriving DecidableEq, Repr

namespace BinaryOperator

/-- Every operator, the weakest first. -/
def all : List BinaryOperator :=
  [.or, .and, .equal, .notEqual, .less, .greater, .lessEqual, .greaterEqual, .add, .subtract,
    .multiply, .divide]

/-- The spelling of an operator. -/
def symbol : BinaryOperator → String
  | .or => "||"
  | .and => "&&"
  | .equal => "=="
  | .notEqual => "!="
  | .less => "<"
  | .greater => ">"
  | .lessEqual => "<="
  | .greaterEqual => ">="
  | .add => "+"
  | .subtract => "-"
  | .multiply => "*"
  | .divide => "/"

/-- The operator with a given spelling. -/
def ofSymbol? (symbol : String) : Option BinaryOperator :=
  all.find? fun operator => operator.symbol == symbol

/-- How strongly an operator binds; of equally strong ones the left one binds first. -/
def precedence : BinaryOperator → Nat
  | .or => 1
  | .and => 2
  | .equal | .notEqual => 3
  | .less | .greater | .lessEqual | .greaterEqual => 4
  | .add | .subtract => 5
  | .multiply | .divide => 6

/-- The precedence of the weakest operator. -/
def weakest : Nat :=
  1

/-- The kind of token that spells an operator. -/
def kind : BinaryOperator → TokenKind
  | .or => .or
  | .and => .and
  | .equal => .equal
  | .notEqual => .notEqual
  | .less => .less
  | .greater => .greater
  | .lessEqual => .lessEqual
  | .greaterEqual => .greaterEqual
  | .add => .plus
  | .subtract => .minus
  | .multiply => .times
  | .divide => .divide

/-- The operator that a token of a given kind spells between operands. -/
def ofKind? : TokenKind → Option BinaryOperator
  | .or => some .or
  | .and => some .and
  | .equal => some .equal
  | .notEqual => some .notEqual
  | .less => some .less
  | .greater => some .greater
  | .lessEqual => some .lessEqual
  | .greaterEqual => some .greaterEqual
  | .plus => some .add
  | .minus => some .subtract
  | .times => some .multiply
  | .divide => some .divide
  | _ => none

/-- The operator that spells `kind` is found again from it. -/
@[simp] theorem ofKind?_kind (operator : BinaryOperator) :
    ofKind? operator.kind = some operator := by
  -- Each operator has a kind of its own.
  cases operator <;> rfl

/-- No operator is weaker than the weakest. -/
theorem weakest_le_precedence (operator : BinaryOperator) : weakest ≤ operator.precedence := by
  -- Precedences count from one.
  cases operator <;> decide

/-- No operator between two operands is stronger than multiplication. -/
theorem precedence_le_six (operator : BinaryOperator) : operator.precedence ≤ 6 := by
  -- Precedences count up to six.
  cases operator <;> decide

end BinaryOperator

instance : ToString BinaryOperator where
  toString := BinaryOperator.symbol

end Scriptlet
