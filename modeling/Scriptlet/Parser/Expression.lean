import Scriptlet.Parser.State
import Scriptlet.Tree.Basic

/-! Reading expressions. Readers that call each other take each other as arguments, and the
operand ties the knot: each operand inside another one stands behind at least one more token, so a
bound on the unread tokens bounds how deep they lie. -/

namespace Scriptlet

namespace Parser

/-- Reads one or more expressions separated by commas. -/
def listOf (expression : Parse Expr) : Nat → Parse (List Expr)
  | 0 => return [← expression]
  | bound + 1 => do
    let first ← expression
    if ← accept .comma then return first :: (← listOf expression bound) else return [first]

/-- Reads the arguments of a call up to its closing parenthesis. -/
def argumentsOf (expression : Parse Expr) (bound : Nat) : Parse (List Expr) := do
  if (← peek) = some .rightParen then return [] else listOf expression bound

/-- Reads what may follow a name: a parenthesis makes it a call. -/
def namedBy (expression : Parse Expr) (bound : Nat) (name : String) : Parse Expr := do
  if ← accept .leftParen then
    let arguments ← argumentsOf expression bound
    expect .rightParen "after call arguments"
    return .call name arguments
  else return .identifier name

/-- Reads a numeric or a string literal. -/
def literal : Parse Expr := do
  match (← advance).map Token.value with
  | some (.number value) => return .number value
  | some (.text payload) => return .string payload
  | none => unexpected "expression"

/-- Reads an operand that no operator stands before. -/
def primaryOf (expression : Parse Expr) (bound : Nat) : Parse Expr := do
  match ← peek with
  | some .identifier => namedBy expression bound (← name "in expression")
  | some .number | some .string => literal
  | some .trueWord =>
    skip
    return .boolean true
  | some .falseWord =>
    skip
    return .boolean false
  | some .leftParen =>
    skip
    let inner ← expression
    expect .rightParen "after expression"
    return inner
  | _ => unexpected "expression"

/-- Reads the operators that follow an operand and bind at least as strongly as `minimum`. -/
def climb (operand : Parse Expr) : (bound minimum : Nat) → (left : Expr) → Parse Expr
  | 0, _, left => return left
  | bound + 1, minimum, left => do
    match (← peek).bind BinaryOperator.ofKind? with
    | none => return left
    | some operator =>
      if operator.precedence < minimum then return left
      else
        -- What binds more strongly than the operator belongs to its right side.
        skip
        let right ← climb operand bound (operator.precedence + 1) (← operand)
        climb operand bound minimum (.binary operator left right)

/-- Reads an operand and the operators that follow it, as far as they bind strongly enough. -/
def chainOf (operand : Parse Expr) (bound minimum : Nat) : Parse Expr := do
  climb operand bound minimum (← operand)

/-- Reads a whole expression, one level deeper. -/
def expressionOf (operand : Parse Expr) (bound : Nat) : Parse Expr :=
  nested (chainOf operand bound BinaryOperator.weakest)

/-- Reads an operand with the operators before it, given the reader of operands inside it. -/
def operandOf (inner : Parse Expr) (bound : Nat) : Parse Expr := do
  match (← peek).bind UnaryOperator.ofKind? with
  | some operator =>
    skip
    return .unary operator (← nested inner)
  | none => primaryOf (expressionOf inner bound) bound

/-- Reads an operand of at most so many tokens. -/
def operandWithin : Nat → Parse Expr
  | 0 => unexpected "expression"
  | bound + 1 => fun p => operandOf (operandWithin bound) bound p

/-- Reads the operators that follow an operand, of at most so many tokens. -/
def climbWithin (bound minimum : Nat) (left : Expr) : Parse Expr :=
  climb (operandWithin bound) bound minimum left

/-- Reads an expression of at most so many tokens. -/
def expressionWithin (bound : Nat) : Parse Expr :=
  expressionOf (operandWithin bound) bound

/-- Reads what may follow a name, of at most so many tokens. -/
def namedWithin (bound : Nat) (name : String) : Parse Expr :=
  namedBy (expressionWithin bound) bound name

/-- Reads an operand. -/
def operand : Parse Expr :=
  bounded operandWithin

/-- Reads an operand and the operators that follow it and bind at least as strongly as `minimum`. -/
def chain (minimum : Nat) : Parse Expr :=
  bounded fun bound => chainOf (operandWithin bound) bound minimum

/-- Reads an expression, one level deeper. -/
def expression : Parse Expr :=
  bounded expressionWithin

end Parser

end Scriptlet
