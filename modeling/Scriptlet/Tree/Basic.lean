import Scriptlet.Token.Basic
import Scriptlet.Tree.Operator

/-! Trees of expressions, items and programs. -/

namespace Scriptlet

/-- An expression; parentheses leave no trace in it. -/
inductive Expr where
  /-- A variable. -/
  | identifier (name : String)
  /-- A numeric literal. -/
  | number (value : Number)
  /-- A string literal, with its escapes as they are written. -/
  | string (payload : String)
  /-- A truth value. -/
  | boolean (value : Bool)
  /-- An operator and its operand. -/
  | unary (operator : UnaryOperator) (operand : Expr)
  /-- An operator between two operands. -/
  | binary (operator : BinaryOperator) (left right : Expr)
  /-- A call of a named function. -/
  | call (callee : String) (arguments : List Expr)
deriving Repr

/-- An element of a program or of a block, with the line of its first token. -/
inductive Item where
  /-- A conditional without an alternative. -/
  | ifThen (line : Nat) (condition : Expr) (consequent : List Item)
  /-- A conditional with an alternative. -/
  | ifThenElse (line : Nat) (condition : Expr) (consequent alternative : List Item)
  /-- An assignment to a variable. -/
  | assignment (line : Nat) (name : String) (value : Expr)
  /-- A return from a function. -/
  | returned (line : Nat) (value : Expr)
  /-- The declaration of a variable. -/
  | declaration (line : Nat) (name : String) (value : Expr)
  /-- An expression that stands alone. -/
  | expression (line : Nat) (value : Expr)
  /-- The declaration of a function, which need not have a name; parameters may repeat. -/
  | function (line : Nat) (name : Option String) (parameters : List String) (body : List Item)
deriving Repr

namespace Item

/-- The line of the first token. -/
def line : Item → Nat
  | .ifThen line _ _ | .ifThenElse line _ _ _ | .assignment line _ _ | .returned line _
  | .declaration line _ _ | .expression line _ | .function line _ _ _ => line

end Item

/-- The items of a whole source. -/
structure Program where
  /-- The items at the top, in the order of the source. -/
  items : List Item
deriving Repr

namespace Program

/-- How many items stand at the top. -/
def size (program : Program) : Nat :=
  program.items.length

/-- There are no items. -/
def isEmpty (program : Program) : Bool :=
  program.items.isEmpty

end Program

end Scriptlet
