import Scriptlet.Proofs.Token.Thinning
import Scriptlet.Tree.Basic

/-! Trees written as source text: the lexemes of a tree, with parentheses only where the tree asks
for them, and one space between two lexemes. -/

namespace Scriptlet

namespace Lexeme

/-- The lexeme of a keyword. -/
def keyword (kind : TokenKind) : Lexeme :=
  .word (kind.spelling?.getD "").toList

/-- Lexemes in parentheses if what they mean binds less strongly than is asked for. -/
def enclosedBelow (minimum strength : Nat) (lexemes : List Lexeme) : List Lexeme :=
  if strength < minimum then .mark .leftParen :: (lexemes ++ [.mark .rightParen]) else lexemes

/-- Lexemes in braces. -/
def braced (lexemes : List Lexeme) : List Lexeme :=
  .mark .leftBrace :: (lexemes ++ [.mark .rightBrace])

/-- Lexemes with a space between each two of them. -/
def spaced (lexemes : List Lexeme) : List Lexeme :=
  lexemes.intersperse (.blank ' ')

/-- Names with commas between them. -/
def names : List String → List Lexeme
  | [] => []
  | [name] => [.word name.toList]
  | name :: more => .word name.toList :: .mark .comma :: names more

end Lexeme

/-- How binary64 numbers are written: the digits in front of the point, and those behind it. -/
abbrev Decimals :=
  Binary64 → List Char × List Char

/-- How strongly an expression binds: as its operator between two operands, or more strongly than
all of these. -/
def Expr.strength : Expr → Nat
  | .binary operator _ _ => operator.precedence
  | .identifier _ | .number _ | .string _ | .boolean _ | .unary _ _ | .call _ _ => 7

section Written

variable (decimals : Decimals)

/-- The lexeme of a number. -/
def Number.lexeme : Number → Lexeme
  | .int value => .number (Nat.toDigits 10 value.toNat) none
  | .float value => .number (decimals value).1 (some (decimals value).2)

mutual

/-- The lexemes of an expression. Parentheses stand around a left operand that binds less strongly
than its operator, a right operand that binds no more strongly, and two operands behind a sign. -/
def Expr.lexemes : Expr → List Lexeme
  | .identifier name => [.word name.toList]
  | .number value => [value.lexeme decimals]
  | .string payload => [.string payload.toList]
  | .boolean true => [.keyword .trueWord]
  | .boolean false => [.keyword .falseWord]
  | .unary operator operand =>
    .mark operator.kind :: Lexeme.enclosedBelow 7 operand.strength operand.lexemes
  | .binary operator left right =>
    Lexeme.enclosedBelow operator.precedence left.strength left.lexemes ++
      .mark operator.kind ::
        Lexeme.enclosedBelow (operator.precedence + 1) right.strength right.lexemes
  | .call callee arguments =>
    .word callee.toList :: .mark .leftParen ::
      (Expr.allLexemes arguments ++ [.mark .rightParen])

/-- The lexemes of expressions with commas between them. -/
def Expr.allLexemes : List Expr → List Lexeme
  | [] => []
  | [e] => e.lexemes
  | e :: more => e.lexemes ++ .mark .comma :: Expr.allLexemes more

end

mutual

/-- The lexemes of an item. -/
def Item.lexemes : Item → List Lexeme
  | .ifThen _ condition consequent =>
    .keyword .ifWord :: .mark .leftParen :: (condition.lexemes decimals ++
      .mark .rightParen :: Lexeme.braced (Item.allLexemes consequent))
  | .ifThenElse _ condition consequent alternative =>
    .keyword .ifWord :: .mark .leftParen :: (condition.lexemes decimals ++
      .mark .rightParen :: (Lexeme.braced (Item.allLexemes consequent) ++
        .keyword .elseWord :: Lexeme.braced (Item.allLexemes alternative)))
  | .assignment _ name value =>
    .word name.toList :: .mark .assign :: (value.lexemes decimals ++ [.mark .semicolon])
  | .returned _ value =>
    .keyword .returnWord :: (value.lexemes decimals ++ [.mark .semicolon])
  | .declaration _ name value =>
    .keyword .varWord :: .word name.toList :: .mark .assign ::
      (value.lexemes decimals ++ [.mark .semicolon])
  | .expression _ value => value.lexemes decimals ++ [.mark .semicolon]
  | .function _ (some name) parameters body =>
    .keyword .functionWord :: .word name.toList :: .mark .leftParen ::
      (Lexeme.names parameters ++ .mark .rightParen :: Lexeme.braced (Item.allLexemes body))
  | .function _ none parameters body =>
    .keyword .functionWord :: .mark .leftParen ::
      (Lexeme.names parameters ++ .mark .rightParen :: Lexeme.braced (Item.allLexemes body))

/-- The lexemes of items one after another. -/
def Item.allLexemes : List Item → List Lexeme
  | [] => []
  | item :: items => item.lexemes ++ Item.allLexemes items

end

/-- A program as source text, with a space between each two of its lexemes. -/
def Program.written (program : Program) : String :=
  String.ofList (Lexeme.joined (Lexeme.spaced (Item.allLexemes decimals program.items)))

end Written

end Scriptlet
