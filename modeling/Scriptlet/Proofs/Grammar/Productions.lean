import Scriptlet.Proofs.Grammar.Phrase
import Scriptlet.Tree.Basic

/-! The grammar of programs, one production after another, with the tree that each one denotes and
how deep its expressions, operands and blocks lie inside each other. -/

namespace Scriptlet

namespace Grammar

/-- One or more parameter names, separated by commas. -/
inductive Names : List Token → List String → Nat → Prop where
  | last {token : Token} {name : String} (kind : token.kind = .identifier)
      (value : token.value = .text name) : Names [token] [name] 0
  | more {token comma : Token} {name : String} {tokens : List Token} {names : List String} {n : Nat}
      (kind : token.kind = .identifier) (value : token.value = .text name)
      (separated : comma.kind = .comma) (rest : Names tokens names n) :
      Names (token :: comma :: tokens) (name :: names) n

/-- `optParams`: parameter names, or none. -/
inductive Parameters : List Token → List String → Nat → Prop where
  | none : Parameters [] [] 0
  | some {tokens : List Token} {names : List String} {n : Nat} (inner : Names tokens names n) :
      Parameters tokens names n

/-- The tokens of the operators before an operand. -/
inductive Sign : TokenKind → UnaryOperator → Prop where
  | not : Sign .not .not
  | minus : Sign .minus .negate

/-- The tokens of the operators between operands, by the level on which they stand. -/
inductive Joint : Nat → TokenKind → BinaryOperator → Prop where
  | or : Joint 1 .or .or
  | and : Joint 2 .and .and
  | equal : Joint 3 .equal .equal
  | notEqual : Joint 3 .notEqual .notEqual
  | less : Joint 4 .less .less
  | greater : Joint 4 .greater .greater
  | lessEqual : Joint 4 .lessEqual .lessEqual
  | greaterEqual : Joint 4 .greaterEqual .greaterEqual
  | plus : Joint 5 .plus .add
  | minus : Joint 5 .minus .subtract
  | times : Joint 6 .times .multiply
  | divide : Joint 6 .divide .divide

mutual

/-- `expr`: an expression, which lies one level deeper than what it stands in. -/
inductive Expression : List Token → Expr → Nat → Prop where
  | intro {tokens : List Token} {e : Expr} {n : Nat} (inner : Level 1 tokens e n) :
      Expression tokens e (n + 1)

/-- `orExpr`, `andExpr`, `eqExpr`, `relExpr`, `addExpr` and `mulExpr` are the levels one to six: an
expression of the next level, and any number of operators of this precedence behind it. -/
inductive Level : Nat → List Token → Expr → Nat → Prop where
  | chain {strength : Nat} {front back : List Token} {left e : Expr} {n m : Nat}
      (weak : strength ≤ 6) (head : Level (strength + 1) front left n)
      (tail : Tail strength left back e m) : Level strength (front ++ back) e (max n m)
  | operand {tokens : List Token} {e : Expr} {n : Nat} (inner : Unary tokens e n) :
      Level 7 tokens e n

/-- Operators of one precedence with their right sides, folded to the left. -/
inductive Tail : Nat → Expr → List Token → Expr → Nat → Prop where
  | done {strength : Nat} {left : Expr} : Tail strength left [] left 0
  | more {strength : Nat} {left right e : Expr} {operator : BinaryOperator} {mark : Token}
      {front back : List Token} {n m : Nat} (joint : Joint strength mark.kind operator)
      (operand : Level (strength + 1) front right n)
      (rest : Tail strength (.binary operator left right) back e m) :
      Tail strength left (mark :: (front ++ back)) e (max n m)

/-- `unary`: an operator before an operand, which lies one level deeper, or a primary expression. -/
inductive Unary : List Token → Expr → Nat → Prop where
  | operator {operator : UnaryOperator} {mark : Token} {tokens : List Token} {e : Expr} {n : Nat}
      (sign : Sign mark.kind operator) (inner : Unary tokens e n) :
      Unary (mark :: tokens) (.unary operator e) (n + 1)
  | primary {tokens : List Token} {e : Expr} {n : Nat} (inner : Primary tokens e n) :
      Unary tokens e n

/-- `primary`: a variable, a call, a literal, or an expression in parentheses. -/
inductive Primary : List Token → Expr → Nat → Prop where
  | identifier {token : Token} {name : String} (kind : token.kind = .identifier)
      (value : token.value = .text name) : Primary [token] (.identifier name) 0
  | call {token opening closing : Token} {name : String} {tokens : List Token}
      {arguments : List Expr} {n : Nat} (kind : token.kind = .identifier)
      (value : token.value = .text name) (opened : opening.kind = .leftParen)
      (inner : Arguments tokens arguments n) (closed : closing.kind = .rightParen) :
      Primary (token :: opening :: (tokens ++ [closing])) (.call name arguments) n
  | number {token : Token} {number : Number} (kind : token.kind = .number)
      (value : token.value = .number number) : Primary [token] (.number number) 0
  | string {token : Token} {payload : String} (kind : token.kind = .string)
      (value : token.value = .text payload) : Primary [token] (.string payload) 0
  | trueWord {token : Token} (kind : token.kind = .trueWord) : Primary [token] (.boolean true) 0
  | falseWord {token : Token} (kind : token.kind = .falseWord) :
      Primary [token] (.boolean false) 0
  | parenthesized {opening closing : Token} {tokens : List Token} {e : Expr} {n : Nat}
      (opened : opening.kind = .leftParen) (inner : Expression tokens e n)
      (closed : closing.kind = .rightParen) : Primary (opening :: (tokens ++ [closing])) e n

/-- `optArgs`: expressions separated by commas, or none. -/
inductive Arguments : List Token → List Expr → Nat → Prop where
  | none : Arguments [] [] 0
  | some {tokens : List Token} {expressions : List Expr} {n : Nat}
      (inner : Expressions tokens expressions n) : Arguments tokens expressions n

/-- One or more expressions, separated by commas. -/
inductive Expressions : List Token → List Expr → Nat → Prop where
  | last {tokens : List Token} {e : Expr} {n : Nat} (only : Expression tokens e n) :
      Expressions tokens [e] n
  | more {comma : Token} {front back : List Token} {e : Expr} {expressions : List Expr} {n m : Nat}
      (first : Expression front e n) (separated : comma.kind = .comma)
      (rest : Expressions back expressions m) :
      Expressions (front ++ comma :: back) (e :: expressions) (max n m)

end

mutual

/-- Any number of items, one after another. -/
inductive Items : List Token → List Item → Nat → Prop where
  | none : Items [] [] 0
  | more {front back : List Token} {item : Item} {items : List Item} {n m : Nat}
      (first : TopStatement front item n) (rest : Items back items m) :
      Items (front ++ back) (item :: items) (max n m)

/-- `topStmt`: a statement, or the declaration of a function with or without a name. -/
inductive TopStatement : List Token → Item → Nat → Prop where
  | statement {tokens : List Token} {item : Item} {n : Nat} (inner : Statement tokens item n) :
      TopStatement tokens item n
  | function {tokens : List Token} {item : Item} {n : Nat} (inner : Function tokens item n) :
      TopStatement tokens item n
  | lambda {tokens : List Token} {item : Item} {n : Nat} (inner : Lambda tokens item n) :
      TopStatement tokens item n

/-- `functionDecl`: the declaration of a function with a name. -/
inductive Function : List Token → Item → Nat → Prop where
  | intro {keyword token opening closing : Token} {name : String} {front back : List Token}
      {names : List String} {items : List Item} {n m : Nat} (led : keyword.kind = .functionWord)
      (kind : token.kind = .identifier) (value : token.value = .text name)
      (opened : opening.kind = .leftParen) (parameters : Parameters front names n)
      (closed : closing.kind = .rightParen) (body : Block back items m) :
      Function (keyword :: token :: opening :: (front ++ closing :: back))
        (.function keyword.line (some name) names items) (max n m)

/-- `lambdaDecl`: the declaration of a function without a name. -/
inductive Lambda : List Token → Item → Nat → Prop where
  | intro {keyword opening closing : Token} {front back : List Token} {names : List String}
      {items : List Item} {n m : Nat} (led : keyword.kind = .functionWord)
      (opened : opening.kind = .leftParen) (parameters : Parameters front names n)
      (closed : closing.kind = .rightParen) (body : Block back items m) :
      Lambda (keyword :: opening :: (front ++ closing :: back))
        (.function keyword.line none names items) (max n m)

/-- `block`: items in braces, which lie one level deeper than what the block stands in. -/
inductive Block : List Token → List Item → Nat → Prop where
  | intro {opening closing : Token} {tokens : List Token} {items : List Item} {n : Nat}
      (opened : opening.kind = .leftBrace) (inner : Items tokens items n)
      (closed : closing.kind = .rightBrace) : Block (opening :: (tokens ++ [closing])) items (n + 1)

/-- `stmt`: a statement. Of an expression that stands alone and begins with an identifier, the
outermost level does not count. -/
inductive Statement : List Token → Item → Nat → Prop where
  | ifThen {keyword opening closing : Token} {front back : List Token} {condition : Expr}
      {consequent : List Item} {n m : Nat} (led : keyword.kind = .ifWord)
      (opened : opening.kind = .leftParen) (test : Expression front condition n)
      (closed : closing.kind = .rightParen) (body : Block back consequent m) :
      Statement (keyword :: opening :: (front ++ closing :: back))
        (.ifThen keyword.line condition consequent) (max n m)
  | ifThenElse {keyword opening closing otherwise : Token} {front middle back : List Token}
      {condition : Expr} {consequent alternative : List Item} {n m k : Nat}
      (led : keyword.kind = .ifWord) (opened : opening.kind = .leftParen)
      (test : Expression front condition n) (closed : closing.kind = .rightParen)
      (body : Block middle consequent m) (continued : otherwise.kind = .elseWord)
      (other : Block back alternative k) :
      Statement (keyword :: opening :: (front ++ closing :: (middle ++ otherwise :: back)))
        (.ifThenElse keyword.line condition consequent alternative) (max n (max m k))
  | assignment {token equals semicolon : Token} {name : String} {tokens : List Token} {e : Expr}
      {n : Nat} (kind : token.kind = .identifier) (value : token.value = .text name)
      (assigned : equals.kind = .assign) (inner : Expression tokens e n)
      (ended : semicolon.kind = .semicolon) :
      Statement (token :: equals :: (tokens ++ [semicolon])) (.assignment token.line name e) n
  | returned {keyword semicolon : Token} {tokens : List Token} {e : Expr} {n : Nat}
      (led : keyword.kind = .returnWord) (inner : Expression tokens e n)
      (ended : semicolon.kind = .semicolon) :
      Statement (keyword :: (tokens ++ [semicolon])) (.returned keyword.line e) n
  | declaration {keyword token equals semicolon : Token} {name : String} {tokens : List Token}
      {e : Expr} {n : Nat} (led : keyword.kind = .varWord) (kind : token.kind = .identifier)
      (value : token.value = .text name) (assigned : equals.kind = .assign)
      (inner : Expression tokens e n) (ended : semicolon.kind = .semicolon) :
      Statement (keyword :: token :: equals :: (tokens ++ [semicolon]))
        (.declaration keyword.line name e) n
  | expression {first semicolon : Token} {more : List Token} {e : Expr} {n : Nat}
      (inner : Expression (first :: more) e n) (ended : semicolon.kind = .semicolon) :
      Statement (first :: (more ++ [semicolon])) (.expression first.line e)
        (if first.kind = .identifier then n - 1 else n)

end

/-- `program`: the items of a whole source. -/
inductive Source : List Token → Program → Nat → Prop where
  | intro {tokens : List Token} {items : List Item} {n : Nat} (inner : Items tokens items n) :
      Source tokens ⟨items⟩ n

end Grammar

end Scriptlet
