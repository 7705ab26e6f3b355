import Scriptlet.Proofs.Grammar.Precedence

/-! The tokens that phrases of the grammar begin with, and that there are phrases of each sort. -/

namespace Scriptlet

namespace Grammar

/-- The kinds of tokens that an expression begins with. -/
def expressionKinds : List TokenKind :=
  [.identifier, .number, .string, .trueWord, .falseWord, .leftParen, .not, .minus]

/-- The kinds of tokens that an item begins with. -/
def itemKinds : List TokenKind :=
  [.functionWord, .ifWord, .returnWord, .varWord] ++ expressionKinds

section First

variable {tokens : List Token} {n : Nat}

/-- A primary is not empty, and begins with a token that begins expressions and is no operator. -/
theorem Primary.exists_first {e : Expr} (whole : Primary tokens e n) :
    ∃ token more, tokens = token :: more ∧ token.kind ∈ expressionKinds ∧
      UnaryOperator.ofKind? token.kind = none := by
  -- Each form begins with a token of its own kind, and none of them is an operator.
  cases whole with
  | identifier kind | call kind | number kind | string kind | trueWord kind | falseWord kind
  | parenthesized kind =>
    exact ⟨_, _, rfl, by rw [kind]; decide, by rw [kind]; rfl⟩

/-- An operand is not empty, and begins with a token that begins expressions. -/
theorem Unary.exists_first {e : Expr} (whole : Unary tokens e n) :
    ∃ token more, tokens = token :: more ∧ token.kind ∈ expressionKinds := by
  -- Operators before an operand are written with marks that begin expressions.
  cases whole with
  | @operator operator _ _ _ _ sign =>
    exact ⟨_, _, rfl, by rw [sign_iff.mp sign]; cases operator <;> decide⟩
  | primary inner =>
    obtain ⟨token, more, rfl, opens, -⟩ := inner.exists_first
    exact ⟨token, more, rfl, opens⟩

/-- What stands at a level is not empty, and begins as its leftmost operand does. -/
theorem Level.exists_first {strength : Nat} {e : Expr} (whole : Level strength tokens e n) :
    ∃ token more, tokens = token :: more ∧ token.kind ∈ expressionKinds := by
  -- Every level begins with its leftmost operand.
  obtain ⟨head, tail, left, k, m, rfl, -, operand, -⟩ := whole.exists_climbs
  obtain ⟨token, more, rfl, opens⟩ := operand.exists_first
  exact ⟨token, more ++ tail, rfl, opens⟩

/-- An expression is not empty, and begins as one of its operands does. -/
theorem Expression.exists_first {e : Expr} (whole : Expression tokens e n) :
    ∃ token more, tokens = token :: more ∧ token.kind ∈ expressionKinds := by
  -- An expression is what stands at the weakest level.
  cases whole with
  | intro inner => exact inner.exists_first

/-- A list of expressions is not empty, and begins as the first of them does. -/
theorem Expressions.exists_first {expressions : List Expr}
    (whole : Expressions tokens expressions n) :
    ∃ token more, tokens = token :: more ∧ token.kind ∈ expressionKinds := by
  -- A list begins with its first expression.
  cases whole with
  | last only => exact only.exists_first
  | more first =>
    obtain ⟨token, more, rfl, opens⟩ := first.exists_first
    exact ⟨token, _, rfl, opens⟩

/-- A statement is not empty, and begins with a token that begins items. -/
theorem Statement.exists_first {item : Item} (whole : Statement tokens item n) :
    ∃ token more, tokens = token :: more ∧ token.kind ∈ itemKinds := by
  -- Keywords and names tell the forms, and the last form begins as its expression does.
  cases whole with
  | ifThen kind | ifThenElse kind | assignment kind | returned kind | declaration kind =>
    exact ⟨_, _, rfl, by rw [kind]; decide⟩
  | expression inner =>
    obtain ⟨token, more, same, opens⟩ := inner.exists_first
    obtain ⟨rfl, -⟩ := List.cons.inj same
    exact ⟨_, _, rfl, List.mem_append_right _ opens⟩

/-- An item is not empty, and begins with a keyword or as an expression does. -/
theorem TopStatement.exists_first {item : Item} (whole : TopStatement tokens item n) :
    ∃ token more, tokens = token :: more ∧ token.kind ∈ itemKinds := by
  -- Functions begin with their keyword, and the other items are statements.
  cases whole with
  | statement inner => exact inner.exists_first
  | function inner =>
    cases inner with
    | intro led => exact ⟨_, _, rfl, by rw [led]; decide⟩
  | lambda inner =>
    cases inner with
    | intro led => exact ⟨_, _, rfl, by rw [led]; decide⟩

/-- Operators behind an expression begin with one of them, of a precedence between the bounds. -/
theorem Climbs.first {minimum maximum : Nat} {left e : Expr}
    (whole : Climbs minimum maximum left tokens e n) :
    tokens = [] ∨ ∃ (token : Token) (more : List Token) (operator : BinaryOperator),
      tokens = token :: more ∧ token.kind = operator.kind ∧ minimum ≤ operator.precedence ∧
        operator.precedence ≤ maximum := by
  -- The first operator is the only one that can stand in front.
  cases whole with
  | stop => exact .inl rfl
  | step spelled strong weak => exact .inr ⟨_, _, _, rfl, spelled, strong, weak⟩

end First

section Inhabited

/-- The truth value is the shortest expression. -/
theorem level_trueWord {strength : Nat} (below : strength ≤ 7) :
    Level strength [Token.fixed .trueWord 1] (.boolean true) 0 :=
  -- A single word is an operand, and an operand stands at every level.
  (Level.operand (.primary (.trueWord rfl))).lift below

instance : Phrase.Productive Names where
  inhabited := ⟨[⟨.identifier, .text "x", 1⟩], _, _, .last rfl rfl⟩

instance : Phrase.Productive Parameters where
  inhabited := ⟨_, _, _, .none⟩

instance : Phrase.Productive Unary where
  inhabited := ⟨[Token.fixed .trueWord 1], _, _, .primary (.trueWord rfl)⟩

instance : Phrase.Productive Primary where
  inhabited := ⟨[Token.fixed .trueWord 1], _, _, .trueWord rfl⟩

instance (minimum maximum : Nat) (left : Expr) :
    Phrase.Productive (Climbs minimum maximum left) where
  inhabited := ⟨_, _, _, .stop⟩

instance : Phrase.Productive Expression where
  inhabited := ⟨_, _, _, .intro (level_trueWord (by decide))⟩

instance : Phrase.Productive (Level 1) where
  inhabited := ⟨_, _, _, level_trueWord (by decide)⟩

instance : Phrase.Productive Expressions where
  inhabited := ⟨_, _, _, .last (.intro (level_trueWord (by decide)))⟩

instance : Phrase.Productive Arguments where
  inhabited := ⟨_, _, _, .none⟩

instance : Phrase.Productive Items where
  inhabited := ⟨_, _, _, .none⟩

instance : Phrase.Productive Block where
  inhabited := ⟨[Token.fixed .leftBrace 1, Token.fixed .rightBrace 1], _, _,
    .intro rfl (.none : Items [] [] 0) rfl⟩

instance : Phrase.Productive TopStatement where
  inhabited := ⟨[Token.fixed .trueWord 1, Token.fixed .semicolon 1], _, _,
    .statement (.expression (.intro (level_trueWord (by decide))) rfl)⟩

end Inhabited

end Grammar

end Scriptlet
