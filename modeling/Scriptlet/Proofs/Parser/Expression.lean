import Scriptlet.Proofs.Grammar.Opening
import Scriptlet.Proofs.Parser.Steps

/-! The readers of expressions read the phrases of the grammar. -/

namespace Scriptlet

namespace Parser

open Phrase Grammar

variable {size top : Nat} {starts follow ends : Boundary}

/-- The next token is no operator of a given strength. -/
def Below (strength : Nat) : Boundary :=
  fun next => ∀ token operator, next = some token →
    BinaryOperator.ofKind? token.kind = some operator → operator.precedence < strength

/-- The next token neither calls what stands before it nor is an operator of a given strength. -/
def Stops (strength : Nat) : Boundary :=
  fun next => Below strength next ∧ ¬ At .leftParen next

section Boundaries

variable {token : Token} {strength : Nat} {next : Option Token}

/-- A token that is no operator is below all of them. -/
theorem below_of_none (none : BinaryOperator.ofKind? token.kind = none) :
    Below strength (some token) := by
  -- There is no precedence to compare.
  intro other operator same found
  obtain rfl := Option.some.inj same
  rw [none] at found
  exact absurd found (by simp)

/-- The token of an operator is below every stronger one. -/
theorem below_of_some {operator : BinaryOperator}
    (found : BinaryOperator.ofKind? token.kind = some operator)
    (weak : operator.precedence < strength) : Below strength (some token) := by
  -- A token spells one operator at most.
  intro other operator' same found'
  obtain rfl := Option.some.inj same
  rw [found] at found'
  obtain rfl := Option.some.inj found'
  exact weak

/-- Every operator is below the strength of operands. -/
theorem below_seven (next : Option Token) : Below 7 next := by
  -- The strongest operators are those of strength six.
  intro token operator _ _
  cases operator <;> decide

/-- What is no operator of a strength is none of a higher one. -/
theorem Below.mono {higher : Nat} (below : Below strength next) (less : strength ≤ higher) :
    Below higher next :=
  -- The precedence of an operator is below both strengths.
  fun token operator same found => Nat.lt_of_lt_of_le (below token operator same found) less

/-- What stops at a strength stops at a higher one. -/
theorem Stops.mono {higher : Nat} (stops : Stops strength next) (less : strength ≤ higher) :
    Stops higher next :=
  -- The call that an identifier might begin has no strength.
  ⟨stops.1.mono less, stops.2⟩

/-- A token that neither calls nor is an operator stops expressions of every strength. -/
theorem stops_of_kind {kind : TokenKind} (same : token.kind = kind) (noCall : kind ≠ .leftParen)
    (none : BinaryOperator.ofKind? kind = none) : Stops strength (some token) := by
  -- The kind is that of neither a call nor an operator.
  refine ⟨below_of_none (same ▸ none), fun opens => ?_⟩
  obtain ⟨other, front, paren⟩ := opens
  obtain rfl := Option.some.inj front
  exact noCall (same.symm.trans paren)

/-- The token of a weaker operator stops an expression. -/
theorem stops_of_operator {operator : BinaryOperator} (same : token.kind = operator.kind)
    (weak : operator.precedence < strength) : Stops strength (some token) := by
  -- The token of an operator does not begin a call.
  refine ⟨below_of_some (by simp [same]) weak, fun opens => ?_⟩
  obtain ⟨other, front, paren⟩ := opens
  obtain rfl := Option.some.inj front
  rw [same] at paren
  cases operator <;> simp [BinaryOperator.kind] at paren

end Boundaries

section Climb

variable {operand : Parse Expr} {minimum maximum strength : Nat} {left : Expr}

/-- Operators behind an expression, or what follows them, stop it at a strength above theirs. -/
theorem stops_of_climbs {tokens rest : List Token} {e : Expr} {n : Nat}
    (climbs : Climbs minimum maximum left tokens e n) (weak : maximum < strength)
    (least : minimum ≤ strength) (follows : Stops minimum rest.head?) :
    Stops strength (tokens ++ rest).head? := by
  -- Either an operator is in front, or nothing but what follows.
  rcases climbs.first with rfl | ⟨token, more, operator, rfl, same, -, bound⟩
  · exact follows.mono least
  · exact stops_of_operator same (by omega)

/-- A right side and what comes behind it are what the operator in front of them goes on with. -/
theorem climbs_iff {token : Token} {operator : BinaryOperator}
    (found : BinaryOperator.ofKind? token.kind = some operator)
    (strong : minimum ≤ operator.precedence) (weak : operator.precedence ≤ maximum)
    {tokens : List Token} {e : Expr} {n : Nat} :
    Then Unary (fun first => Then (Climbs (operator.precedence + 1) 6 first) fun right =>
        Climbs minimum operator.precedence (.binary operator left right)) tokens e n ↔
      Climbs minimum maximum left (token :: tokens) e n := by
  -- An operand and the stronger operators behind it stand on the next level.
  have spelled : token.kind = operator.kind := by
    cases kind : token.kind <;> simp [kind, BinaryOperator.ofKind?] at found <;> subst found <;> rfl
  constructor
  · intro whole
    obtain ⟨head, ⟨inner, rest⟩⟩ := whole
    have below : operator.precedence + 1 ≤ 7 := below_seven (some token) token operator rfl found
    have right := inner.level (.operand head) (by decide) below
    have step : Climbs minimum maximum left _ _ _ := .step spelled strong weak right rest
    simpa [Nat.max_assoc] using step
  · intro whole
    cases whole with
    | step spelled' _ _ right rest =>
      -- The right side falls into its first operand and the stronger operators behind it.
      rw [spelled', BinaryOperator.ofKind?_kind] at found
      obtain rfl := Option.some.inj found
      obtain ⟨front, back, first, k, m, rfl, rfl, head, inner⟩ := right.exists_climbs
      refine then_iff.mpr ⟨front, _, first, k, _, List.append_assoc .., Nat.max_assoc .., head, ?_⟩
      exact then_iff.mpr ⟨back, _, _, m, _, rfl, rfl, inner, rest⟩

/-- Where no operator of a strength is next, none climbs. -/
theorem reads_left {head : Option Token} (below : Below minimum head) :
    Reads size (· = head) (pure left) (Climbs minimum maximum left) (Stops minimum)
      (Below minimum) := by
  -- An operator of the strength would have to be the next token.
  have nothing : Reads size (· = head) (pure left) (Empty left) (Stops minimum) (· = head) :=
    reads_pure left
  have climbs : Reads size (· = head) (pure left) (Climbs minimum maximum left) (Stops minimum)
      (· = head) := by
    refine nothing.widen (fun tokens e n whole => ?_) ?_
    · cases whole
      exact .stop
    · intro next same tokens e n rest whole follows look
      cases whole with
      | stop => exact ⟨.intro, follows⟩
      | @step _ _ _ _ operator mark _ _ _ _ spelled strong =>
        have weak := below mark operator (same ▸ look.symm) (by simp [spelled])
        omega
  exact climbs.mono (Nat.le_refl _) (fun _ => id) (fun _ => id) fun next same => same ▸ below

/-- Behind an operator, its right side is read with all operators that bind more strongly, and then
those that stand on its own level or a weaker one. -/
theorem reads_rightSide {bound : Nat} {operator : BinaryOperator} (left : Expr)
    (operands : Reads bound anything operand Unary (Stops 7) (Below 7))
    (stronger : ∀ first, Reads bound (Below 7) (climb operand bound (operator.precedence + 1) first)
      (Climbs (operator.precedence + 1) 6 first) (Stops (operator.precedence + 1))
      (Below (operator.precedence + 1)))
    (weaker : ∀ right, Reads bound (Below (operator.precedence + 1))
      (climb operand bound minimum (.binary operator left right))
      (Climbs minimum operator.precedence (.binary operator left right)) (Stops minimum)
      (Below minimum))
    (strong : minimum ≤ operator.precedence) (lower : operator.precedence < 7) :
    Reads bound anything (operand >>= fun first =>
        climb operand bound (operator.precedence + 1) first >>= fun right =>
          climb operand bound minimum (.binary operator left right))
      (Then Unary fun first => Then (Climbs (operator.precedence + 1) 6 first) fun right =>
        Climbs minimum operator.precedence (.binary operator left right))
      (Stops minimum) (Below minimum) := by
  refine operands.bind (fun first => ?_) ?_
  · -- A weaker operator stops the right side, and so does what stops all of it.
    refine (stronger first).bind weaker ?_
    exact fun right tokens e n rest climbs follows =>
      stops_of_climbs climbs (by omega) (by omega) follows
  · -- Behind the first operand come operators, or what follows all of them.
    intro first tokens e n rest both follows
    obtain ⟨front, back, right, k, m, rfl, -, inner, outer⟩ := then_iff.mp both
    rw [List.append_assoc]
    refine stops_of_climbs inner (by omega) (by omega) ?_
    exact stops_of_climbs outer (by omega) (by omega) follows

/-- The reader of operators behind an expression reads operators that climb. -/
theorem reads_climb (operands : Reads top anything operand Unary (Stops 7) anything) {bound : Nat}
    (within : bound ≤ top) (least : minimum ≤ maximum + 1) :
    Reads bound (Below (maximum + 1)) (climb operand bound minimum left)
      (Climbs minimum maximum left) (Stops minimum) (Below minimum) := by
  -- The bound is on the tokens that are left, and each operator takes one of them.
  induction bound generalizing minimum maximum left with
  | zero =>
    -- In front of no tokens there is no operator.
    refine Reads.exhausted (reads_left fun token operator same => ?_)
    exact absurd same (by simp)
  | succ bound ih =>
    refine reads_at fun head below written => ?_
    rw [climb]
    refine reads_peek ?_
    cases found : (head.map Token.kind).bind BinaryOperator.ofKind? with
    | none =>
      refine reads_left fun token operator same spelled => ?_
      rw [same] at found
      rw [show BinaryOperator.ofKind? token.kind = none from found] at spelled
      exact absurd spelled (by simp)
    | some operator =>
      obtain ⟨kind, same, spelled⟩ := Option.bind_eq_some_iff.mp found
      obtain ⟨token, rfl, rfl⟩ := Option.map_eq_some_iff.mp same
      have weak := below token operator rfl spelled
      -- A weaker operator belongs to what this expression stands in.
      by_cases weaker : operator.precedence < minimum
      · simp only [weaker, ↓reduceIte]
        exact reads_left (below_of_some spelled weaker)
      · simp only [weaker, ↓reduceIte]
        have lower : operator.precedence < 7 := below_seven (some token) token operator rfl spelled
        have first : Reads bound anything operand Unary (Stops 7) (Below 7) :=
          operands.mono (by omega) (fun _ => id) (fun _ => id) fun next _ => below_seven next
        -- The operator takes a token, so that the rest is read within the smaller bound.
        have right := reads_rightSide left first (fun first => ih (by omega) (by omega))
          (fun right => ih (by omega) (by omega)) (Nat.le_of_not_lt weaker) lower
        refine (Reads.behind (fun _ => right) skip_apply (Nat.le_refl _)).widen ?_ ?_
        · intro tokens e n whole
          obtain ⟨back, rfl, more⟩ := (just_then token ()).mp whole
          exact (climbs_iff spelled (by omega) (by omega)).mp more
        · intro head front tokens e n rest whole follows look
          subst front
          -- The operator that is next would have to stop a phrase without operators.
          rcases whole.first with rfl | ⟨mark, more, other, rfl, -⟩
          · have below := follows.1 token operator look spelled
            omega
          · obtain rfl := Option.some.inj look
            exact ⟨(just_then _ ()).mpr
              ⟨more, rfl, (climbs_iff spelled (by omega) (by omega)).mpr whole⟩, follows⟩

end Climb

section Parts

variable {operand expression : Parse Expr}

/-- An operand with the operators behind it stands on the lowest level. -/
theorem chain_iff {tokens : List Token} {e : Expr} {n : Nat} :
    Then Unary (Climbs 1 6) tokens e n ↔ Grammar.Level 1 tokens e n := by
  -- Operands stand above all operators, and the weakest operator is the first that climbs.
  constructor
  · intro whole
    obtain ⟨head, climbs⟩ := whole
    exact climbs.level (.operand head) (by decide) (by decide)
  · intro whole
    obtain ⟨front, back, left, k, m, same, deep, head, climbs⟩ := whole.exists_climbs
    exact then_iff.mpr ⟨front, back, left, k, m, same, deep, head, climbs⟩

/-- The reader of expressions reads expressions. -/
theorem reads_expressionOf (operands : Reads top anything operand Unary (Stops 7) anything) :
    Reads top anything (expressionOf operand top) Expression (Stops 1) (Below 1) := by
  -- The chain is read one level deeper.
  have first : Reads top anything operand Unary (Stops 7) (Below 7) :=
    operands.mono (Nat.le_refl _) (fun _ => id) (fun _ => id) fun next _ => below_seven next
  have chain : Reads top anything (chainOf operand top BinaryOperator.weakest)
      (Then Unary (Climbs 1 6)) (Stops 1) (Below 1) := by
    refine first.bind (fun left => reads_climb operands (Nat.le_refl _) (by decide)) ?_
    exact fun left tokens e n rest climbs follows =>
      stops_of_climbs climbs (by decide) (by decide) follows
  refine (chain.convert fun tokens e n => chain_iff).nested.convert fun tokens e n => ⟨?_, ?_⟩
  · intro whole
    cases whole with
    | intro inner => exact .intro inner
  · intro whole
    cases whole with
    | intro inner => exact .intro inner

/-- An expression, a comma and more of them, or one expression. -/
theorem expressions_iff {tokens : List Token} {expressions : List Expr} {n : Nat} :
    Then Expression (fun first => Optional .comma
        (Then Expressions fun rest => Empty (first :: rest)) (Empty [first])) tokens expressions n ↔
      Expressions tokens expressions n := by
  -- The comma tells whether more expressions come.
  constructor
  · intro whole
    obtain ⟨head, tail⟩ := whole
    cases tail with
    | taken same more =>
      obtain ⟨rest, others, rfl⟩ := (then_empty _).mp more
      exact .more head same others
    | passed more =>
      cases more
      simpa using Expressions.last head
  · intro whole
    cases whole with
    | last only => exact then_iff.mpr ⟨tokens, [], _, n, 0, by simp, by simp, only, .passed .intro⟩
    | more first separated rest =>
      exact .intro first (.taken separated ((then_empty _).mpr ⟨_, rest, rfl⟩))

/-- A token that opens no call and is no operator stops an expression. -/
theorem stops_of_at {kind : TokenKind} {strength : Nat} {next : Option Token}
    (next_at : At kind next) (noCall : kind ≠ .leftParen)
    (none : BinaryOperator.ofKind? kind = none) : Stops strength next := by
  -- It is enough to know the kind of the token.
  obtain ⟨token, rfl, same⟩ := next_at
  exact stops_of_kind same noCall none

/-- The reader of lists reads expressions between commas. -/
theorem reads_listOf (expressions : Reads top anything expression Expression (Stops 1) (Below 1)) :
    Reads top anything (listOf expression top) Expressions (At .rightParen) anything := by
  -- Commas and the parenthesis stop each expression.
  refine reads_separated (listOf expression) rfl (fun _ => rfl) expressions.loose
    (fun token same => stops_of_kind same (by decide) rfl)
    (fun next closes => stops_of_at closes (by decide) rfl) (fun _ _ _ => expressions_iff)
    (fun tokens e n whole => ?_) (Nat.le_refl _)
  obtain ⟨token, more, rfl, -⟩ := whole.exists_first
  exact List.cons_ne_nil _ _

/-- The reader of arguments reads arguments. -/
theorem reads_argumentsOf
    (expressions : Reads top anything expression Expression (Stops 1) (Below 1)) :
    Reads top anything (argumentsOf expression top) Arguments (At .rightParen) anything := by
  -- No expression begins with the parenthesis that closes the list.
  refine reads_unclosed (reads_listOf expressions) (fun tokens values n whole => ?_)
    fun tokens values n => ⟨?_, ?_⟩
  · obtain ⟨token, more, rfl, opens⟩ := whole.exists_first
    refine ⟨token, more, rfl, fun same => ?_⟩
    rw [same] at opens
    exact absurd opens (by decide)
  · intro whole
    cases whole with
    | none => exact .inl .intro
    | some inner => exact .inr inner
  · intro whole
    rcases whole with ⟨⟨⟩⟩ | inner
    · exact .none
    · exact .some inner

/-- What may stand behind a name: the arguments of a call in their parentheses. -/
abbrev Application (name : String) : Phrase Expr :=
  Optional .leftParen (Then Arguments fun arguments => Then (Mark .rightParen) fun _ =>
    Empty (.call name arguments)) (Empty (.identifier name))

/-- The reader of what follows a name reads the arguments of a call, if there are any. -/
theorem reads_namedBy (expressions : Reads top anything expression Expression (Stops 1) (Below 1))
    (name : String) :
    Reads top anything (namedBy expression top name) (Application name) (Stops 7) anything := by
  -- The parenthesis tells whether the name is called.
  have closing (arguments : List Expr) : Reads top anything
      (expect .rightParen "after call arguments" >>= fun _ => pure (Expr.call name arguments))
      (Then (Mark .rightParen) fun _ => Empty (.call name arguments)) (Stops 7) anything :=
    reads_closed .rightParen _ _
  have call : Reads top anything (argumentsOf expression top >>= fun arguments =>
        expect .rightParen "after call arguments" >>= fun _ => pure (Expr.call name arguments))
      (Then Arguments fun arguments => Then (Mark .rightParen) fun _ =>
        Empty (Expr.call name arguments)) (Stops 7) anything :=
    (reads_argumentsOf expressions).bind closing (joins_mark fun token same => ⟨token, rfl, same⟩)
  refine reads_optional call (Nat.le_succ _) (reads_return _) ?_
  -- A name that is not called has no parenthesis behind it.
  intro tokens e n rest token none follows look
  cases none
  exact fun same => follows.2 ⟨token, look, same⟩

/-- What stands behind the first token of a primary expression, which tells its form. -/
def Remainder (token : Token) (tokens : List Token) (e : Expr) (n : Nat) : Prop :=
  match token.kind, token.value with
  | .identifier, .text name => Application name tokens e n
  | .number, .number number => Empty (.number number) tokens e n
  | .string, .text payload => Empty (.string payload) tokens e n
  | .trueWord, _ => Empty (.boolean true) tokens e n
  | .falseWord, _ => Empty (.boolean false) tokens e n
  | .leftParen, _ => Then Expression (fun e => Then (Mark .rightParen) fun _ => Empty e) tokens e n
  | _, _ => False

/-- A primary expression is its first token and what stands behind it. -/
theorem primary_cons_iff {token : Token} {tokens : List Token} {e : Expr} {n : Nat} :
    Primary (token :: tokens) e n ↔ Remainder token tokens e n := by
  -- Each form has its case, by the kind and the value of the first token.
  constructor
  · intro whole
    cases whole with
    | identifier kind value =>
      simp only [Remainder, kind, value]
      exact .passed .intro
    | call kind value opened inner closed =>
      simp only [Remainder, kind, value]
      refine .taken opened (then_iff.mpr ⟨_, _, _, _, 0, rfl, by simp, inner, ?_⟩)
      exact (mark_then _).mpr ⟨_, _, closed, rfl, .intro⟩
    | number kind value | string kind value | trueWord kind | falseWord kind =>
      simp only [Remainder, *]
      exact .intro
    | parenthesized opened inner closed =>
      simp only [Remainder, opened]
      refine then_iff.mpr ⟨_, _, _, _, 0, rfl, by simp, inner, ?_⟩
      exact (mark_then _).mpr ⟨_, _, closed, rfl, .intro⟩
  · intro whole
    unfold Remainder at whole
    split at whole
    case h_1 kind value =>
      cases whole with
      | taken opened more =>
        obtain ⟨inner, tail⟩ := more
        obtain ⟨closing, back, closed, rfl, ⟨⟩⟩ := (mark_then _).mp tail
        simpa using Primary.call kind value opened inner closed
      | passed none =>
        cases none
        exact .identifier kind value
    case h_2 kind value =>
      cases whole
      exact .number kind value
    case h_3 kind value =>
      cases whole
      exact .string kind value
    case h_4 kind =>
      cases whole
      exact .trueWord kind
    case h_5 kind =>
      cases whole
      exact .falseWord kind
    case h_6 kind =>
      obtain ⟨inner, tail⟩ := whole
      obtain ⟨closing, back, closed, rfl, ⟨⟩⟩ := (mark_then _).mp tail
      simpa using Primary.parenthesized kind inner closed
    case h_7 => exact whole.elim

/-- Where a primary expression begins with a known token, what its form asks for is read. -/
theorem reads_primary_at {reader : Parse Expr} {form : Phrase Expr} {token : Token}
    (reads : Reads size (· = some token) reader form (Stops 7) anything)
    (exact : ∀ tokens e n, form tokens e n ↔
      ∃ back, tokens = token :: back ∧ Remainder token back e n) :
    Reads size (· = some token) reader Primary (Stops 7) anything := by
  -- A primary expression is never empty.
  refine reads.formed exact (fun _ _ _ => primary_cons_iff) fun e n whole => ?_
  obtain ⟨first, more, none, -⟩ := whole.exists_first
  exact absurd none (by simp)

/-- Where a literal is next, its token is taken for its meaning. -/
theorem reads_word {reader : Parse Expr} {token : Token} {e : Expr}
    (takes : ∀ p : Parser, p.lookahead = some token → reader p = .ok e p.pull)
    (only : ∀ tokens e' n, Remainder token tokens e' n ↔ Empty e tokens e' n) :
    Reads size (· = some token) reader Primary (Stops 7) anything := by
  -- Nothing stands behind the token of a literal.
  refine reads_primary_at (reads_just token e takes) fun tokens e' n => ⟨?_, ?_⟩
  · intro whole
    cases whole
    exact ⟨[], rfl, (only _ _ _).mpr .intro⟩
  · intro whole
    obtain ⟨back, rfl, more⟩ := whole
    obtain ⟨rfl, rfl, rfl⟩ := (empty_iff _).mp ((only _ _ _).mp more)
    exact .intro

/-- The reader of primary expressions reads them. -/
theorem reads_primaryOf (expressions : Reads top anything expression Expression (Stops 1) (Below 1))
    (fewer : size ≤ top + 1) :
    Reads size starts (primaryOf expression top) Primary (Stops 7) anything := by
  -- The kind of the first token tells the form.
  refine reads_at fun head _ written => ?_
  rw [primaryOf]
  refine reads_peek ?_
  cases head with
  | none =>
    -- At the end of the source no expression begins.
    refine reads_unexpected _ fun tokens e n rest whole _ look => ?_
    obtain ⟨first, more, rfl, -⟩ := whole.exists_first
    simp at look
  | some token =>
    have own := written token rfl
    simp only [Option.map_some]
    cases kind : token.kind with
    | identifier =>
      -- An identifier is written with its name.
      obtain ⟨content, value⟩ := own.text_of_kind (by simp [kind])
      refine reads_primary_at (Reads.behind (reads_namedBy expressions)
        (name_apply kind value _) fewer) fun tokens e n => ?_
      simp only [just_then, Remainder, kind, value]
    | number =>
      obtain ⟨number, value⟩ := own.number_iff.mp kind
      refine reads_word (e := .number number) (fun p front => ?_) fun tokens e n => ?_
      · exact (literal_apply p front).trans (by rw [value])
      · simp only [Remainder, kind, value]
    | string =>
      obtain ⟨payload, value⟩ := own.text_of_kind (by simp [kind])
      refine reads_word (e := .string payload) (fun p front => ?_) fun tokens e n => ?_
      · exact (literal_apply p front).trans (by rw [value])
      · simp only [Remainder, kind, value]
    | trueWord =>
      refine reads_word (e := .boolean true) (fun p front => ?_) fun tokens e n => ?_
      · show (skip >>= fun _ => pure (Expr.boolean true)) p = _
        rw [bind_apply, skip_apply p front]
        rfl
      · simp only [Remainder, kind]
    | falseWord =>
      refine reads_word (e := .boolean false) (fun p front => ?_) fun tokens e n => ?_
      · show (skip >>= fun _ => pure (Expr.boolean false)) p = _
        rw [bind_apply, skip_apply p front]
        rfl
      · simp only [Remainder, kind]
    | leftParen =>
      -- The closing parenthesis stops the expression inside.
      have inner : Reads top anything (expression >>= fun inner =>
            expect .rightParen "after expression" >>= fun _ => pure inner)
          (Then Expression fun e => Then (Mark .rightParen) fun _ => Empty e) (Stops 7) anything :=
        expressions.loose.bind (reads_closed .rightParen _)
          (joins_mark fun token same => stops_of_kind same (by decide) rfl)
      refine reads_primary_at (Reads.behind (fun _ => inner) skip_apply fewer) fun tokens e n => ?_
      simp only [just_then, Remainder, kind]
    | _ =>
      -- Every kind that begins a primary expression has its case above.
      refine reads_unexpected _ fun tokens e n rest whole _ look => ?_
      obtain ⟨first, more, rfl, opens, plain⟩ := whole.exists_first
      obtain rfl := Option.some.inj look
      rw [kind] at opens plain
      revert opens plain
      decide

/-- The reader of operands with the operators before them reads operands. -/
theorem reads_operandOf (operands : Reads top anything operand Unary (Stops 7) anything) :
    Reads (top + 1) anything (operandOf operand top) Unary (Stops 7) anything := by
  -- The first token tells whether an operator stands in front.
  refine reads_at fun head _ _ => ?_
  rw [operandOf]
  refine reads_peek ?_
  cases found : (head.map Token.kind).bind UnaryOperator.ofKind? with
  | none =>
    -- No operator is next, so that an operand is a primary expression.
    refine (reads_primaryOf (reads_expressionOf operands) (Nat.le_refl _)).widen
      (fun tokens e n => .primary) ?_
    intro next same tokens e n rest whole follows look
    cases whole with
    | primary inner => exact ⟨inner, follows⟩
    | @operator operator mark _ _ _ sign =>
      rw [← same, ← look] at found
      have own : UnaryOperator.ofKind? mark.kind = none := found
      rw [sign_iff.mp sign, UnaryOperator.ofKind?_kind] at own
      exact absurd own (by simp)
  | some operator =>
    obtain ⟨kind, same, spelled⟩ := Option.bind_eq_some_iff.mp found
    obtain ⟨token, rfl, rfl⟩ := Option.map_eq_some_iff.mp same
    -- Behind the operator comes an operand, one level deeper.
    have inner : Reads top anything (nested operand >>= fun e => pure (Expr.unary operator e))
        (Then (Deeper Unary) fun e => Empty (.unary operator e)) (Stops 7) anything :=
      operands.nested.bind (fun e => reads_return _) (joins_empty fun _ => id)
    refine (Reads.behind (fun _ => inner) skip_apply (Nat.le_refl _)).widen ?_ ?_
    · -- The token spells the operator that was found.
      intro tokens e n whole
      obtain ⟨back, rfl, more⟩ := (just_then token ()).mp whole
      obtain ⟨e, ⟨deeper⟩, rfl⟩ := (then_empty _).mp more
      refine .operator (sign_iff.mpr ?_) deeper
      cases kind : token.kind <;> simp [kind, UnaryOperator.ofKind?] at spelled <;>
        subst spelled <;> rfl
    · intro next same tokens e n rest whole follows look
      subst same
      cases whole with
      | primary inner =>
        -- A primary expression does not begin with an operator.
        obtain ⟨first, more, rfl, -, plain⟩ := inner.exists_first
        obtain rfl := Option.some.inj look
        rw [plain] at spelled
        exact absurd spelled (by simp)
      | operator sign deeper =>
        obtain rfl := Option.some.inj look
        rw [sign_iff.mp sign, UnaryOperator.ofKind?_kind] at spelled
        obtain rfl := Option.some.inj spelled
        exact ⟨(just_then _ ()).mpr ⟨_, rfl, (then_empty _).mpr ⟨_, .intro deeper, rfl⟩⟩, follows⟩

/-- The reader of operands of at most so many tokens reads operands. -/
theorem reads_operandWithin (bound : Nat) :
    Reads bound anything (operandWithin bound) Unary (Stops 7) anything := by
  -- Each operand inside another one stands behind a token at least.
  induction bound with
  | zero =>
    refine (reads_unexpected _ fun tokens e n rest whole _ look => ?_).exhausted
    obtain ⟨first, more, rfl, -⟩ := whole.exists_first
    simp at look
  | succ bound ih => exact reads_operandOf ih

/-- The reader of expressions of at most so many tokens reads expressions. -/
theorem reads_expressionWithin (bound : Nat) :
    Reads bound anything (expressionWithin bound) Expression (Stops 1) (Below 1) :=
  -- The operands of such an expression have the same bound.
  reads_expressionOf (reads_operandWithin bound)

end Parts

end Parser

end Scriptlet
