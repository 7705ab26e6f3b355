import Scriptlet.Parser.Item
import Scriptlet.Proofs.Parser.Expression
import Scriptlet.Proofs.Parser.Steady

/-! The readers of items and blocks read the phrases of the grammar, given a reader of the items in
the blocks. -/

namespace Scriptlet

namespace Parser

open Phrase Grammar

variable {size bound left line : Nat} {starts follow : Boundary} {body : StateM Parser (List Item)}

section Functions

/-- A name, a comma and more names, or one name. -/
theorem names_iff {tokens : List Token} {names : List String} {n : Nat} :
    Then Named (fun first => Optional .comma
        (Then Names fun rest => Empty (first :: rest)) (Empty [first])) tokens names n ↔
      Names tokens names n := by
  -- The comma tells whether more names come.
  constructor
  · intro whole
    obtain ⟨token, name, back, kind, value, rfl, tail⟩ := named_then.mp whole
    cases tail with
    | taken same more =>
      obtain ⟨rest, others, rfl⟩ := (then_empty _).mp more
      exact .more kind value same others
    | passed more =>
      cases more
      exact .last kind value
  · intro whole
    refine named_then.mpr ?_
    cases whole with
    | last kind value => exact ⟨_, _, _, kind, value, rfl, .passed .intro⟩
    | more kind value separated rest =>
      exact ⟨_, _, _, kind, value, rfl, .taken separated ((then_empty _).mpr ⟨_, rest, rfl⟩)⟩

/-- Parameters in their parentheses. -/
abbrev ParameterList : Phrase (List String) :=
  Then (Mark .leftParen) fun _ => Then Parameters fun names => Then (Mark .rightParen) fun _ =>
    Empty names

/-- The reader of parameter lists reads names between commas and parentheses. -/
theorem reads_parametersWithin :
    Reads size starts (parametersWithin size) ParameterList follow anything := by
  -- The names are read unless the parenthesis is next.
  have names : Reads size anything (peek >>= fun kind =>
        if kind = some .rightParen then pure [] else parameterNames size)
      Parameters (At .rightParen) anything := by
    have some : Reads size anything (parameterNames size) Names (At .rightParen) anything := by
      refine reads_separated parameterNames rfl (fun _ => rfl) (reads_name _)
        (fun _ _ => trivial) (fun _ _ => trivial) (fun _ _ _ => names_iff)
        (fun tokens name n whole => ?_) (Nat.le_refl _)
      cases whole
      exact List.cons_ne_nil _ _
    refine reads_unclosed some (fun tokens values n whole => ?_) fun tokens values n => ⟨?_, ?_⟩
    · -- Names begin with an identifier, and so not with the parenthesis.
      cases whole with
      | last kind | more kind => exact ⟨_, _, rfl, by simp [kind]⟩
    · intro whole
      cases whole with
      | none => exact .inl .intro
      | some inner => exact .inr inner
    · intro whole
      rcases whole with ⟨⟨⟩⟩ | inner
      · exact .none
      · exact .some inner
  -- Behind the names the closing parenthesis is expected.
  have closed : Reads size anything ((peek >>= fun kind =>
        if kind = some .rightParen then pure [] else parameterNames size) >>= fun names =>
        expect .rightParen "after parameters" >>= fun _ => pure names)
      (Then Parameters fun names => Then (Mark .rightParen) fun _ => Empty names) follow anything :=
    names.bind (reads_closed .rightParen _) (joins_mark fun token same => ⟨token, rfl, same⟩)
  -- The reader takes the same steps, put together from the front.
  have same : parametersWithin size = expect .leftParen "before parameters" >>= fun _ =>
      (peek >>= fun kind => if kind = some .rightParen then pure [] else parameterNames size) >>=
        fun names => expect .rightParen "after parameters" >>= fun _ => pure names := by
    simp only [parametersWithin, bind_assoc]
    refine bind_congr fun _ => bind_congr fun kind => ?_
    split <;> rfl
  rw [same]
  exact (reads_expect _ _).bind (fun _ => closed) joins_anything

/-- The name of a function, or none. -/
abbrev MaybeNamed : Phrase (Option String) :=
  fun tokens name n => Empty none tokens name n ∨ ∃ own, Named tokens own n ∧ name = some own

instance : MaybeNamed.Productive where
  inhabited := ⟨[], none, 0, .inl .intro⟩

/-- A name is taken if an identifier is next. -/
theorem reads_maybeNamed :
    Reads size starts (peek >>= fun kind =>
        if kind = some .identifier then some <$> name "after 'function'" else pure none)
      MaybeNamed (At .leftParen) anything := by
  refine reads_at fun head _ _ => reads_peek ?_
  -- Without a name the parenthesis is next, which is no identifier.
  by_cases named : head.map Token.kind = some .identifier
  · rw [if_pos named]
    have own : Reads size (· = head) (name "after 'function'" >>= fun own => pure (some own))
        (Then Named fun own => Empty (some own)) (At .leftParen) anything :=
      (reads_name _).bind (fun own => reads_return _) joins_anything
    refine own.widen (fun tokens name n whole => .inr ((then_empty _).mp whole)) ?_
    intro next same tokens name n rest whole follows look
    rcases whole with none | some
    · -- Without a name the parenthesis would be next.
      cases none
      obtain ⟨token, front, paren⟩ := follows
      rw [← same, ← look, List.nil_append, front, Option.map_some, paren] at named
      exact absurd named (by simp)
    · exact ⟨(then_empty _).mpr some, follows⟩
  · rw [if_neg named]
    have none : Reads size (· = head) (pure (none : Option String)) (Empty none) (At .leftParen)
        anything := reads_return _
    refine none.widen (fun tokens name n whole => .inl whole) ?_
    intro next same tokens name n rest whole follows look
    rcases whole with none | ⟨own, ⟨kind, value⟩, rfl⟩
    · exact ⟨none, follows⟩
    · refine absurd ?_ named
      rw [← same, ← look, ← kind]
      rfl

end Functions

section Blocks

/-- The parts of a block are a block. -/
theorem block_iff {tokens : List Token} {items : List Item} {n : Nat} :
    Then (Mark .leftBrace) (fun _ => Then (Deeper Items) fun items =>
        Then (Mark .rightBrace) fun _ => Empty items) tokens items n ↔
      Block tokens items n := by
  -- The braces add nothing to the nesting, and the items inside lie one level deeper.
  constructor
  · intro whole
    obtain ⟨opening, back, opened, rfl, more⟩ := (mark_then _).mp whole
    obtain ⟨⟨inner⟩, tail⟩ := more
    obtain ⟨closing, back, closed, rfl, ⟨⟩⟩ := (mark_then _).mp tail
    simpa using Block.intro opened inner closed
  · intro whole
    cases whole with
    | intro opened inner closed =>
      refine (mark_then _).mpr ⟨_, _, opened, rfl, ?_⟩
      refine then_iff.mpr ⟨_, _, _, _, 0, rfl, by simp, .intro inner, ?_⟩
      exact (mark_then _).mpr ⟨_, _, closed, rfl, .intro⟩

/-- The reader of blocks reads items between braces. -/
theorem reads_blockOf (bodies : Reads bound anything (always body) Items (At .rightBrace) anything)
    (fewer : size ≤ bound + 1) (context : String) :
    Reads size starts (blockOf body context) Block follow anything := by
  -- The opening brace takes one token, so that the items have the smaller bound.
  have inner : Reads bound anything (nested (always body) >>= fun items =>
        expect .rightBrace "after block" >>= fun _ => pure items)
      (Then (Deeper Items) fun items => Then (Mark .rightBrace) fun _ => Empty items) follow
      anything :=
    bodies.nested.bind (reads_closed .rightBrace _)
      (joins_mark fun token same => ⟨token, rfl, same⟩)
  refine ((reads_expect _ _).step (fun _ => inner) joins_anything ?_).convert
    fun tokens items n => block_iff
  intro tokens _ n mark
  cases mark
  simpa [Nat.add_comm] using fewer

/-- What stands behind the keyword of a function. -/
abbrev FunctionRest (line : Nat) : Phrase Item :=
  Then MaybeNamed fun name => Then ParameterList fun names => Then Block fun items =>
    Empty (.function line name names items)

/-- The reader of functions reads what stands behind their keyword. -/
theorem reads_functionOf
    (bodies : Reads left anything (always body) Items (At .rightBrace) anything)
    (fewer : bound ≤ left + 1) :
    Reads bound anything (functionOf body bound line) (FunctionRest line) follow anything := by
  -- The name, the parameters and the body are read in a row.
  have behind (name : Option String) : Reads bound anything (parametersWithin bound >>= fun names =>
        blockOf body "before function body" >>= fun items =>
          pure (Item.function line name names items))
      (Then ParameterList fun names => Then Block fun items =>
        Empty (.function line name names items)) follow anything := by
    have block (names : List String) : Reads bound anything
        (blockOf body "before function body" >>= fun items =>
          pure (Item.function line name names items))
        (Then Block fun items => Empty (.function line name names items)) follow anything :=
      (reads_blockOf bodies fewer _).bind (fun items => reads_return _) joins_anything
    exact reads_parametersWithin.bind block joins_anything
  have same : functionOf body bound line = (peek >>= fun kind =>
        if kind = some .identifier then some <$> name "after 'function'" else pure none) >>=
      fun name => parametersWithin bound >>= fun names =>
        blockOf body "before function body" >>= fun items =>
          pure (Item.function line name names items) := by
    simp only [functionOf, bind_assoc]
    refine bind_congr fun kind => ?_
    split <;> rfl
  rw [same]
  -- With a name or without one, the parenthesis of the parameters stands behind.
  refine reads_maybeNamed.bind behind ?_
  intro name tokens item n rest whole _
  obtain ⟨front, back, names, k, m, rfl, -, parameters, -⟩ := then_iff.mp whole
  obtain ⟨token, more, paren, rfl, -⟩ := (mark_then _).mp parameters
  exact ⟨token, rfl, paren⟩

end Blocks

section Statements

/-- An expression with a semicolon, used for an item. -/
abbrev Ended (item : Expr → Item) : Phrase Item :=
  Then Expression fun value => Then (Mark .semicolon) fun _ => Empty (item value)

/-- An expression is read up to its semicolon, and used for an item. -/
theorem reads_ended (item : Expr → Item) (context : String) :
    Reads bound starts (expressionWithin bound >>= fun value =>
        expect .semicolon context >>= fun _ => pure (item value)) (Ended item) follow anything := by
  -- A semicolon stops the expression.
  have first : Reads bound starts (expressionWithin bound) Expression (Stops 1) anything :=
    (reads_expressionWithin bound).loose.within (Nat.le_refl _)
  exact first.bind (fun value => reads_closed .semicolon context _)
    (joins_mark fun token same => stops_of_kind same (by decide) rfl)

/-- What stands behind the keyword of a conditional. -/
abbrev ConditionalRest (line : Nat) : Phrase Item :=
  Then (Mark .leftParen) fun _ => Then Expression fun condition => Then (Mark .rightParen) fun _ =>
    Then Block fun consequent => Optional .elseWord
      (Then Block fun alternative => Empty (.ifThenElse line condition consequent alternative))
      (Empty (.ifThen line condition consequent))

/-- The next token does not go on with a conditional. -/
def NoElse : Boundary :=
  fun next => ¬ At .elseWord next

/-- The reader of conditionals reads what stands behind their keyword. -/
theorem reads_conditionalOf
    (bodies : Reads left anything (always body) Items (At .rightBrace) anything)
    (fewer : bound ≤ left + 1) :
    Reads bound anything (conditionalOf body bound line) (ConditionalRest line) NoElse
      anything := by
  -- An alternative is read wherever its keyword is next.
  have branches (condition : Expr) (consequent : List Item) : Reads bound anything
      (accept .elseWord >>= fun found =>
        if found then blockOf body "after 'else'" >>= fun alternative =>
          pure (Item.ifThenElse line condition consequent alternative)
        else pure (Item.ifThen line condition consequent))
      (Optional .elseWord
        (Then Block fun alternative => Empty (.ifThenElse line condition consequent alternative))
        (Empty (.ifThen line condition consequent))) NoElse anything := by
    have other : Reads bound anything (blockOf body "after 'else'" >>= fun alternative =>
          pure (Item.ifThenElse line condition consequent alternative))
        (Then Block fun alternative => Empty (.ifThenElse line condition consequent alternative))
        NoElse anything :=
      (reads_blockOf bodies fewer _).bind (fun alternative => reads_return _) joins_anything
    refine reads_optional other (Nat.le_succ _) (reads_return _) ?_
    -- Behind a conditional without an alternative the keyword is not next.
    intro tokens item n rest token none follows look
    cases none
    exact fun same => follows ⟨token, look, same⟩
  -- The parenthesis stops the condition.
  have test : Reads bound anything (expressionWithin bound) Expression (Stops 1) anything :=
    (reads_expressionWithin bound).loose
  refine (reads_expect _ _).bind (fun _ => ?_) joins_anything
  refine test.bind (fun condition => ?_)
    (joins_mark fun token same => stops_of_kind same (by decide) rfl)
  refine (reads_expect _ _).bind (fun _ => ?_) joins_anything
  exact (reads_blockOf bodies fewer _).bind (branches condition) joins_anything

/-- What stands behind the keyword of a declaration. -/
abbrev DeclarationRest (line : Nat) : Phrase Item :=
  Then Named fun name => Then (Mark .assign) fun _ => Ended (.declaration line name)

/-- The reader of declarations reads what stands behind their keyword. -/
theorem reads_declarationWithin :
    Reads bound anything (declarationWithin bound line) (DeclarationRest line) follow anything := by
  -- The name and the mark of assignment come in front of the expression.
  refine (reads_name _).bind (fun name => ?_) joins_anything
  exact (reads_expect _ _).bind (fun _ => reads_ended (.declaration line name) _) joins_anything

/-- What stands behind a name that an item begins with. -/
abbrev LedRest (line : Nat) (name : String) : Phrase Item :=
  Optional .assign (Ended (.assignment line name))
    (Then (Application name) fun head => Then (Climbs 1 6 head) fun value =>
      Then (Mark .semicolon) fun _ => Empty (.expression line value))

/-- Behind a name that is not assigned to, an expression is read up to its semicolon. -/
theorem reads_ledExpression (name : String) :
    Reads bound starts (namedWithin bound name >>= fun head =>
        climbWithin bound BinaryOperator.weakest head >>= fun value =>
          expect .semicolon "after expression" >>= fun _ => pure (Item.expression line value))
      (Then (Application name) fun head => Then (Climbs 1 6 head) fun value =>
        Then (Mark .semicolon) fun _ => Empty (.expression line value)) follow anything := by
  have climbs (head : Expr) : Reads bound anything
      (climbWithin bound BinaryOperator.weakest head >>= fun value =>
        expect .semicolon "after expression" >>= fun _ => pure (Item.expression line value))
      (Then (Climbs 1 6 head) fun value => Then (Mark .semicolon) fun _ =>
        Empty (.expression line value)) follow anything := by
    have first : Reads bound anything (climbWithin bound BinaryOperator.weakest head)
        (Climbs 1 6 head) (Stops 1) anything :=
      (reads_climb (reads_operandWithin bound) (Nat.le_refl _) (by decide)).mono (Nat.le_refl _)
        (fun next _ => below_seven next) (fun _ => id) fun _ _ => trivial
    exact first.bind (fun value => reads_closed .semicolon _ _)
      (joins_mark fun token same => stops_of_kind same (by decide) rfl)
  have first : Reads bound starts (namedWithin bound name) (Application name) (Stops 7) anything :=
    (reads_namedBy (reads_expressionWithin bound) name).within (Nat.le_refl _)
  -- Behind the operand comes an operator or the semicolon, and both stop it.
  refine first.bind climbs fun head tokens item n rest whole _ => ?_
  obtain ⟨front, back, value, k, m, rfl, -, inner, ended⟩ := then_iff.mp whole
  obtain ⟨semicolon, more, same, rfl, -⟩ := (mark_then _).mp ended
  rw [List.append_assoc]
  exact stops_of_climbs inner (by decide) (by decide) (stops_of_kind same (by decide) rfl)

/-- The reader of items that begin with a name reads an assignment or an expression. -/
theorem reads_identifierLedWithin {token : Token} {content : String}
    (kind : token.kind = .identifier) (value : token.value = .text content)
    (fewer : size ≤ bound + 1) :
    Reads size (· = some token) (identifierLedWithin bound line)
      (Then (Just token content) (LedRest line)) follow anything := by
  -- The name is taken before it is known what it is for.
  refine Reads.behind (fun name => ?_) (name_apply kind value _) fewer
  refine reads_optional (reads_ended (.assignment line name) _) (Nat.le_succ _)
    (reads_ledExpression name) ?_
  -- What goes on with an expression does not begin like an assignment.
  intro tokens item n rest token whole _ look same
  obtain ⟨application, more⟩ := whole
  obtain ⟨inner, ended⟩ := more
  obtain ⟨semicolon, none, stop, rfl, -⟩ := (mark_then _).mp ended
  cases application with
  | taken opened _ =>
    -- The name is called.
    obtain rfl := Option.some.inj look
    simp [same] at opened
  | passed nothing =>
    cases nothing
    rcases inner.first with rfl | ⟨mark, others, operator, rfl, spelled, -⟩
    · -- The name stands alone.
      obtain rfl := Option.some.inj look
      simp [same] at stop
    · -- An operator goes on with the name.
      obtain rfl := Option.some.inj look
      rw [same] at spelled
      cases operator <;> simp [BinaryOperator.kind] at spelled

end Statements

section Items

/-- What an item is, given its first token, which tells the form of the item. -/
def Formed (token : Token) (tokens : List Token) (item : Item) (n : Nat) : Prop :=
  match token.kind, token.value with
  | .functionWord, _ => FunctionRest token.line tokens item n
  | .ifWord, _ => ConditionalRest token.line tokens item n
  | .returnWord, _ => Ended (.returned token.line) tokens item n
  | .varWord, _ => DeclarationRest token.line tokens item n
  | .identifier, .text name => LedRest token.line name tokens item n
  | .identifier, .number _ => False
  | _, _ => Ended (.expression token.line) (token :: tokens) item n

/-- The parts of an expression with a semicolon. -/
theorem ended_iff {item : Expr → Item} {tokens : List Token} {whole : Item} {n : Nat} :
    Ended item tokens whole n ↔ ∃ front semicolon e, tokens = front ++ [semicolon] ∧
      whole = item e ∧ Expression front e n ∧ semicolon.kind = .semicolon := by
  -- The semicolon is one token, and adds nothing to the nesting.
  constructor
  · intro parts
    obtain ⟨inner, tail⟩ := parts
    obtain ⟨semicolon, back, ended, rfl, ⟨⟩⟩ := (mark_then _).mp tail
    exact ⟨_, semicolon, _, rfl, rfl, by simpa using inner, ended⟩
  · intro parts
    obtain ⟨front, semicolon, e, rfl, rfl, inner, ended⟩ := parts
    refine then_iff.mpr ⟨_, _, _, _, 0, rfl, by simp, inner, ?_⟩
    exact (mark_then _).mpr ⟨_, _, ended, rfl, .intro⟩

/-- An expression that begins with a name goes on with what may stand behind the name, and with
operators that climb. -/
theorem led_iff {token : Token} {name : String} (kind : token.kind = .identifier)
    (value : token.value = .text name) {tokens : List Token} {e : Expr} {n : Nat} :
    Then (Application name) (Climbs 1 6) tokens e n ↔ Grammar.Level 1 (token :: tokens) e n := by
  -- The name is the first token of the leftmost operand, which no operator stands before.
  have same (tokens : List Token) (e : Expr) (n : Nat) :
      Application name tokens e n ↔ Unary (token :: tokens) e n := by
    constructor
    · intro whole
      refine .primary (primary_cons_iff.mpr ?_)
      simpa only [Remainder, kind, value] using whole
    · intro whole
      cases whole with
      | primary inner => simpa only [Remainder, kind, value] using primary_cons_iff.mp inner
      | operator sign =>
        rw [kind] at sign
        cases sign
  rw [← chain_iff]
  constructor
  · intro whole
    obtain ⟨head, climbs⟩ := whole
    exact then_iff.mpr ⟨_, _, _, _, _, rfl, rfl, (same _ _ _).mp head, climbs⟩
  · intro whole
    obtain ⟨front, back, left, k, m, split, rfl, head, climbs⟩ := then_iff.mp whole
    -- The name is the first token of the operand, and what is left goes on with it.
    obtain ⟨first, more, rfl, -⟩ := head.exists_first
    obtain ⟨rfl, rfl⟩ := List.cons.inj split
    exact .intro ((same _ _ _).mpr head) climbs

/-- A function begins with its keyword. -/
theorem function_iff {token : Token} (led : token.kind = .functionWord) {tokens : List Token}
    {item : Item} {n : Nat} :
    FunctionRest token.line tokens item n ↔
      Function (token :: tokens) item n ∨ Lambda (token :: tokens) item n := by
  -- With a name it is a function, and without one a lambda.
  constructor
  · intro whole
    obtain ⟨named, more⟩ := whole
    obtain ⟨parameters, more⟩ := more
    obtain ⟨items, body, rfl⟩ := (then_empty _).mp more
    obtain ⟨opening, back, opened, rfl, inner⟩ := (mark_then _).mp parameters
    obtain ⟨names, tail⟩ := inner
    obtain ⟨closing, none, closed, rfl, ⟨⟩⟩ := (mark_then _).mp tail
    rcases named with ⟨⟨⟩⟩ | ⟨name, ⟨kind, value⟩, rfl⟩
    · right
      simpa using Lambda.intro led opened names closed body
    · left
      simpa using Function.intro led kind value opened names closed body
  · intro whole
    -- The parameters stand in their parentheses, with or without a name in front of them.
    have parts {name : Option String} {front back : List Token} {opening closing : Token}
        {names : List String} {items : List Item} {k m : Nat} (opened : opening.kind = .leftParen)
        (parameters : Parameters front names k) (closed : closing.kind = .rightParen)
        (body : Block back items m) :
        Then ParameterList (fun names => Then Block fun items =>
            Empty (Item.function token.line name names items))
          (opening :: (front ++ closing :: back)) (Item.function token.line name names items)
          (max k m) := by
      refine then_iff.mpr ⟨opening :: (front ++ [closing]), back, names, k, m, by simp, rfl, ?_, ?_⟩
      · refine (mark_then _).mpr ⟨_, _, opened, rfl, ?_⟩
        refine then_iff.mpr ⟨_, _, _, _, 0, rfl, by simp, parameters, ?_⟩
        exact (mark_then _).mpr ⟨_, _, closed, rfl, .intro⟩
      · exact (then_empty _).mpr ⟨_, body, rfl⟩
    rcases whole with whole | whole
    · cases whole with
      | intro _ kind value opened parameters closed body =>
        refine then_iff.mpr ⟨[_], _, some _, 0, _, rfl, (Nat.zero_max _).symm, ?_,
          parts opened parameters closed body⟩
        exact .inr ⟨_, .intro kind value, rfl⟩
    · cases whole with
      | intro _ opened parameters closed body =>
        exact then_iff.mpr ⟨[], _, none, 0, _, rfl, (Nat.zero_max _).symm, .inl .intro,
          parts opened parameters closed body⟩

/-- A conditional begins with its keyword. -/
theorem conditional_iff {token : Token} (led : token.kind = .ifWord) {tokens : List Token}
    {item : Item} {n : Nat} :
    ConditionalRest token.line tokens item n ↔ Statement (token :: tokens) item n := by
  -- The alternative is there exactly if its keyword is.
  constructor
  · intro whole
    obtain ⟨opening, back, opened, rfl, more⟩ := (mark_then _).mp whole
    obtain ⟨test, more⟩ := more
    obtain ⟨closing, back, closed, rfl, branches⟩ := (mark_then _).mp more
    obtain ⟨body, branch⟩ := branches
    cases branch with
    | passed none =>
      cases none
      simpa using Statement.ifThen led opened test closed body
    | taken continued more =>
      obtain ⟨alternative, other, rfl⟩ := (then_empty _).mp more
      exact .ifThenElse led opened test closed body continued other
  · intro whole
    cases whole with
    | ifThen _ opened test closed body =>
      refine (mark_then _).mpr ⟨_, _, opened, rfl, .intro test ?_⟩
      refine (mark_then _).mpr ⟨_, _, closed, rfl, ?_⟩
      exact then_iff.mpr ⟨_, [], _, _, 0, by simp, by simp, body, .passed .intro⟩
    | ifThenElse _ opened test closed body continued other =>
      refine (mark_then _).mpr ⟨_, _, opened, rfl, .intro test ?_⟩
      refine (mark_then _).mpr ⟨_, _, closed, rfl, .intro body ?_⟩
      exact .taken continued ((then_empty _).mpr ⟨_, other, rfl⟩)
    -- Statements of other forms begin with other tokens.
    | assignment other | returned other | declaration other => simp [led] at other
    | expression inner =>
      obtain ⟨first, more, split, opens⟩ := inner.exists_first
      obtain ⟨rfl, -⟩ := List.cons.inj split
      rw [led] at opens
      exact absurd opens (by decide)

/-- An expression with a semicolon that begins with a name stands alone. -/
theorem led_statement_iff {token : Token} {name : String} (kind : token.kind = .identifier)
    (value : token.value = .text name) {tokens : List Token} {item : Item} {n : Nat} :
    Then (Application name) (fun head => Then (Climbs 1 6 head) fun value =>
        Then (Mark .semicolon) fun _ => Empty (.expression token.line value)) tokens item n ↔
      ∃ front semicolon e, tokens = front ++ [semicolon] ∧ item = .expression token.line e ∧
        Expression (token :: front) e (n + 1) ∧ semicolon.kind = .semicolon := by
  -- What stands behind the name makes an expression of the lowest level with it.
  constructor
  · intro whole
    obtain ⟨front, rest, left, k, m, rfl, rfl, head, more⟩ := then_iff.mp whole
    obtain ⟨middle, last, e, m, k', rfl, rfl, climbs, tail⟩ := then_iff.mp more
    obtain ⟨semicolon, back, ended, rfl, ⟨⟩⟩ := (mark_then _).mp tail
    have level := (led_iff kind value).mp (.intro head climbs)
    exact ⟨front ++ middle, semicolon, e, by simp, rfl, .intro (by simpa using level), ended⟩
  · intro parts
    obtain ⟨front, semicolon, e, rfl, rfl, inner, ended⟩ := parts
    cases inner with
    | intro level =>
      obtain ⟨head, back, left, k, m, rfl, rfl, application, climbs⟩ :=
        then_iff.mp ((led_iff kind value).mpr level)
      -- The semicolon stands behind the operators that climb.
      refine then_iff.mpr ⟨head, back ++ [semicolon], left, k, m, by simp, rfl, application, ?_⟩
      refine then_iff.mpr ⟨back, [semicolon], e, m, 0, rfl, by simp, climbs, ?_⟩
      exact (mark_then _).mpr ⟨_, _, ended, rfl, .intro⟩

/-- An identifier that begins an expression is written with its name. -/
theorem named_of_level {token : Token} {tokens : List Token} {e : Expr} {strength n : Nat}
    (level : Grammar.Level strength (token :: tokens) e n) (kind : token.kind = .identifier) :
    ∃ name, token.value = .text name := by
  -- The identifier begins the leftmost operand, which is a variable or a call.
  obtain ⟨head, tail, left, k, m, split, -, operand, -⟩ := level.exists_climbs
  obtain ⟨first, more, rfl, -⟩ := operand.exists_first
  obtain ⟨rfl, -⟩ := List.cons.inj split
  cases operand with
  | operator sign =>
    rw [kind] at sign
    cases sign
  | primary inner =>
    cases inner with
    | identifier _ value | call _ value => exact ⟨_, value⟩
    | number other | string other | trueWord other | falseWord other | parenthesized other =>
      simp [kind] at other

/-- An expression that stands alone has the form of its first token; behind a name, the outermost
level is not counted. -/
theorem formed_of_expression {token semicolon : Token} {more : List Token} {e : Expr} {n : Nat}
    (inner : Expression (token :: more) e n) (ended : semicolon.kind = .semicolon) :
    Formed token (more ++ [semicolon]) (.expression token.line e)
      (if token.kind = .identifier then n - 1 else n) := by
  by_cases kind : token.kind = .identifier
  · rw [if_pos kind]
    cases inner with
    | @intro _ _ n level =>
      cases value : token.value with
      | text name =>
        simp only [Formed, kind, value]
        exact .passed ((led_statement_iff kind value).mpr
          ⟨_, semicolon, e, rfl, rfl, .intro level, ended⟩)
      | number number =>
        -- An identifier is not written with a number.
        obtain ⟨name, text⟩ := named_of_level level kind
        exact absurd (text.symm.trans value) (by simp)
  · rw [if_neg kind]
    obtain ⟨first, others, split, opens⟩ := inner.exists_first
    obtain ⟨rfl, rfl⟩ := List.cons.inj split
    have alone : Ended (.expression token.line) (token :: (more ++ [semicolon]))
        (.expression token.line e) n :=
      ended_iff.mpr ⟨token :: more, semicolon, e, rfl, rfl, inner, ended⟩
    -- All other tokens that begin expressions leave the form to the last case.
    simp only [expressionKinds, List.mem_cons, List.not_mem_nil, or_false, kind, false_or]
      at opens
    rcases opens with same | same | same | same | same | same | same <;>
      simpa only [Formed, same] using alone

/-- A statement has the form that its first token tells. -/
theorem formed_of_statement {token : Token} {tokens : List Token} {item : Item} {n : Nat}
    (whole : Statement (token :: tokens) item n) : Formed token tokens item n := by
  -- The first token of each form is of the kind that the form is looked up by.
  cases whole with
  | ifThen led opened test closed body =>
    simp only [Formed, led]
    exact (conditional_iff led).mpr (.ifThen led opened test closed body)
  | ifThenElse led opened test closed body continued other =>
    simp only [Formed, led]
    exact (conditional_iff led).mpr (.ifThenElse led opened test closed body continued other)
  | assignment kind value assigned inner ended =>
    simp only [Formed, kind, value]
    exact .taken assigned (ended_iff.mpr ⟨_, _, _, rfl, rfl, inner, ended⟩)
  | returned led inner ended =>
    simp only [Formed, led]
    exact ended_iff.mpr ⟨_, _, _, rfl, rfl, inner, ended⟩
  | declaration led kind value assigned inner ended =>
    simp only [Formed, led]
    refine named_then.mpr ⟨_, _, _, kind, value, rfl, ?_⟩
    refine (mark_then _).mpr ⟨_, _, assigned, rfl, ?_⟩
    exact ended_iff.mpr ⟨_, _, _, rfl, rfl, inner, ended⟩
  | expression inner ended => exact formed_of_expression inner ended

/-- An item has the form that its first token tells. -/
theorem formed_of_item {token : Token} {tokens : List Token} {item : Item} {n : Nat}
    (whole : TopStatement (token :: tokens) item n) : Formed token tokens item n := by
  -- Functions with a name and those without one begin with the same keyword.
  cases whole with
  | statement inner => exact formed_of_statement inner
  | function inner =>
    have led : token.kind = .functionWord := by cases inner; assumption
    simp only [Formed, led]
    exact (function_iff led).mpr (.inl inner)
  | lambda inner =>
    have led : token.kind = .functionWord := by cases inner; assumption
    simp only [Formed, led]
    exact (function_iff led).mpr (.inr inner)

/-- What has the form that the first token tells is an item. -/
theorem item_of_formed {token : Token} {tokens : List Token} {item : Item} {n : Nat}
    (formed : Formed token tokens item n) : TopStatement (token :: tokens) item n := by
  -- One case for each form, in their order.
  unfold Formed at formed
  split at formed
  case h_1 led =>
    rcases (function_iff led).mp formed with inner | inner
    · exact .function inner
    · exact .lambda inner
  case h_2 led => exact .statement ((conditional_iff led).mp formed)
  case h_3 led =>
    obtain ⟨front, semicolon, e, rfl, rfl, inner, ended⟩ := ended_iff.mp formed
    exact .statement (.returned led inner ended)
  case h_4 led =>
    obtain ⟨first, name, back, kind, value, rfl, more⟩ := named_then.mp formed
    obtain ⟨equals, rest, assigned, rfl, tail⟩ := (mark_then _).mp more
    obtain ⟨front, semicolon, e, rfl, rfl, inner, ended⟩ := ended_iff.mp tail
    exact .statement (.declaration led kind value assigned inner ended)
  case h_5 name kind value =>
    cases formed with
    | taken assigned more =>
      obtain ⟨front, semicolon, e, rfl, rfl, inner, ended⟩ := ended_iff.mp more
      exact .statement (.assignment kind value assigned inner ended)
    | passed more =>
      obtain ⟨front, semicolon, e, rfl, rfl, inner, ended⟩ :=
        (led_statement_iff kind value).mp more
      have alone := Statement.expression inner ended
      rw [if_pos kind] at alone
      exact .statement alone
  case h_6 => exact formed.elim
  case h_7 noText noNumber =>
    obtain ⟨front, semicolon, e, split, rfl, inner, ended⟩ := ended_iff.mp formed
    obtain ⟨first, more, rfl, -⟩ := inner.exists_first
    obtain ⟨rfl, rfl⟩ := List.cons.inj split
    -- The first token is no identifier, so that every level counts.
    have alone := Statement.expression inner ended
    rw [if_neg ?_] at alone
    · exact .statement alone
    · intro kind
      cases value : token.value with
      | text name => exact noText name kind value
      | number number => exact noNumber number kind value

/-- An item is its first token and what stands behind it. -/
theorem item_cons_iff {token : Token} {tokens : List Token} {item : Item} {n : Nat} :
    TopStatement (token :: tokens) item n ↔ Formed token tokens item n :=
  -- The two directions go by the forms of an item and by the kind of the token.
  ⟨formed_of_item, item_of_formed⟩

/-- Where an item begins with a known token, what its form asks for is read. -/
theorem reads_item_at {reader : Parse Item} {form : Phrase Item} {token : Token}
    (reads : Reads size (· = some token) reader form NoElse anything)
    (exact : ∀ tokens item n, form tokens item n ↔
      ∃ back, tokens = token :: back ∧ Formed token back item n) :
    Reads size (· = some token) reader TopStatement NoElse anything := by
  -- An item is never empty.
  refine reads.formed exact (fun _ _ _ => item_cons_iff) fun item n whole => ?_
  obtain ⟨first, more, none, -⟩ := whole.exists_first
  exact absurd none (by simp)

/-- The reader of items reads items. -/
theorem reads_itemOf (bodies : Reads left anything (always body) Items (At .rightBrace) anything)
    (fewer : bound ≤ left + 1) :
    Reads bound (· ≠ none) (itemOf body bound) TopStatement NoElse anything := by
  -- The kind of the first token tells the form, and its line is the line of the item.
  have steady (line : Nat) : Steady (standaloneWithin bound line) :=
    stepwise_steady.ended bound _
  refine reads_at fun head start written => ?_
  obtain ⟨token, rfl⟩ := Option.ne_none_iff_exists'.mp start
  have own := written token rfl
  refine reads_get fun here same => reads_peek ?_
  simp only [Option.map_some, same]
  cases kind : token.kind with
  | functionWord =>
    refine reads_item_at (Reads.behind (fun _ => reads_functionOf bodies fewer) skip_apply
      (Nat.le_succ _)) fun tokens item n => ?_
    simp only [just_then, Formed, kind]
  | ifWord =>
    refine reads_item_at (Reads.behind (fun _ => reads_conditionalOf bodies fewer) skip_apply
      (Nat.le_succ _)) fun tokens item n => ?_
    simp only [just_then, Formed, kind]
  | returnWord =>
    refine reads_item_at (Reads.behind (fun _ => reads_ended (.returned token.line) _) skip_apply
      (Nat.le_succ _)) fun tokens item n => ?_
    simp only [just_then, Formed, kind]
  | varWord =>
    refine reads_item_at (Reads.behind (fun _ => reads_declarationWithin) skip_apply
      (Nat.le_succ _)) fun tokens item n => ?_
    simp only [just_then, Formed, kind]
  | identifier =>
    obtain ⟨content, value⟩ := own.text_of_kind (by simp [kind])
    refine reads_item_at (reads_identifierLedWithin kind value (Nat.le_succ _))
      fun tokens item n => ?_
    simp only [just_then, Formed, kind, value]
  | _ =>
    -- The expression is read from its first token on, which no item of another form begins with.
    have alone : Reads bound (· = some token) (standaloneWithin bound token.line)
        (Ended (.expression token.line)) NoElse anything :=
      reads_ended (.expression token.line) _
    refine alone.led (steady _) (fun item n whole => ?_) (fun more item n whole => ?_) ?_
    · obtain ⟨front, semicolon, e, split, -⟩ := ended_iff.mp whole
      simp at split
    · refine item_cons_iff.mpr ?_
      simpa only [Formed, kind] using whole
    · intro tokens item n rest whole follows look
      obtain ⟨first, more, rfl, -⟩ := whole.exists_first
      obtain rfl := Option.some.inj look
      have formed := item_cons_iff.mp whole
      simp only [Formed, kind] at formed
      exact ⟨formed, follows⟩

end Items

end Parser

end Scriptlet
