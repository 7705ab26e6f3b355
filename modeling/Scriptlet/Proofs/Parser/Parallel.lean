import Scriptlet.Proofs.Parser.Tandem

/-! Two parsers that read side by side read the same: expressions, items and all that is left, even
with different bounds. -/

namespace Scriptlet

open Scriptlet.Parser

namespace Tandem

variable {α : Type} {T : Tandem} {starts : Option TokenKind → Prop} {bound bound' : Nat}

section Lists

variable {element element' : Parse α} {list list' : Nat → Parse (List α)} {top : Nat}

/-- Lists are read side by side if their elements are. -/
theorem follows_separated (separated : Separated element list)
    (separated' : Separated element' list')
    (elements : T.Follows .inside .inside anywhere top 0 (· = ·) element element')
    (within : bound ≤ top) (larger : bound ≤ bound') :
    T.Follows .inside .inside anywhere bound 0 (· = ·) (list bound) (list' bound') := by
  -- The bound is on the tokens that are left, and each comma is one of them.
  induction bound generalizing bound' with
  | zero =>
    have single : T.Follows .inside .inside anywhere 0 0 (· = ·)
        (element >>= fun first => pure [first]) (element' >>= fun first => pure [first]) :=
      (elements.within (Nat.zero_le _)).map fun _ _ same => congrArg (fun first => [first]) same
    rw [separated.zero]
    cases bound' with
    | zero => rwa [separated'.zero]
    | succ bound' =>
      -- Behind a single element there is no comma.
      rw [separated'.succ]
      refine (elements.within (Nat.zero_le _)).then fun first => ?_
      have single : T.Follows .inside .inside anywhere 0 0 (· = ·) (pure [first]) (pure [first]) :=
        follows_pure rfl
      refine single.exhausted fun p absent => ?_
      rw [accept_bind_apply, absent]
      rfl
  | succ bound ih =>
    obtain ⟨bound', rfl⟩ : ∃ n, bound' = n + 1 := ⟨bound' - 1, by omega⟩
    rw [separated.succ, separated'.succ]
    refine (elements.within within).then fun first => ?_
    -- Behind a comma the rest of the list has one token less.
    refine follows_accept bound 0 (Nat.le_refl _) (Nat.zero_le _) ?_
      (follows_pure rfl)
    exact (ih (by omega) (by omega)).map fun _ _ same => congrArg (first :: ·) same

end Lists

section Expressions

variable {operand operand' expression expression' : Parse Expr} {top top' minimum : Nat}
  {left : Expr}

/-- Where no token is next, no operator is read. -/
theorem climb_apply_of_none {p : Parser} (absent : p.kind? = none) :
    climb operand bound minimum left p = .ok left p := by
  -- With a bound or without one, there is no operator that the loop could go on with.
  cases bound with
  | zero => rfl
  | succ bound =>
    rw [climb, bind_apply, peek, absent]
    rfl

/-- Operators behind an operand are read side by side. -/
theorem follows_climb
    (operands : T.Follows .inside .inside anywhere top 0 (· = ·) operand operand')
    (within : bound ≤ top) (larger : bound ≤ bound') :
    T.Follows .inside .inside anywhere bound 0 (· = ·) (climb operand bound minimum left)
      (climb operand' bound' minimum left) := by
  -- Each operator takes one of the tokens that are left.
  induction bound generalizing bound' minimum left with
  | zero => exact (follows_pure rfl).exhausted fun p absent => climb_apply_of_none absent
  | succ bound ih =>
    obtain ⟨bound', rfl⟩ : ∃ n, bound' = n + 1 := ⟨bound' - 1, by omega⟩
    refine follows_peek fun kind _ => ?_
    cases found : kind.bind BinaryOperator.ofKind? with
    | none => exact follows_pure rfl
    | some operator =>
      obtain ⟨mark, rfl, -⟩ := Option.bind_eq_some_iff.mp found
      by_cases weaker : operator.precedence < minimum
      · simp only [weaker, ↓reduceIte]
        exact follows_pure rfl
      · -- The operator is passed over, and both of its sides have the smaller bound.
        simp only [weaker, ↓reduceIte]
        refine follows_skip.enter.past fun _ => ?_
        refine (operands.within (by omega)).then fun first => ?_
        exact (ih (by omega) (by omega)).then fun right =>
          ih (by omega) (by omega)

/-- Expressions are read side by side if their operands are. -/
theorem follows_expressionOf
    (operands : T.Follows .inside .inside anywhere top 0 (· = ·) operand operand')
    (larger : top ≤ top') :
    T.Follows .inside .inside starts top 0 (· = ·) (expressionOf operand top)
      (expressionOf operand' top') :=
  -- The operands go side by side, so do the operators between them,
  -- and one level is put around both.
  (operands.then fun _ =>
    follows_climb operands (Nat.le_refl _) larger).nested

/-- Arguments are read side by side if the expressions are. -/
theorem follows_argumentsOf
    (expressions : T.Follows .inside .inside anywhere top 0 (· = ·) expression expression')
    (larger : top ≤ top') :
    T.Follows .inside .inside anywhere top 0 (· = ·) (argumentsOf expression top)
      (argumentsOf expression' top') := by
  -- Both parsers see the closing parenthesis, or both read a list.
  refine follows_peek fun kind _ => ?_
  by_cases closed : kind = some .rightParen
  · rw [if_pos closed, if_pos closed]
    exact follows_pure rfl
  · rw [if_neg closed, if_neg closed]
    exact (follows_separated (separated_listOf _) (separated_listOf _) expressions (Nat.le_refl _)
      larger).start

/-- What follows a name is read side by side. -/
theorem follows_namedBy
    (expressions : T.Follows .inside .inside anywhere top 0 (· = ·) expression expression')
    (larger : top ≤ top') (name : String) :
    T.Follows .inside .inside anywhere top 0 (· = ·) (namedBy expression top name)
      (namedBy expression' top' name) := by
  -- Without a parenthesis the name stands alone.
  refine follows_accept top 1 (Nat.le_succ _) (Nat.zero_le _) ?_
    (follows_pure rfl)
  refine (follows_argumentsOf expressions larger).then fun arguments => ?_
  exact (follows_expect _ _).enter.map fun _ _ _ => rfl

/-- Primary expressions are read side by side. -/
theorem follows_primaryOf
    (expressions : T.Follows .inside .inside anywhere top 0 (· = ·) expression expression')
    (larger : top ≤ top') :
    T.Follows .inside .inside starts (top + 1) 0 (· = ·) (primaryOf expression top)
      (primaryOf expression' top') := by
  -- Both parsers see the kind that tells the form.
  refine follows_peek fun kind _ => ?_
  split
  · exact (follows_name _).past fun name =>
      follows_namedBy expressions larger name
  · exact follows_literal.enter.spending (Nat.zero_le _)
  · exact follows_literal.enter.spending (Nat.zero_le _)
  · exact (follows_skip.enter.map fun _ _ _ => rfl).spending (Nat.zero_le _)
  · exact (follows_skip.enter.map fun _ _ _ => rfl).spending (Nat.zero_le _)
  · refine follows_skip.enter.past fun _ => ?_
    refine expressions.then fun inner => ?_
    exact ((follows_expect _ _).enter.map fun _ _ _ => rfl).spending (Nat.zero_le 1)
  · exact follows_unexpected _

/-- Operands are read side by side if those inside of them are. -/
theorem follows_operandOf
    (operands : T.Follows .inside .inside anywhere top 0 (· = ·) operand operand')
    (larger : top ≤ top') :
    T.Follows .inside .inside anywhere (top + 1) 0 (· = ·) (operandOf operand top)
      (operandOf operand' top') := by
  refine follows_peek fun kind _ => ?_
  cases found : kind.bind UnaryOperator.ofKind? with
  | none => exact follows_primaryOf (follows_expressionOf operands larger) larger
  | some operator =>
    -- The sign takes a token, so that the operand behind it has the smaller bound.
    obtain ⟨mark, rfl, -⟩ := Option.bind_eq_some_iff.mp found
    refine follows_skip.enter.past fun _ => ?_
    exact operands.nested.map fun _ _ same => congrArg _ same

/-- Where no token is next, an operand is missing. -/
theorem operandWithin_apply_of_none {p : Parser} (absent : p.kind? = none) :
    operandWithin bound p = unexpected "expression" p := by
  -- Without a token there is no sign and no primary expression, which leaves the missing operand.
  cases bound with
  | zero => rfl
  | succ bound =>
    show operandOf (operandWithin bound) bound p = _
    have primary : primaryOf (expressionOf (operandWithin bound) bound) bound p =
        unexpected "expression" p := by
      rw [primaryOf, bind_apply, peek, absent]
    rw [operandOf, bind_apply, peek, absent]
    exact primary

/-- Operands are read side by side. -/
theorem follows_operandWithin (larger : bound ≤ bound') :
    T.Follows .inside .inside anywhere bound 0 (· = ·) (operandWithin bound)
      (operandWithin bound') := by
  -- Each operand inside of another one stands behind a token at least.
  induction bound generalizing bound' with
  | zero =>
    exact (follows_unexpected _).exhausted fun p absent => operandWithin_apply_of_none absent
  | succ bound ih =>
    obtain ⟨bound', rfl⟩ : ∃ n, bound' = n + 1 := ⟨bound' - 1, by omega⟩
    exact follows_operandOf (ih (by omega)) (by omega)

/-- Expressions are read side by side. -/
theorem follows_expressionWithin (larger : bound ≤ bound') :
    T.Follows .inside .inside anywhere bound 0 (· = ·) (expressionWithin bound)
      (expressionWithin bound') :=
  -- The operands inside of it have the same two bounds.
  follows_expressionOf (follows_operandWithin larger) larger

end Expressions

/-- The items are the same, as far as lines matter. -/
def SameItem (T : Tandem) (item item' : Item) : Prop :=
  item.mapLines T.first = item'.mapLines T.second

/-- The items are the same one after another, as far as lines matter. -/
def SameItems (T : Tandem) (items items' : List Item) : Prop :=
  Item.mapAllLines T.first items = Item.mapAllLines T.second items'

section Items

variable {body body' : StateM Parser (List Item)} {left line line' : Nat}

/-- Parameters are read side by side. -/
theorem follows_parametersWithin (larger : bound ≤ bound') :
    T.Follows .inside .inside anywhere bound 1 (· = ·) (parametersWithin bound)
      (parametersWithin bound') := by
  -- What comes behind the names is the closing parenthesis, whether there are names or none.
  refine (follows_expect _ _).enter.then fun _ => ?_
  have closed (parameters : List String) : T.Follows .inside .inside anywhere bound 1 (· = ·)
      (expect .rightParen "after parameters" >>= fun _ => pure parameters)
      (expect .rightParen "after parameters" >>= fun _ => pure parameters) :=
    (follows_expect _ _).enter.map fun _ _ _ => rfl
  refine follows_peek fun kind _ => ?_
  split
  · exact (follows_pure rfl).then closed
  · exact (follows_separated separated_parameterNames separated_parameterNames
      ((follows_name _).spending (Nat.zero_le 1)) (Nat.le_refl _) larger).start.then closed

/-- Blocks are read side by side if the items in them are. -/
theorem follows_blockOf
    (bodies : T.Follows .inside .inside anywhere left 0 T.SameItems (always body) (always body'))
    (fewer : bound ≤ left + 1) (context : String) :
    T.Follows .inside .after starts bound 1 T.SameItems (blockOf body context)
      (blockOf body' context) := by
  -- The opening brace takes one token, so that the items have the smaller bound.
  refine Follows.within ?_ fewer
  refine (follows_expect _ _).enter.past fun _ => ?_
  have closed {same : List Item → List Item → Prop} {items items' : List Item}
      (agree : same items items') : T.Follows .inside .after anywhere left 1 same
        (expect .rightBrace "after block" >>= fun _ => pure items)
        (expect .rightBrace "after block" >>= fun _ => pure items') :=
    (follows_expect _ _).map fun _ _ _ => agree
  exact bodies.nested.bind (Nat.le_refl _) (Nat.le_add_left _ _) (fun _ _ agree => closed agree)
    fun items => (closed (rfl : items = items)).loses

/-- Functions are read side by side if the items in their blocks are. -/
theorem follows_functionOf
    (bodies : T.Follows .inside .inside anywhere left 0 T.SameItems (always body) (always body'))
    (larger : bound ≤ bound') (fewer : bound ≤ left + 1) (same : T.first line = T.second line') :
    T.Follows .inside .after anywhere bound 1 T.SameItem (functionOf body bound line)
      (functionOf body' bound' line') := by
  -- With a name or without one, the parameters and the body are read behind it.
  have behind (name : Option String) : T.Follows .inside .after anywhere bound 1 T.SameItem
      (parametersWithin bound >>= fun parameters => blockOf body "before function body" >>=
        fun items => pure (Item.function line name parameters items))
      (parametersWithin bound' >>= fun parameters => blockOf body' "before function body" >>=
        fun items => pure (Item.function line' name parameters items)) := by
    refine (follows_parametersWithin larger).then fun parameters => ?_
    refine (follows_blockOf bodies fewer _).map fun items items' agree => ?_
    simp only [SameItem, Item.mapLines, same]
    rw [show Item.mapAllLines T.first items = _ from agree]
  refine follows_peek fun kind _ => ?_
  split
  · have named : T.Follows .inside .inside (· = kind) bound 1 (· = ·)
        (some <$> name "after 'function'") (some <$> name "after 'function'") := by
      rw [map_eq_pure_bind]
      exact (follows_name _).map fun _ _ same => congrArg _ same
    exact named.then behind
  · exact (follows_pure rfl).then behind

/-- Conditionals are read side by side if the items in their blocks are. -/
theorem follows_conditionalOf
    (bodies : T.Follows .inside .inside anywhere left 0 T.SameItems (always body) (always body'))
    (larger : bound ≤ bound') (fewer : bound ≤ left + 1) (same : T.first line = T.second line') :
    T.Follows .inside .after anywhere bound 1 T.SameItem (conditionalOf body bound line)
      (conditionalOf body' bound' line') := by
  refine (follows_expect _ _).enter.then fun _ => ?_
  refine (follows_expressionWithin larger).then fun condition => ?_
  refine (follows_expect _ _).enter.then fun _ => ?_
  -- An alternative is read by both parsers or by none.
  have branches (consequent consequent' : List Item) (relation : Item → Item → Prop)
      (without : relation (.ifThen line condition consequent) (.ifThen line' condition consequent'))
      (both : ∀ alternative alternative', T.SameItems alternative alternative' →
        relation (.ifThenElse line condition consequent alternative)
          (.ifThenElse line' condition consequent' alternative')) :
      T.Follows .after .after anywhere bound 0 relation
        (accept .elseWord >>= fun found =>
          if found then blockOf body "after 'else'" >>= fun alternative =>
            pure (Item.ifThenElse line condition consequent alternative)
          else pure (Item.ifThen line condition consequent))
        (accept .elseWord >>= fun found =>
          if found then blockOf body' "after 'else'" >>= fun alternative =>
            pure (Item.ifThenElse line' condition consequent' alternative)
          else pure (Item.ifThen line' condition consequent')) :=
    follows_else ((follows_blockOf bodies fewer _).map both) (follows_pure without)
  refine (follows_blockOf bodies fewer _).bind (Nat.le_succ bound) (Nat.le_refl (1 + 0))
    (fun consequent consequent' agree => ?_) fun consequent =>
      (branches consequent consequent (fun _ _ => True) trivial fun _ _ _ => trivial).loses
  refine branches _ _ T.SameItem ?_ fun alternative alternative' other => ?_
  · simp only [SameItem, Item.mapLines, same]
    rw [show Item.mapAllLines T.first consequent = _ from agree]
  · simp only [SameItem, Item.mapLines, same]
    rw [show Item.mapAllLines T.first consequent = _ from agree,
      show Item.mapAllLines T.first alternative = _ from other]

/-- An expression up to its semicolon is read side by side, and used for items that agree. -/
theorem follows_ended {item item' : Expr → Item} (larger : bound ≤ bound') (context : String)
    (agree : ∀ value, T.SameItem (item value) (item' value)) :
    T.Follows .inside .after starts bound 1 T.SameItem
      (expressionWithin bound >>= fun value => expect .semicolon context >>= fun _ =>
        pure (item value))
      (expressionWithin bound' >>= fun value => expect .semicolon context >>= fun _ =>
        pure (item' value)) :=
  -- The value is the same one for both, and the items are made of it and of lines that correspond.
  (follows_expressionWithin larger).start.then fun value =>
    (follows_expect _ _).map fun _ _ _ => agree value

/-- Declarations are read side by side. -/
theorem follows_declarationWithin (larger : bound ≤ bound')
    (same : T.first line = T.second line') :
    T.Follows .inside .after anywhere bound 1 T.SameItem (declarationWithin bound line)
      (declarationWithin bound' line') := by
  -- Only the lines of the two items differ, and those correspond.
  refine (follows_name _).then fun name => ?_
  refine (follows_expect _ _).enter.then fun _ => ?_
  exact follows_ended larger _ fun value => by simp only [SameItem, Item.mapLines, same]

/-- Items that begin with a name are read side by side. -/
theorem follows_identifierLedWithin (larger : bound ≤ bound')
    (same : T.first line = T.second line') :
    T.Follows .inside .after starts bound 1 T.SameItem (identifierLedWithin bound line)
      (identifierLedWithin bound' line') := by
  refine (follows_name _).then fun name => ?_
  -- A sign of assignment tells an assignment from an expression that begins with the name.
  refine follows_accept bound 1 (Nat.le_succ _) (Nat.le_succ 1) ?_ ?_
  · exact follows_ended larger _ fun value => by simp only [SameItem, Item.mapLines, same]
  · refine (follows_namedBy (follows_expressionWithin larger) larger name).then fun head => ?_
    refine (follows_climb (follows_operandWithin larger) (Nat.le_refl _) larger).then
      fun value => ?_
    exact (follows_expect _ _).map fun _ _ _ => by simp only [SameItem, Item.mapLines, same]

/-- Items are read side by side if those in their blocks are. -/
theorem follows_itemOf
    (bodies : T.Follows .inside .inside anywhere left 0 T.SameItems (always body) (always body'))
    (larger : bound ≤ bound') (fewer : bound ≤ left + 1) :
    T.Follows .inside .after (· ≠ none) bound 1 T.SameItem (itemOf body bound)
      (itemOf body' bound') := by
  -- The parsers see the same kind, and lines that correspond.
  refine follows_get (fun _ => id) fun here here' same => follows_peek fun kind _ => ?_
  split
  · exact follows_skip.enter.then fun _ =>
      follows_functionOf bodies larger fewer same
  · exact follows_skip.enter.then fun _ =>
      follows_conditionalOf bodies larger fewer same
  · exact follows_skip.enter.then fun _ =>
      follows_ended larger _ fun value => by simp only [SameItem, Item.mapLines, same]
  · exact follows_skip.enter.then fun _ =>
      follows_declarationWithin larger same
  · exact follows_identifierLedWithin larger same
  · exact follows_ended larger _ fun value => by simp only [SameItem, Item.mapLines, same]

end Items

end Tandem

namespace Parser

/-- Reads items like `itemsWithin`, and records another defect in the place of each one. -/
def itemsBlaming (blame : SyntaxError → Parser → SyntaxError) :
    (bound : Nat) → (inBlock : Bool) → Parser → List Item × Parser
  | 0, _, p => ([], p)
  | bound + 1, inBlock, p =>
    if p.atEnd inBlock then ([], p)
    else match itemOf (itemsBlaming blame bound true) (bound + 1) p with
      | .ok first q =>
        (first :: (itemsBlaming blame bound inBlock q).1, (itemsBlaming blame bound inBlock q).2)
      | .error error q =>
        itemsBlaming blame bound inBlock (recover (blame error q) inBlock q).2

/-- What one round of reading items comes to: an item, or nothing where a defect was met. -/
def itemRound (blame : SyntaxError → Parser → SyntaxError) (body : StateM Parser (List Item))
    (bound : Nat) (inBlock : Bool) (p : Parser) : List Item × Parser :=
  match itemOf body bound p with
  | .ok item q => ([item], q)
  -- Behind a defect the next round begins where the parser has recovered from it.
  | .error error q => ([], (recover (blame error q) inBlock q).2)

section Rounds

variable {blame : SyntaxError → Parser → SyntaxError} {bound : Nat} {inBlock : Bool} {p : Parser}

/-- Where items have ended, none is read. -/
theorem itemsBlaming_of_atEnd (ended : p.atEnd inBlock = true) :
    itemsBlaming blame bound inBlock p = ([], p) := by
  -- The loop stops before it looks at its bound.
  cases bound with
  | zero => rfl
  | succ bound => rw [itemsBlaming, if_pos ended]

/-- Unless they have ended, items are read by a round and what follows it. -/
theorem itemsBlaming_round (unfinished : ¬ p.atEnd inBlock = true) :
    itemsBlaming blame (bound + 1) inBlock p =
      let first := itemRound blame (itemsBlaming blame bound true) (bound + 1) inBlock p
      let rest := itemsBlaming blame bound inBlock first.2
      (first.1 ++ rest.1, rest.2) := by
  -- With an item or with a defect in its place, the loop goes on behind it.
  rw [itemsBlaming, if_neg unfinished, itemRound]
  cases itemOf (itemsBlaming blame bound true) (bound + 1) p <;> rfl

/-- Unless they have ended, items are read by a round that records each defect as it is, and what
follows it. -/
theorem itemsWithin_round (unfinished : ¬ p.atEnd inBlock = true) :
    itemsWithin (bound + 1) inBlock p =
      let first := itemRound (fun error _ => error) (itemsWithin bound true) (bound + 1) inBlock p
      let rest := itemsWithin bound inBlock first.2
      (first.1 ++ rest.1, rest.2) := by
  -- The rounds are those of the loop that blames each defect on itself.
  rw [itemsWithin_apply, if_neg unfinished, itemRound]
  cases itemOf (itemsWithin bound true) (bound + 1) p <;> rfl

/-- Items are read by a loop that goes by rounds, each of them behind one more step. -/
structure LoopsBehind (touch : Parser → Parser)
    (loop : Nat → Bool → StateM Parser (List Item)) : Prop where
  ended : ∀ {bound inBlock} {p : Parser}, p.atEnd inBlock = true → loop bound inBlock p = ([], p)
  round : ∀ {bound inBlock} {p : Parser}, ¬ p.atEnd inBlock = true →
    loop (bound + 1) inBlock p =
      let first := itemRound (fun error _ => error) (loop bound true) (bound + 1) inBlock (touch p)
      let rest := loop bound inBlock first.2
      (first.1 ++ rest.1, rest.2)

end Rounds

/-- With each defect in its own place, items are read in the usual way. -/
theorem itemsBlaming_self {blame : SyntaxError → Parser → SyntaxError}
    (own : ∀ error p, blame error p = error) (bound : Nat) (inBlock : Bool) (p : Parser) :
    itemsBlaming blame bound inBlock p = itemsWithin bound inBlock p := by
  -- The bodies of blocks are items as well, so that the induction goes over the
  -- bound for all parsers at once.
  induction bound generalizing inBlock p with
  | zero => rfl
  | succ bound ih =>
    have inside : itemsBlaming blame bound true = itemsWithin bound true := funext (ih true)
    rw [itemsWithin_apply, itemsBlaming, inside]
    cases got : itemOf (itemsWithin bound true) (bound + 1) p with
    | ok first q => simp only [ih]
    | error error q => simp only [ih, own]

/-- The usual loop has no further step. -/
theorem loopsBehind_itemsWithin : LoopsBehind id itemsWithin where
  -- Its two equations are those for the end of the items and for a round.
  ended {bound inBlock p} ended := by
    rw [← itemsBlaming_self (fun error _ => (rfl : (fun e _ => e) error p = error)),
      itemsBlaming_of_atEnd ended]
  round := itemsWithin_round

/-- Recovering drops a token, or one was read before. -/
theorem Spends.recover {p q : Parser} {inBlock : Bool} (spends : Spends 0 p q) (ready : q.Ready)
    (unfinished : ¬ Finishes inBlock p.upcoming.head?) (error : SyntaxError) :
    Spends 1 p (recover error inBlock q).2 := by
  -- If nothing was spent, the token in the way is still the one that the items did not end with.
  obtain ⟨consumed, split, -⟩ := spends
  obtain ⟨dropped, moves, takes⟩ := ready.moves_recover error inBlock
  refine ⟨consumed ++ dropped, by rw [split, moves.upcoming, List.append_assoc], ?_⟩
  rw [Nat.one_le_iff_ne_zero, ne_eq, List.length_eq_zero_iff, List.append_eq_nil_iff]
  intro absent
  rw [absent.1, List.nil_append] at split
  exact takes (split ▸ unfinished) absent.2

end Parser

namespace Tandem

variable {T : Tandem} {bound bound' : Nat} {inBlock : Bool} {p p' : Parser}

/-- Items end for both parsers, or for none of them. -/
theorem atEnd_eq (beside : T.beside p p') (inBlock : Bool) :
    p'.atEnd inBlock = p.atEnd inBlock := by
  -- The end of items shows in the kind of the next token.
  rw [atEnd, atEnd, kind?_eq beside]

/-- Behind corresponding defects the parsers go on side by side. -/
theorem recover_arrives (beside : T.beside p p') {error error' : SyntaxError}
    (alike : T.alike error error' p p') (inBlock : Bool) :
    T.arrived (recover (T.blame error p) inBlock p).2 (recover error' inBlock p').2 ∨
      T.strayed (recover (T.blame error p) inBlock p).2 := by
  have recorded := T.record beside alike
  rw [recover_apply, recover_apply, atEnd_eq beside]
  -- Both parsers drop the token in front, or both leave it.
  split
  · exact .inl (T.arrived_of_beside recorded)
  next drops => exact T.pull recorded (lookahead_ne_none drops)

/-- Behind a defect at which the first parser need not be followed, it need not be either. -/
theorem recover_strays {error : SyntaxError} (hopeless : T.hopeless error p) (inBlock : Bool) :
    T.strayed (recover (T.blame error p) inBlock p).2 := by
  -- Recovering records the defect and moves on at most once, which leads nowhere else.
  have recorded := T.strayed_record hopeless
  rw [recover_apply]
  split
  · exact recorded
  next drops => exact T.strayed_pull (T.lost_of_strayed recorded) (lookahead_ne_none drops)

/-- Where no token is next, no items are read. -/
theorem itemsBlaming_of_none {blame : SyntaxError → Parser → SyntaxError}
    (absent : p.kind? = none) : itemsBlaming blame bound inBlock p = ([], p) :=
  -- The end of the source is an end of items, inside of a block and outside.
  itemsBlaming_of_atEnd (by rw [atEnd, absent])

/-- Where no token is next, no items are read. -/
theorem itemsWithin_of_none (absent : p.kind? = none) :
    itemsWithin bound inBlock p = ([], p) :=
  -- The same holds of the usual loop.
  loopsBehind_itemsWithin.ended (by rw [atEnd, absent])

/-- Readers that never stop agree if what they read and where they lead to correspond. -/
theorem agrees_always {α : Type} {stage : Stage} {cost : Nat} {same : α → α → Prop}
    {reader other : StateM Parser α} {q q' : Parser} :
    T.Agrees stage cost same p (always reader q) (always other q') ↔
      same (reader q).1 (other q').1 ∧ T.Place stage (reader q).2 (other q').2 ∧
        Spends cost p (reader q).2 := by
  -- Both readers come to a result, so that only the case of two results is left.
  constructor
  · rintro ⟨_, _, ⟨rfl, rfl⟩, agree, place, spends⟩
    exact ⟨agree, place, spends⟩
  · rintro ⟨agree, place, spends⟩
    exact ⟨_, _, rfl, agree, place, spends⟩

/-- The same items stand in a row with the same items. -/
theorem SameItems.append {front front' back back' : List Item} (first : T.SameItems front front')
    (rest : T.SameItems back back') : T.SameItems (front ++ back) (front' ++ back') := by
  -- Lines are mapped item by item.
  rw [SameItems] at first rest ⊢
  rw [Item.mapAllLines_append, Item.mapAllLines_append, first, rest]

section Rounds

variable {body body' : StateM Parser (List Item)}
  (item : T.Follows .inside .after (· ≠ none) bound 1 T.SameItem (itemOf body bound)
    (itemOf body' bound'))

include item

/-- A round of both parsers gives the same and takes a token, unless the first parser need not be
followed behind it. -/
theorem round_side_by_side (beside : T.beside p p') (fits : p.upcoming.length ≤ bound)
    (unfinished : ¬ p.atEnd inBlock = true) :
    T.strayed (itemRound T.blame body bound inBlock p).2 ∨
      T.SameItems (itemRound T.blame body bound inBlock p).1
        (itemRound (fun error _ => error) body' bound' inBlock p').1 ∧
      T.arrived (itemRound T.blame body bound inBlock p).2
        (itemRound (fun error _ => error) body' bound' inBlock p').2 ∧
      Spends 1 p (itemRound T.blame body bound inBlock p).2 := by
  have read := item.reads p p' beside (kind?_ne_none unfinished) fits
  rw [itemRound, itemRound]
  cases got : itemOf body bound p with
  | ok first q =>
    rw [got] at read
    refine read.imp_right ?_
    rintro ⟨first', q', done, agree, arrived, spends⟩
    rw [done]
    exact ⟨congrArg (fun item => [item]) agree, arrived, spends⟩
  | error error q =>
    rw [got] at read
    rcases read with hopeless | ⟨error', q', stop, alike, beside', spends⟩
    · exact .inl (recover_strays hopeless inBlock)
    · -- The token that is taken may be the one that recovering drops.
      have ends := mt ((T.ready beside).atEnd_iff inBlock).mpr unfinished
      rw [stop]
      exact (recover_arrives beside' alike inBlock).symm.imp_right fun arrived =>
        ⟨rfl, arrived, spends.recover (T.ready beside') ends _⟩

/-- Where the first parser need not be followed, it need not be behind a round either. -/
theorem round_strays (gone : T.lost p) (unfinished : ¬ p.atEnd inBlock = true) :
    T.strayed (itemRound T.blame body bound inBlock p).2 := by
  -- A round reads an item or recovers, and neither finds the way back.
  have read := item.loses p gone (kind?_ne_none unfinished)
  rw [itemRound]
  cases got : itemOf body bound p with
  | ok first q =>
    rw [got] at read
    exact read
  | error error q =>
    rw [got] at read
    exact recover_strays read inBlock

end Rounds

/-- All items that are left are read side by side, by any loop that does what the usual one does
where it matters. -/
theorem follows_rounds {touch : Parser → Parser} {loop : Nat → Bool → StateM Parser (List Item)}
    (rounds : LoopsBehind touch loop) (touched : ∀ {p p'}, T.beside p p' → T.beside p (touch p'))
    (larger : bound ≤ bound') (inBlock : Bool) :
    T.Follows .inside .inside anywhere bound 0 T.SameItems
      (always (itemsBlaming T.blame bound inBlock)) (always (loop bound' inBlock)) := by
  -- Each round takes a token: the one that begins an item, or the one that is dropped.
  induction bound generalizing bound' inBlock with
  | zero =>
    have nothing : T.Follows .inside .inside anywhere 0 0 T.SameItems
        (always (itemsBlaming T.blame 0 inBlock)) (pure []) := follows_pure rfl
    refine nothing.exhausted fun p absent => ?_
    rw [always, rounds.ended (by rw [atEnd, absent])]
    rfl
  | succ bound ih =>
    obtain ⟨bound', rfl⟩ : ∃ n, bound' = n + 1 := ⟨bound' - 1, by omega⟩
    have within := Nat.le_of_succ_le_succ larger
    have rest := ih within inBlock
    have item : T.Follows .inside .after (· ≠ none) (bound + 1) 1 T.SameItem
        (itemOf (itemsBlaming T.blame bound true) (bound + 1))
        (itemOf (loop bound' true) (bound' + 1)) :=
      follows_itemOf (ih within true) larger (Nat.le_refl _)
    refine ⟨fun p p' beside _ fits => ?_, fun p gone _ => ?_⟩
    · refine Or.imp_right agrees_always.mpr ?_
      show T.lost (itemsBlaming T.blame (bound + 1) inBlock p).2 ∨ _ ∧ T.beside _ _ ∧ _
      have ends := atEnd_eq beside inBlock
      by_cases ended : p.atEnd inBlock = true
      · rw [itemsBlaming, if_pos ended, rounds.ended (ends.trans ended)]
        exact .inr ⟨rfl, beside, spends_self p⟩
      · rw [itemsBlaming_round ended, rounds.round (ends ▸ ended)]
        rcases round_side_by_side item (touched beside) fits ended with
          strayed | ⟨agree, arrived, spends⟩
        · exact .inl (rest.loses _ (T.lost_of_strayed strayed) trivial)
        · have shorter := spends.length_le
          -- Behind the round both parsers read the rest, if the first one is still worth it.
          rcases T.settled arrived with beside | ⟨lost, -⟩
          · refine (rest.reads _ _ beside trivial (by omega)).imp_right fun agrees => ?_
            obtain ⟨agree', place, spends'⟩ := agrees_always.mp agrees
            exact ⟨agree.append agree', place, (spends.trans spends').mono (Nat.zero_le _)⟩
          · exact .inl (rest.loses _ lost trivial)
    · show T.lost (itemsBlaming T.blame (bound + 1) inBlock p).2
      by_cases ended : p.atEnd inBlock = true
      · rwa [itemsBlaming, if_pos ended]
      · rw [itemsBlaming_round ended]
        exact rest.loses _ (T.lost_of_strayed (round_strays item gone ended)) trivial

/-- All items that are left are read side by side. -/
theorem follows_items (larger : bound ≤ bound') (inBlock : Bool) :
    T.Follows .inside .inside anywhere bound 0 T.SameItems
      (always (itemsBlaming T.blame bound inBlock)) (always (itemsWithin bound' inBlock)) :=
  -- The usual loop has no further step in its rounds.
  follows_rounds loopsBehind_itemsWithin id larger inBlock

/-- From corresponding places, the parsers read all items that are left side by side, unless the
first one need no longer be followed. -/
theorem items_side_by_side (beside : T.beside p p') (fits : p.upcoming.length ≤ bound)
    (larger : bound ≤ bound') (inBlock : Bool) :
    T.lost (itemsBlaming T.blame bound inBlock p).2 ∨
      T.SameItems (itemsBlaming T.blame bound inBlock p).1 (itemsWithin bound' inBlock p').1 ∧
        T.beside (itemsBlaming T.blame bound inBlock p).2 (itemsWithin bound' inBlock p').2 :=
  -- A loop that never stops agrees in its result, and the tokens it spends do not matter here.
  ((follows_items larger inBlock).reads p p' beside trivial fits).imp_right fun agrees =>
    (agrees_always.mp agrees).imp_right And.left

/-- From corresponding places, the parsers read all items that are left side by side, if the first
one records each defect as it is. -/
theorem itemsWithin_side_by_side (own : ∀ error p, T.blame error p = error)
    (beside : T.beside p p') (fits : p.upcoming.length ≤ bound) (larger : bound ≤ bound')
    (inBlock : Bool) : T.lost (itemsWithin bound inBlock p).2 ∨
      T.SameItems (itemsWithin bound inBlock p).1 (itemsWithin bound' inBlock p').1 ∧
        T.beside (itemsWithin bound inBlock p).2 (itemsWithin bound' inBlock p').2 := by
  -- To blame each defect on itself is to read in the usual way.
  rw [← itemsBlaming_self own]
  exact items_side_by_side beside fits larger inBlock

/-- Where all lines matter as they are, the same items are equal. -/
theorem SameItems.eq {items items' : List Item} (same : T.SameItems items items')
    (first : T.first = id) (second : T.second = id) : items = items' := by
  -- The items on their own lines are the items.
  rwa [SameItems, first, second, Item.mapAllLines_id, Item.mapAllLines_id] at same

end Tandem

/-- A parser hands over the items that are left, and what has been recorded behind them. -/
theorem Parser.output_eq (p : Parser) :
    p.output = ⟨⟨(itemsWithin p.unread false (p.note .parsingStarted)).1⟩,
      (itemsWithin p.unread false (p.note .parsingStarted)).2.diagnostics.toList⟩ :=
  -- The event in front of the items is all that a program adds to them.
  rfl

end Scriptlet
