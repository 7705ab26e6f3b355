import Scriptlet.Parser.Item

/-! Readers are built from single steps: what holds of the steps, and of readers in a row, holds of
the readers of expressions and of items. -/

namespace Scriptlet

/-- A kind of the marks around blocks. -/
def TokenKind.isBrace (kind : TokenKind) : Bool :=
  kind == .leftBrace || kind == .rightBrace

/-- No operator between operands is a brace. -/
theorem BinaryOperator.isBrace_of_ofKind? {kind : TokenKind} {operator : BinaryOperator}
    (found : ofKind? kind = some operator) : kind.isBrace = false := by
  -- Braces stand for no operator.
  cases kind <;> first | rfl | cases found

/-- No sign before an operand is a brace. -/
theorem UnaryOperator.isBrace_of_ofKind? {kind : TokenKind} {operator : UnaryOperator}
    (found : ofKind? kind = some operator) : kind.isBrace = false := by
  -- Braces are no signs.
  cases kind <;> first | rfl | cases found

namespace Parser

/-- Readers that may start in front of anything. -/
def anyKind : Option TokenKind → Prop :=
  fun _ => True

/-- What holds of the single steps of readers that start in front of certain tokens, and of whatever
is built from readers of which it holds; only blocks take braces. It may hold with some levels to go
down: a reader that is read one level deeper needs one more, and one behind a token needs one
less. -/
structure Guided (holds : ∀ {α : Type}, Nat → (Option TokenKind → Prop) → Parse α → Prop) :
    Prop where
  pure : ∀ {α : Type} {levels starts} (a : α), holds levels starts (pure a)
  start : ∀ {α : Type} {levels starts} {reader : Parse α}, holds levels anyKind reader →
    holds levels starts reader
  more : ∀ {α : Type} {levels starts} {reader : Parse α}, holds levels starts reader →
    holds (levels + 1) starts reader
  bind : ∀ {α β : Type} {levels starts} {reader : Parse α} {next : α → Parse β},
    holds levels starts reader → (∀ a, holds levels anyKind (next a)) →
      holds levels starts (reader >>= next)
  unexpected : ∀ {α : Type} {levels starts} expected,
    holds levels starts (unexpected expected : Parse α)
  peek : ∀ {α : Type} {levels starts} {next : Option TokenKind → Parse α},
    (∀ kind, holds levels (· = kind) (next kind)) → holds levels starts (peek >>= next)
  advance : ∀ {levels} {kind : TokenKind}, kind.isBrace = false →
    holds levels (· = some kind) advance
  past : ∀ {α : Type} {levels} {kind : TokenKind} {reader : Parse α}, kind.isBrace = false →
    holds (levels + 1) anyKind reader → holds levels (· = some kind) (skip >>= fun _ => reader)
  accept : ∀ {levels starts} {kind : TokenKind}, kind.isBrace = false →
    holds levels starts (accept kind)
  take : ∀ {levels starts} {kind : TokenKind}, kind.isBrace = false → ∀ context,
    holds levels starts (take kind context)
  name : ∀ {α : Type} {levels starts} {next : String → Parse α} context,
    (∀ content, holds (levels + 1) anyKind (next content)) →
      holds levels starts (name context >>= next)
  nested : ∀ {α : Type} {levels starts} {reader : Parse α}, holds levels anyKind reader →
    holds (levels + 1) starts (nested reader)

/-- A reader of elements between commas, of at most so many tokens. -/
structure Separated {α : Type} (element : Parse α) (list : Nat → Parse (List α)) : Prop where
  zero : list 0 = element >>= fun first => pure [first]
  succ : ∀ bound, list (bound + 1) = element >>= fun first => accept .comma >>= fun found =>
    if found then list bound >>= fun rest => pure (first :: rest) else pure [first]

/-- The elements of a list of expressions stand between commas. -/
theorem separated_listOf (expression : Parse Expr) : Separated expression (listOf expression) :=
  -- Both equations are the two branches of the definition.
  ⟨rfl, fun _ => rfl⟩

/-- The names of parameters stand between commas. -/
theorem separated_parameterNames : Separated (name "in parameter list") parameterNames :=
  -- Parameters are separated as arguments are, only that each is a name.
  ⟨rfl, fun _ => rfl⟩

namespace Guided

variable {holds : ∀ {α : Type}, Nat → (Option TokenKind → Prop) → Parse α → Prop}
  (steps : Guided holds) {levels : Nat} {starts : Option TokenKind → Prop}

include steps

/-- Passing over the lookahead is taking it and forgetting it. -/
theorem skip {kind : TokenKind} (bare : kind.isBrace = false) :
    holds levels (· = some kind) skip :=
  -- What is forgotten was taken by a single step.
  steps.bind (steps.advance bare) fun _ => steps.pure ()

/-- Passing over a token of a given kind is taking it and forgetting it. -/
theorem expect {kind : TokenKind} (bare : kind.isBrace = false) (context : String) :
    holds levels starts (expect kind context) :=
  -- As with skipping, the token itself is of no use later.
  steps.bind (steps.take bare context) fun _ => steps.pure ()

/-- A name may be all that is read. -/
theorem name_alone (context : String) : holds levels starts (Parser.name context) := by
  -- A name is always followed by something in the list of steps; here by handing it over.
  have alone : holds levels starts (Parser.name context >>= Pure.pure) :=
    steps.name context fun content => steps.pure content
  rwa [bind_pure] at alone

/-- A token behind a reader decides between two ways to go on. -/
theorem branch {α : Type} {kind : TokenKind} (bare : kind.isBrace = false) {yes no : Parse α}
    (taken : holds levels anyKind yes) (passed : holds levels anyKind no) :
    holds levels starts (Parser.accept kind >>= fun found => if found then yes else no) :=
  -- Either way goes on behind whatever the test has left in front.
  steps.bind (steps.accept bare) fun found => by
    cases found with
    | true => exact taken
    | false => exact passed

/-- What holds of an element holds of a list of them, with any bound. -/
theorem separated {α : Type} {element : Parse α} {list : Nat → Parse (List α)}
    (separated : Separated element list) (elements : holds levels anyKind element)
    (bound : Nat) : holds levels anyKind (list bound) := by
  -- Each further element stands behind a comma.
  induction bound with
  | zero =>
    rw [separated.zero]
    exact steps.bind elements fun first => steps.pure [first]
  | succ bound ih =>
    rw [separated.succ]
    refine steps.bind elements fun first => ?_
    exact steps.branch rfl (steps.bind ih fun rest => steps.pure (first :: rest))
      (steps.pure [first])

section Expressions

variable {expression operand : Parse Expr}

/-- What holds of expressions holds of a list of arguments. -/
theorem argumentsOf (inner : holds levels anyKind expression) (bound : Nat) :
    holds levels starts (argumentsOf expression bound) := by
  -- The list is empty if the closing parenthesis is next.
  refine steps.peek fun kind => ?_
  split
  · exact steps.pure []
  · exact steps.start (steps.separated (separated_listOf expression) inner bound)

/-- What holds of expressions holds of a name with the arguments behind it, if there are any. -/
theorem namedBy (inner : holds levels anyKind expression) (bound : Nat) (name : String) :
    holds levels starts (namedBy expression bound name) := by
  -- Only an opening parenthesis makes it a call; the parenthesis behind
  -- the arguments is taken as well.
  refine steps.branch rfl ?_ (steps.pure _)
  refine steps.bind (steps.argumentsOf inner bound) fun arguments => ?_
  exact steps.bind (steps.expect rfl _) fun _ => steps.pure _

/-- A token that is taken for its value is a step, also where it has no such value. -/
theorem literal {kind : TokenKind} (bare : kind.isBrace = false) :
    holds levels (· = some kind) literal := by
  -- A token of the wrong sort stops the reading, which is a step too.
  refine steps.bind (steps.advance bare) fun token => ?_
  split
  · exact steps.pure _
  · exact steps.pure _
  · exact steps.unexpected _

/-- What an operand goes down to stands behind its first token. -/
theorem primaryOf (inner : holds (levels + 1) anyKind expression) (bound : Nat) :
    holds levels starts (primaryOf expression bound) := by
  -- The kind of the next token tells the form, and each form is read by steps.
  refine steps.peek fun kind => ?_
  split
  · exact steps.name _ fun name => steps.namedBy inner bound name
  · exact steps.literal rfl
  · exact steps.literal rfl
  · exact steps.bind (steps.skip rfl) fun _ => steps.pure _
  · exact steps.bind (steps.skip rfl) fun _ => steps.pure _
  · refine steps.past rfl (steps.bind inner fun e => ?_)
    exact steps.bind (steps.expect rfl _) fun _ => steps.pure e
  · exact steps.unexpected _

/-- What holds of operands holds of the operators behind an operand, and what they bind. -/
theorem climb (inner : holds levels anyKind operand) (bound minimum : Nat) (left : Expr) :
    holds levels starts (climb operand bound minimum left) := by
  refine steps.start ?_
  -- The loop is over once no operator is strong enough.
  induction bound generalizing minimum left with
  | zero => exact steps.pure left
  | succ bound ih =>
    refine steps.peek fun kind => ?_
    cases found : kind.bind BinaryOperator.ofKind? with
    | none => exact steps.pure left
    | some operator =>
      obtain ⟨mark, rfl, spells⟩ := Option.bind_eq_some_iff.mp found
      by_cases weaker : operator.precedence < minimum
      · simp only [weaker, ↓reduceIte]
        exact steps.pure left
      · simp only [weaker, ↓reduceIte]
        refine steps.bind (steps.skip (BinaryOperator.isBrace_of_ofKind? spells)) fun _ => ?_
        refine steps.bind inner fun first => ?_
        exact steps.bind (ih _ first) fun right => ih minimum _

/-- A whole expression goes down one level more than its operands do. -/
theorem expressionOf (inner : holds levels anyKind operand) (bound : Nat) :
    holds (levels + 1) starts (expressionOf operand bound) :=
  -- The level that is entered is paid for here, and not by the
  -- operands, which are read inside of it.
  steps.nested (steps.bind inner fun left => steps.climb inner bound _ left)

/-- What holds of operands one level down holds of an operand, with a sign or without. -/
theorem operandOf (inner : holds levels anyKind operand) (bound : Nat) :
    holds levels starts (operandOf operand bound) := by
  -- A sign is no brace and takes the reader past a token, so that its
  -- operand may go one level deeper.
  refine steps.peek fun kind => ?_
  cases found : kind.bind UnaryOperator.ofKind? with
  | none => exact steps.primaryOf (steps.expressionOf inner bound) bound
  | some operator =>
    obtain ⟨mark, rfl, spells⟩ := Option.bind_eq_some_iff.mp found
    refine steps.past (UnaryOperator.isBrace_of_ofKind? spells) ?_
    exact steps.bind (steps.nested inner) fun e => steps.pure _

/-- What holds of all steps holds of the reader of operands. -/
theorem operandWithin (bound : Nat) : holds levels starts (operandWithin bound) := by
  refine steps.start ?_
  -- Operands lie inside each other as deep as the bound allows.
  induction bound with
  | zero => exact steps.unexpected _
  | succ bound ih => exact steps.operandOf ih bound

/-- What holds of all steps holds of the reader of expressions. -/
theorem expressionWithin (bound : Nat) : holds (levels + 1) starts (expressionWithin bound) :=
  -- An expression is a chain of such operands, read inside of one level.
  steps.expressionOf (steps.operandWithin bound) bound

/-- What holds of all steps holds of a name with arguments behind it. -/
theorem namedWithin (bound : Nat) (name : String) :
    holds (levels + 1) starts (namedWithin bound name) :=
  -- The arguments are expressions of the reader above.
  steps.namedBy (steps.expressionWithin bound) bound name

/-- What holds of all steps holds of the operators behind an operand. -/
theorem climbWithin (bound minimum : Nat) (left : Expr) :
    holds levels starts (climbWithin bound minimum left) :=
  -- The operands between them are those of the reader above.
  steps.climb (steps.operandWithin bound) bound minimum left

end Expressions

section Items

variable {body : StateM Parser (List Item)} (bound line : Nat)

/-- An expression that a semicolon ends. -/
theorem ended {make : Expr → Item} (context : String) :
    holds (levels + 1) starts (Parser.expressionWithin bound >>= fun value =>
      Parser.expect .semicolon context >>= fun _ => Pure.pure (make value)) :=
  -- The semicolon is an ordinary token, and the item is made of what was read before it.
  steps.bind (steps.expressionWithin bound) fun _ =>
    steps.bind (steps.expect rfl context) fun _ => steps.pure _

/-- What holds of all steps holds of a declaration behind its keyword. -/
theorem declarationWithin : holds (levels + 1) starts (declarationWithin bound line) :=
  -- Behind the name and the sign a declaration is an expression with a semicolon.
  steps.name _ fun _ => steps.bind (steps.expect rfl _) fun _ => steps.ended bound _

/-- What holds of all steps holds of an item that a name begins. -/
theorem identifierLedWithin : holds (levels + 1) starts (identifierLedWithin bound line) := by
  -- Behind the name comes an assignment, or the rest of an expression.
  refine steps.name _ fun name => steps.branch rfl (steps.ended bound _) ?_
  refine steps.bind (steps.namedWithin bound name) fun head => ?_
  refine steps.bind (steps.climbWithin bound _ head) fun value => ?_
  exact steps.bind (steps.expect rfl _) fun _ => steps.pure _

/-- What is read behind parameters is read behind an opening parenthesis that they may follow. -/
theorem parametersThen {next : List String → Parse (List String)}
    (later : ∀ parameters, holds (levels + 1) anyKind (next parameters)) :
    holds (levels + 1) starts (Parser.peek >>= fun kind =>
      if kind = some .rightParen then Pure.pure [] >>= next
      else parameterNames bound >>= next) := by
  -- No parameters are read where the list is closed at once; otherwise
  -- they are names between commas.
  refine steps.peek fun kind => ?_
  split
  · exact steps.bind (steps.pure []) later
  · exact steps.start
      (steps.bind (steps.separated separated_parameterNames (steps.name_alone _) bound) later)

/-- What holds of all steps holds of parameters between parentheses. -/
theorem parametersWithin : holds (levels + 1) starts (parametersWithin bound) :=
  -- Both parentheses are ordinary tokens.
  steps.bind (steps.expect rfl _) fun _ => steps.parametersThen bound fun parameters =>
    steps.bind (steps.expect rfl _) fun _ => steps.pure parameters

variable (blocks : ∀ context, holds (levels + 1) anyKind (blockOf body context))

include blocks

/-- What holds of blocks holds of a function behind its keyword. -/
theorem functionOf : holds (levels + 1) starts (functionOf body bound line) := by
  -- With a name or without one, the parameters and the body are read behind it.
  have behind (name : Option String) : holds (levels + 1) anyKind
      (Parser.parametersWithin bound >>= fun parameters =>
        blockOf body "before function body" >>= fun items =>
          Pure.pure (Item.function line name parameters items)) :=
    steps.bind (steps.parametersWithin bound) fun parameters =>
      steps.bind (blocks _) fun items => steps.pure _
  refine steps.peek fun kind => ?_
  split
  · rw [map_eq_pure_bind]
    exact steps.bind (steps.name _ fun name => steps.pure (some name)) behind
  · exact steps.bind (steps.pure none) behind

/-- What holds of blocks holds of a conditional behind its keyword. -/
theorem conditionalOf : holds (levels + 1) starts (conditionalOf body bound line) := by
  -- The alternative is a block like the consequent.
  refine steps.bind (steps.expect rfl _) fun _ => ?_
  refine steps.bind (steps.expressionWithin bound) fun condition => ?_
  refine steps.bind (steps.expect rfl _) fun _ => steps.bind (blocks _) fun consequent => ?_
  exact steps.branch rfl (steps.bind (blocks _) fun alternative => steps.pure _) (steps.pure _)

/-- What holds of all steps, of blocks and of looking up the line holds of the reader of items. -/
theorem itemOf (get : holds (levels + 1) anyKind (get : Parse Parser)) :
    holds (levels + 1) starts (itemOf body bound) := by
  -- The kind of the first token tells the form of the item.
  refine steps.bind (steps.start get) fun here => steps.peek fun kind => ?_
  split
  · exact steps.bind (steps.skip rfl) fun _ => steps.functionOf bound _ blocks
  · exact steps.bind (steps.skip rfl) fun _ => steps.conditionalOf bound _ blocks
  · exact steps.bind (steps.skip rfl) fun _ => steps.ended bound _
  · exact steps.bind (steps.skip rfl) fun _ => steps.declarationWithin bound _
  · exact steps.identifierLedWithin bound _
  · exact steps.ended bound _

end Items

end Guided

/-- What holds of the single steps of readers wherever they start, and of whatever is built from
readers of which it holds. -/
structure Stepwise (holds : ∀ {α : Type}, Parse α → Prop) : Prop where
  pure : ∀ {α : Type} (a : α), holds (pure a)
  bind : ∀ {α β : Type} {reader : Parse α} {next : α → Parse β}, holds reader →
    (∀ a, holds (next a)) → holds (reader >>= next)
  unexpected : ∀ {α : Type} expected, holds (unexpected expected : Parse α)
  peek : holds peek
  advance : holds advance
  accept : ∀ kind, holds (accept kind)
  take : ∀ kind context, holds (take kind context)
  name : ∀ context, holds (name context)
  nested : ∀ {α : Type} {reader : Parse α}, holds reader → holds (nested reader)

namespace Stepwise

variable {holds : ∀ {α : Type}, Parse α → Prop} (steps : Stepwise holds)

include steps

/-- What holds wherever readers start holds in front of certain tokens. -/
theorem guided : Guided fun _ _ reader => holds reader where
  -- The levels and the tokens in front are not looked at, so that taking any token is just a step.
  pure := steps.pure
  start := id
  more := id
  bind := steps.bind
  unexpected := steps.unexpected
  peek later := steps.bind steps.peek later
  advance _ := steps.advance
  past _ later := steps.bind (steps.bind steps.advance fun _ => steps.pure ()) fun _ => later
  accept _ := steps.accept _
  take _ := steps.take _
  name context later := steps.bind (steps.name context) later
  nested := steps.nested

/-- Passing over a token of a given kind is taking it and forgetting it. -/
theorem expect (kind : TokenKind) (context : String) : holds (expect kind context) :=
  -- Braces may be passed over as well here, unlike where they are left to blocks.
  steps.bind (steps.take kind context) fun _ => steps.pure ()

/-- A token behind a reader decides between two ways to go on. -/
theorem branch {α : Type} (kind : TokenKind) {yes no : Parse α} (taken : holds yes)
    (passed : holds no) :
    holds (Parser.accept kind >>= fun found => if found then yes else no) :=
  -- Either way is followed, whatever the token was.
  steps.bind (steps.accept kind) fun found => by
    cases found with
    | true => exact taken
    | false => exact passed

variable (bound : Nat)

section Expressions

/-- What holds of all steps holds of the reader of operands. -/
theorem operandWithin : holds (operandWithin bound) :=
  -- No level has to be kept for it, and it may start anywhere.
  @Guided.operandWithin _ steps.guided 0 anyKind bound

/-- What holds of all steps holds of the reader of expressions. -/
theorem expressionWithin : holds (expressionWithin bound) :=
  -- The levels that an expression needs are not counted here.
  @Guided.expressionWithin _ steps.guided 0 anyKind bound

/-- What holds of all steps holds of an operand without a sign. -/
theorem primaryOf : holds (primaryOf (Parser.expressionWithin bound) bound) :=
  -- The expressions inside of it are those of the reader above.
  @Guided.primaryOf _ steps.guided 0 anyKind _ (steps.expressionWithin bound) bound

/-- What holds of all steps holds of a list of arguments. -/
theorem argumentsOf : holds (argumentsOf (Parser.expressionWithin bound) bound) :=
  -- Each argument is an expression of the reader above.
  @Guided.argumentsOf _ steps.guided 0 anyKind _ (steps.expressionWithin bound) bound

/-- What holds of all steps holds of a name with arguments behind it. -/
theorem namedWithin (name : String) : holds (namedWithin bound name) :=
  -- It is built in the same way, wherever it starts.
  @Guided.namedWithin _ steps.guided 0 anyKind bound name

/-- What holds of all steps holds of the operators behind an operand. -/
theorem climbWithin (minimum : Nat) (left : Expr) : holds (climbWithin bound minimum left) :=
  -- The induction over the bound has been made once, for steps that are guided.
  @Guided.climbWithin _ steps.guided 0 anyKind bound minimum left

/-- Operands with operators between them. -/
theorem chainOf (minimum : Nat) : holds (chainOf (Parser.operandWithin bound) bound minimum) :=
  -- The first operand is what the operators behind it start from.
  steps.bind (steps.operandWithin bound) fun first => steps.climbWithin bound minimum first

end Expressions

section Items

variable {body : StateM Parser (List Item)} (line : Nat)

/-- An expression that a semicolon ends. -/
theorem ended {make : Expr → Item} (context : String) : holds (Parser.expressionWithin bound >>=
    fun value => Parser.expect .semicolon context >>= fun _ => Pure.pure (make value)) :=
  -- It is built in the same way, wherever it starts.
  @Guided.ended _ steps.guided 0 anyKind bound make context

/-- What holds of all steps holds of a declaration behind its keyword. -/
theorem declarationWithin : holds (declarationWithin bound line) :=
  -- Its expression is read like any other.
  @Guided.declarationWithin _ steps.guided 0 anyKind bound line

/-- What holds of all steps holds of an item that a name begins. -/
theorem identifierLedWithin : holds (identifierLedWithin bound line) :=
  -- Assignments and expressions are built in the same way, wherever they start.
  @Guided.identifierLedWithin _ steps.guided 0 anyKind bound line

/-- What is read behind parameters is read behind an opening parenthesis that they may follow. -/
theorem parametersThen {next : List String → Parse (List String)}
    (later : ∀ parameters, holds (next parameters)) : holds (Parser.peek >>= fun kind =>
      if kind = some .rightParen then Pure.pure [] >>= next else parameterNames bound >>= next) :=
  -- The list of names is guided whatever comes behind it.
  @Guided.parametersThen _ steps.guided 0 anyKind bound next later

/-- What holds of all steps holds of parameters between parentheses. -/
theorem parametersWithin : holds (parametersWithin bound) :=
  -- What comes behind the parameters is the closing parenthesis.
  @Guided.parametersWithin _ steps.guided 0 anyKind bound

/-- What holds of the items of a block holds of the block. -/
theorem blockOf (inner : holds (always body)) (context : String) :
    holds (blockOf body context) := by
  -- The braces are taken here, which only blocks do; the items between them are one level deeper.
  refine steps.bind (steps.expect .leftBrace context) fun _ => ?_
  refine steps.bind (steps.nested inner) fun items => ?_
  exact steps.bind (steps.expect .rightBrace _) fun _ => steps.pure items

variable (blocks : ∀ context, holds (Parser.blockOf body context))

include blocks

/-- What holds of blocks holds of a function behind its keyword. -/
theorem functionOf : holds (functionOf body bound line) :=
  -- The block of the body is all that goes beyond single steps.
  @Guided.functionOf _ steps.guided 0 anyKind body bound line blocks

/-- What holds of blocks holds of a conditional behind its keyword. -/
theorem conditionalOf : holds (conditionalOf body bound line) :=
  -- So it is with the two blocks of a conditional.
  @Guided.conditionalOf _ steps.guided 0 anyKind body bound line blocks

/-- What holds of all steps, of blocks and of looking up the line holds of the reader of items. -/
theorem itemOf (get : holds (get : Parse Parser)) : holds (itemOf body bound) :=
  -- Each sort of item has its own lemma above; the line is looked up in front of all of them.
  @Guided.itemOf _ steps.guided 0 anyKind body bound blocks get

end Items

end Stepwise

end Parser

end Scriptlet
