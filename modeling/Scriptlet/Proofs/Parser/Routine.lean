import Scriptlet.Proofs.Parser.Recovery
import Scriptlet.Proofs.Parser.Stepwise
import Scriptlet.Proofs.Parser.Tandem

/-! The parsing functions in one list, and the relations between parsers along which all of them
lead, whether or not they come to a defect. -/

namespace Scriptlet

namespace Parser

variable {α : Type} {p q r : Parser}

/-- The functions that read an item, a statement or an expression from its first token on; those of
items begin behind a keyword or in front of it. -/
inductive Whole : {α : Type} → Parse α → Prop where
  /-- An operand without an operator before it. -/
  | primary (bound : Nat) : Whole (primaryOf (expressionWithin bound) bound)
  /-- An operand. -/
  | operand (bound : Nat) : Whole (operandWithin bound)
  /-- Operands with operators between them. -/
  | chain (bound minimum : Nat) : Whole (chainOf (operandWithin bound) bound minimum)
  /-- An expression. -/
  | expression (bound : Nat) : Whole (expressionWithin bound)
  /-- A function. -/
  | function (left bound line : Nat) : Whole (functionOf (itemsWithin left true) bound line)
  /-- A conditional. -/
  | conditional (left bound line : Nat) : Whole (conditionalOf (itemsWithin left true) bound line)
  /-- A return. -/
  | returned (bound line : Nat) : Whole (returnWithin bound line)
  /-- A declaration. -/
  | declaration (bound line : Nat) : Whole (declarationWithin bound line)
  /-- An item that begins with an identifier. -/
  | identifierLed (bound line : Nat) : Whole (identifierLedWithin bound line)
  /-- An expression that stands alone. -/
  | standalone (bound line : Nat) : Whole (standaloneWithin bound line)
  /-- An item. -/
  | item (left bound : Nat) : Whole (itemOf (itemsWithin left true) bound)
  /-- Any of them with a bound that the parser gives it. -/
  | bounded {α : Type} {body : Nat → Parse α} (inner : ∀ bound, Whole (body bound)) :
    Whole (bounded body)

/-- The functions that a parser reads with. -/
inductive Routine : {α : Type} → Parse α → Prop where
  /-- The next token is taken. -/
  | advance : Routine advance
  /-- The next token is passed over. -/
  | skip : Routine skip
  /-- The next token is looked at. -/
  | peek : Routine peek
  /-- The next token is taken if it is of a given kind. -/
  | accept (kind : TokenKind) : Routine (accept kind)
  /-- Reading stops at the next token. -/
  | unexpected {α : Type} (expected : String) : Routine (unexpected expected : Parse α)
  /-- The next token is taken, and has to be of a given kind. -/
  | take (kind : TokenKind) (context : String) : Routine (take kind context)
  /-- The next token is passed over, and has to be of a given kind. -/
  | expect (kind : TokenKind) (context : String) : Routine (expect kind context)
  /-- The next token is taken, and has to be an identifier. -/
  | name (context : String) : Routine (name context)
  /-- Something is read one level deeper. -/
  | nested {α : Type} {reader : Parse α} (inner : Routine reader) : Routine (nested reader)
  /-- The parser recovers from a defect. -/
  | recover (error : SyntaxError) (inBlock : Bool) : Routine (always (recover error inBlock))
  /-- An item, a statement or an expression is read. -/
  | whole {α : Type} {reader : Parse α} (whole : Whole reader) : Routine reader
  /-- The arguments of a call are read. -/
  | arguments (bound : Nat) : Routine (argumentsOf (expressionWithin bound) bound)
  /-- What may follow a name is read. -/
  | named (bound : Nat) (name : String) : Routine (namedWithin bound name)
  /-- The operators behind an operand are read. -/
  | climb (bound minimum : Nat) (left : Expr) : Routine (climbWithin bound minimum left)
  /-- Parameters are read. -/
  | parameters (bound : Nat) : Routine (parametersWithin bound)
  /-- A block is read. -/
  | block (left : Nat) (context : String) : Routine (blockOf (itemsWithin left true) context)
  /-- The items up to an end are read. -/
  | items (bound : Nat) (inBlock : Bool) : Routine (always (itemsWithin bound inBlock))
  /-- All that is left is read. -/
  | program : Routine (always program)
  /-- Any of them with a bound that the parser gives it. -/
  | bounded {α : Type} {body : Nat → Parse α} (inner : ∀ bound, Routine (body bound)) :
    Routine (bounded body)

/-- Something that leads from a parser to where single steps leave it, and to where steps in a row
leave it. -/
structure Passage (leads : Parser → Parser → Prop) : Prop where
  stay : ∀ p, leads p p
  trans : ∀ {p q r}, leads p q → leads q r → leads p r
  pull : ∀ {p}, p.lookahead ≠ none → leads p p.pull
  record : ∀ p error, leads p (p.record error)
  level : ∀ {p q}, ¬ p.limit ≤ p.depth → leads { p with depth := p.depth + 1 } q →
    leads p { q with depth := q.depth - 1 }

/-- From wherever a reader starts, something leads to where it ends. -/
def Leading (leads : Parser → Parser → Prop) (reader : Parse α) : Prop :=
  ∀ p, leads p (endOf (reader p))

namespace Passage

variable {leads : Parser → Parser → Prop} (passage : Passage leads)

include passage

/-- Taking a token, or finding none, leads on. -/
theorem advance : Leading leads advance := by
  -- Where there is no token, the parser stays.
  intro p
  unfold Parser.advance
  split
  next token front => exact passage.pull (by simp [front])
  next => exact passage.stay p

/-- Stopping leads on. -/
theorem unexpected (expected : String) : Leading leads (unexpected expected : Parse α) := by
  -- A defect leaves the parser where it is.
  intro p
  rw [unexpected_apply]
  exact passage.stay p

/-- Taking the lookahead if it is of a given kind leads on. -/
theorem accept (kind : TokenKind) : Leading leads (accept kind) := by
  -- A token of another kind leaves the parser where it is.
  intro p
  unfold Parser.accept
  split
  next found =>
    obtain ⟨token, front, -⟩ := Option.map_eq_some_iff.mp found
    exact passage.pull (by simp [front])
  next => exact passage.stay p

/-- Taking a token of a given kind leads on, whether or not it is there. -/
theorem take (kind : TokenKind) (context : String) : Leading leads (take kind context) := by
  -- The token is taken, or the reading stops in front of what is there.
  intro p
  unfold Parser.take
  split
  next token front =>
    split
    · exact passage.pull (by simp [front])
    · exact passage.unexpected _ p
  next => exact passage.unexpected _ p

/-- Readers in a row lead on, as far as they come. -/
theorem bind {β : Type} {reader : Parse α} {next : α → Parse β} (first : Leading leads reader)
    (later : ∀ a, Leading leads (next a)) : Leading leads (reader >>= next) := by
  -- A defect of the first reader is as far as they come; otherwise the second one goes on.
  intro p
  have begun := first p
  rw [bind_apply]
  cases got : reader p with
  | error error q =>
    rw [got] at begun
    exact begun
  | ok a q =>
    rw [got] at begun
    exact passage.trans begun (later a q)

/-- Taking a name leads on. -/
theorem name (context : String) : Leading leads (name context) := by
  -- Whatever value the token has, nothing more is taken.
  refine passage.bind (passage.take .identifier context) fun token p => ?_
  cases token.value <;> exact passage.stay p

/-- Reading something one level deeper leads on if the reading does. -/
theorem nested {reader : Parse α} (inner : Leading leads reader) :
    Leading leads (nested reader) := by
  -- The level that is entered is left again, so that the two belong together.
  intro p
  by_cases full : p.limit ≤ p.depth
  · rw [nested_of_full full]
    exact passage.stay p
  · rw [nested_of_room full]
    have deeper := passage.level full (inner { p with depth := p.depth + 1 })
    cases got : reader { p with depth := p.depth + 1 } <;> rwa [got] at deeper

/-- What leads on by single steps leads on by the readers of expressions. -/
theorem stepwise : Stepwise fun reader => Leading leads reader where
  -- Each step has its own lemma above.
  pure _ := passage.stay
  bind := passage.bind
  unexpected := passage.unexpected
  peek := passage.stay
  advance := passage.advance
  accept := passage.accept
  take := passage.take
  name := passage.name
  nested := passage.nested

/-- Recovering leads on, whether or not it drops a token. -/
theorem recover (error : SyntaxError) (inBlock : Bool) :
    Leading leads (always (recover error inBlock)) := by
  -- The defect is recorded first; then a token is dropped, unless the items have ended.
  intro p
  show leads p (Parser.recover error inBlock p).2
  rw [recover_apply]
  split
  · exact passage.record p error
  next drops =>
    have more : (p.record error).lookahead ≠ none := lookahead_ne_none drops
    exact passage.trans (passage.record p error) (passage.pull more)

/-- Items lead on: each round does. -/
theorem items (bound : Nat) (inBlock : Bool) :
    Leading leads (always (itemsWithin bound inBlock)) := by
  induction bound generalizing inBlock with
  | zero => exact passage.stay
  | succ bound ih =>
    intro p
    have item : Leading leads (itemOf (itemsWithin bound true) (bound + 1)) :=
      passage.stepwise.itemOf _ (passage.stepwise.blockOf (ih true)) passage.stay
    have round := item p
    show leads p (itemsWithin (bound + 1) inBlock p).2
    rw [itemsWithin_apply]
    split
    · exact passage.stay p
    · -- Behind an item, or where the parser has recovered, the others go on.
      cases got : itemOf (itemsWithin bound true) (bound + 1) p with
      | ok first q =>
        rw [got] at round
        exact passage.trans round (ih inBlock q)
      | error error q =>
        rw [got] at round
        exact passage.trans round (passage.trans (passage.recover error inBlock q) (ih inBlock _))

/-- The readers of items, statements and expressions lead on. -/
theorem whole {reader : Parse α} (whole : Whole reader) : Leading leads reader := by
  -- The bodies of blocks are items, which lead on; everything else is built from single steps.
  have steps := passage.stepwise
  have blocks (left : Nat) (context : String) :
      Leading leads (blockOf (itemsWithin left true) context) :=
    steps.blockOf (passage.items left true) context
  induction whole with
  | primary bound => exact steps.primaryOf bound
  | operand bound => exact steps.operandWithin bound
  | chain bound minimum => exact steps.chainOf bound minimum
  | expression bound => exact steps.expressionWithin bound
  | function left bound line => exact steps.functionOf bound line (blocks left)
  | conditional left bound line => exact steps.conditionalOf bound line (blocks left)
  | returned bound line => exact steps.ended bound _
  | declaration bound line => exact steps.declarationWithin bound line
  | identifierLed bound line => exact steps.identifierLedWithin bound line
  | standalone bound line => exact steps.ended bound _
  | item left bound => exact steps.itemOf bound (blocks left) passage.stay
  | bounded inner ih => exact fun p => ih p.unread p

/-- All functions of a parser lead on, if writing into the log does as well. -/
theorem routine (note : ∀ p event, leads p (p.note event)) {reader : Parse α}
    (routine : Routine reader) : Leading leads reader := by
  have steps := passage.stepwise
  induction routine with
  | advance => exact passage.advance
  | skip => exact steps.bind passage.advance fun _ => steps.pure ()
  | peek => exact steps.peek
  | accept kind => exact passage.accept kind
  | unexpected expected => exact passage.unexpected expected
  | take kind context => exact passage.take kind context
  | expect kind context => exact steps.expect kind context
  | name context => exact passage.name context
  | nested inner ih => exact passage.nested ih
  | recover error inBlock => exact passage.recover error inBlock
  | whole whole => exact passage.whole whole
  | arguments bound => exact steps.argumentsOf bound
  | named bound name => exact steps.namedWithin bound name
  | climb bound minimum left => exact steps.climbWithin bound minimum left
  | parameters bound => exact steps.parametersWithin bound
  | block left context => exact steps.blockOf (passage.items left true) context
  | items bound inBlock => exact passage.items bound inBlock
  | program =>
    -- The items stand between two events.
    intro p
    have items := passage.items p.unread false (p.note .parsingStarted)
    exact passage.trans (note p _) (passage.trans items (note _ _))
  | bounded inner ih => exact fun p => ih p.unread p

end Passage

end Parser

end Scriptlet
