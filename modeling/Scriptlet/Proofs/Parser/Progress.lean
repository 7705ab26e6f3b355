import Scriptlet.Proofs.Parser.Concatenation
import Scriptlet.Proofs.Parser.Routine

/-! Reading gets on: no function of a parser gives tokens back, items, statements and expressions
cost a token at least, and so does each round of reading items, even if nothing could be read. -/

namespace Scriptlet

namespace Parser

variable {α β : Type} {left : Parser → Nat} {starts : Option TokenKind → Prop} {p q : Parser}
  {reader : Parse α} {next : α → Parse β} {bound : Nat}

/-- A measure of what is left to a parser: every token that is taken lowers it, and no other step
raises it. -/
structure Measure (left : Parser → Nat) : Prop where
  pull : ∀ {p}, p.lookahead ≠ none → left p.pull < left p
  record : ∀ p error, left (p.record error) ≤ left p
  level : ∀ p depth, left { p with depth } = left p

/-- What a reader comes to leaves less; where it stops, the parser may also see the same token as
before. -/
def Onward (left : Parser → Nat) (p : Parser) : EStateM.Result SyntaxError Parser α → Prop
  | .ok _ q => left q < left p
  | .error _ q => left q < left p ∨ left q ≤ left p ∧ q.lookahead = p.lookahead

/-- A reader that starts in front of certain tokens gets on. -/
def Advances (left : Parser → Nat) (starts : Option TokenKind → Prop) (reader : Parse α) : Prop :=
  ∀ p, starts p.kind? → Onward left p (reader p)

/-- Where reading stops at once, the parser sees the same token as before. -/
theorem onward_unexpected (expected : String) (p : Parser) :
    Onward left p (unexpected expected p : EStateM.Result SyntaxError Parser α) := by
  -- Nothing is taken, and the parser stays where it is.
  rw [unexpected_apply]
  exact .inr ⟨Nat.le_refl _, rfl⟩

/-- Stopping at once is one way to get on, since the token that is next is still there to be
dropped. -/
theorem advances_unexpected (expected : String) :
    Advances left starts (unexpected expected : Parse α) :=
  -- It does not matter in front of which token.
  fun p _ => onward_unexpected expected p

/-- The kind of the next token may decide how to get on. -/
theorem advances_peek {next : Option TokenKind → Parse β}
    (later : ∀ kind, Advances left (· = kind) (next kind)) :
    Advances left starts (peek >>= next) :=
  -- The kind that is seen is the kind that the reader behind it starts with.
  fun p _ => later p.kind? p rfl

/-- Behind a reader that gets on, others need not, as long as they give nothing back. -/
theorem Advances.bind (first : Advances left starts reader)
    (later : ∀ a, Leading (fun p q => left q ≤ left p) (next a)) :
    Advances left starts (reader >>= next) := by
  -- What was gained by the first reader is not lost again, whether or not the later one succeeds.
  intro p start
  have begun := first p start
  rw [bind_apply]
  cases got : reader p with
  | error error q =>
    rw [got] at begun
    exact begun
  | ok a q =>
    rw [got] at begun
    have rest := later a q
    show Onward left p (next a q)
    cases got' : next a q with
    | error error r =>
      rw [got'] at rest
      exact .inl (Nat.lt_of_le_of_lt rest begun)
    | ok b r =>
      rw [got'] at rest
      exact Nat.lt_of_le_of_lt rest begun

/-- The line may be looked up first. -/
theorem advances_get {next : Parser → Parse β} (later : ∀ here, Advances left starts (next here)) :
    Advances left starts (get >>= next) :=
  -- Looking up the line leaves the parser in front of the same token.
  fun p start => later p p start

namespace Measure

variable (measure : Measure left)

include measure

/-- No step leaves more than there was. -/
theorem passage : Passage fun p q => left q ≤ left p where
  -- Only taking a token makes the measure smaller; neither a defect nor a level makes it larger.
  stay _ := Nat.le_refl _
  trans first second := Nat.le_trans second first
  pull more := Nat.le_of_lt (measure.pull more)
  record := measure.record
  level {p q} _ inside := by
    rw [measure.level p] at inside
    rwa [measure.level q]

/-- Taking the lookahead leaves less. -/
theorem advance {kind : TokenKind} : Advances left (· = some kind) advance := by
  -- A kind in front means that there is a token to take.
  intro p start
  obtain ⟨token, front, -⟩ := Option.map_eq_some_iff.mp start
  rw [Parser.advance, front]
  exact measure.pull (by simp [front])

/-- Passing over the lookahead leaves less. -/
theorem skip {kind : TokenKind} : Advances left (· = some kind) skip :=
  -- The token is taken first, and handing nothing over takes none back.
  measure.advance.bind fun _ => measure.passage.stay

/-- Passing over a token gets on, whatever is read behind it. -/
theorem past {kind : TokenKind} (later : Leading (fun p q => left q ≤ left p) reader) :
    Advances left (· = some kind) (Parser.skip >>= fun _ => reader) :=
  -- The token in front is enough, since the rest gives nothing back.
  measure.skip.bind fun _ => later

/-- Taking a token of a given kind leaves less, or stops in front of the token. -/
theorem take (kind : TokenKind) (context : String) : Advances left starts (take kind context) := by
  -- A token of another kind, or none at all, is left where it is.
  intro p _
  unfold Parser.take
  split
  next token front =>
    split
    · exact measure.pull (by simp [front])
    · exact onward_unexpected _ p
  next => exact onward_unexpected _ p

/-- Passing over a token of a given kind leaves less, or stops in front of the token. -/
theorem expect (kind : TokenKind) (context : String) :
    Advances left starts (expect kind context) :=
  -- What is forgotten has been taken nevertheless.
  (measure.take kind context).bind fun _ => measure.passage.stay

/-- Taking a name leaves less, even where the token turns out to have none. -/
theorem name (context : String) : Advances left starts (name context) := by
  -- A token has been taken before its value is looked at.
  refine (measure.take .identifier context).bind fun token p => ?_
  cases token.value <;> exact measure.passage.stay p

/-- What gets on does so one level deeper as well. -/
theorem nested (inner : Advances left anyKind reader) : Advances left starts (nested reader) := by
  -- Without a free level the reader stops at once, and otherwise the
  -- measure does not see the level.
  intro p _
  by_cases full : p.limit ≤ p.depth
  · rw [nested_of_full full]
    exact .inr ⟨Nat.le_refl _, rfl⟩
  · rw [nested_of_room full]
    have deeper := inner { p with depth := p.depth + 1 } trivial
    cases got : reader { p with depth := p.depth + 1 } with
    | error error q =>
      rw [got] at deeper
      simp only [Onward, measure.level] at deeper
      simpa only [raised, Onward, measure.level] using deeper
    | ok a q =>
      rw [got] at deeper
      simp only [Onward, measure.level] at deeper
      simpa only [raised, Onward, measure.level] using deeper

/-- Taking a literal leaves less, even where the token turns out to be none. -/
theorem literal {kind : TokenKind} : Advances left (· = some kind) literal := by
  -- A token has been taken before its value is looked at.
  refine measure.advance.bind fun token => ?_
  split
  · exact measure.passage.stay
  · exact measure.passage.stay
  · exact measure.passage.unexpected _

/-- Every form of a primary expression begins with a token. -/
theorem primaryOf (bound : Nat) :
    Advances left starts (primaryOf (expressionWithin bound) bound) := by
  -- Names, literals and parentheses take their first token before anything else is read.
  have steps := measure.passage.stepwise
  refine advances_peek fun kind => ?_
  split
  · exact (measure.name _).bind fun name => steps.namedWithin bound name
  · exact measure.literal
  · exact measure.literal
  · exact measure.past (steps.pure _)
  · exact measure.past (steps.pure _)
  · refine measure.past (steps.bind (steps.expressionWithin bound) fun e => ?_)
    exact steps.bind (steps.expect _ _) fun _ => steps.pure e
  · exact advances_unexpected _

/-- An operand costs the token that it begins with. -/
theorem operandWithin (bound : Nat) : Advances left starts (operandWithin bound) := by
  -- A sign is such a token, and without one the operand is a primary expression.
  have steps := measure.passage.stepwise
  cases bound with
  | zero => exact advances_unexpected _
  | succ bound =>
    refine advances_peek fun kind => ?_
    cases found : kind.bind UnaryOperator.ofKind? with
    | none => exact measure.primaryOf bound
    | some operator =>
      obtain ⟨mark, rfl, -⟩ := Option.bind_eq_some_iff.mp found
      exact measure.past
        (steps.bind (steps.nested (steps.operandWithin bound)) fun e => steps.pure _)

/-- Operands with operators between them cost what the first operand does. -/
theorem chainOf (bound minimum : Nat) :
    Advances left starts (chainOf (Parser.operandWithin bound) bound minimum) :=
  -- The operators behind the first operand only take more.
  (measure.operandWithin bound).bind fun first =>
    measure.passage.stepwise.climbWithin bound minimum first

/-- An expression costs what its first operand does. -/
theorem expressionWithin (bound : Nat) : Advances left starts (expressionWithin bound) :=
  -- The level around it costs nothing.
  measure.nested (measure.chainOf bound _)

/-- Parameters cost the parenthesis in front of them. -/
theorem parametersWithin (bound : Nat) : Advances left starts (parametersWithin bound) := by
  -- Between the parentheses there may be nothing at all.
  have steps := measure.passage.stepwise
  refine (measure.expect _ _).bind fun _ => ?_
  exact steps.parametersThen bound fun parameters =>
    steps.bind (steps.expect _ _) fun _ => steps.pure parameters

/-- An expression that a semicolon ends costs what the expression does. -/
theorem ended (bound : Nat) {make : Expr → Item} (context : String) :
    Advances left starts (Parser.expressionWithin bound >>= fun value =>
      Parser.expect .semicolon context >>= fun _ => pure (make value)) := by
  -- The semicolon comes on top of that.
  have steps := measure.passage.stepwise
  exact (measure.expressionWithin bound).bind fun value =>
    steps.bind (steps.expect _ _) fun _ => steps.pure _

/-- A declaration costs its name. -/
theorem declarationWithin (bound line : Nat) :
    Advances left starts (declarationWithin bound line) := by
  -- The keyword has been taken before, so that it is the name that counts here.
  have steps := measure.passage.stepwise
  exact (measure.name _).bind fun name =>
    steps.bind (steps.expect _ _) fun _ => steps.ended bound _

/-- What begins with an identifier costs it. -/
theorem identifierLedWithin (bound line : Nat) :
    Advances left starts (identifierLedWithin bound line) := by
  -- The identifier is taken before it is known whether it is assigned to.
  have steps := measure.passage.stepwise
  refine (measure.name _).bind fun name => steps.branch .assign (steps.ended bound _) ?_
  refine steps.bind (steps.namedWithin bound name) fun head => ?_
  refine steps.bind (steps.climbWithin bound _ head) fun value => ?_
  exact steps.bind (steps.expect _ _) fun _ => steps.pure _

section Items

variable {body : StateM Parser (List Item)}
  (bodies : Leading (fun p q => left q ≤ left p) (always body)) (line : Nat)

include bodies

/-- A function costs its name, or the parenthesis in front of its parameters. -/
theorem functionOf : Advances left starts (functionOf body bound line) := by
  -- The keyword has been taken before; with a name or without one, another token follows.
  have steps := measure.passage.stepwise
  have blocks (name : Option String) (parameters : List String) :
      Leading (fun p q => left q ≤ left p) (blockOf body "before function body" >>= fun items =>
        pure (Item.function line name parameters items)) :=
    steps.bind (steps.blockOf bodies _) fun items => steps.pure _
  refine advances_peek fun kind => ?_
  split
  · rw [map_eq_pure_bind]
    refine ((measure.name _).bind fun name => steps.pure (some name)).bind fun name => ?_
    exact steps.bind (steps.parametersWithin bound) (blocks name)
  · rw [pure_bind]
    exact (measure.parametersWithin bound).bind (blocks none)

/-- A conditional costs the parenthesis in front of its condition. -/
theorem conditionalOf : Advances left starts (conditionalOf body bound line) := by
  -- The parenthesis is taken first, whatever becomes of the condition and of the blocks.
  have steps := measure.passage.stepwise
  have blocks := steps.blockOf bodies
  refine (measure.expect _ _).bind fun _ => ?_
  refine steps.bind (steps.expressionWithin bound) fun condition => ?_
  refine steps.bind (steps.expect _ _) fun _ => steps.bind (blocks _) fun consequent => ?_
  exact steps.branch .elseWord (steps.bind (blocks _) fun alternative => steps.pure _)
    (steps.pure _)

/-- An item costs the token that tells its form, or what the form costs. -/
theorem itemOf (bound : Nat) : Advances left starts (itemOf body bound) := by
  -- A keyword is taken at once; what begins otherwise is an expression or a name.
  have steps := measure.passage.stepwise
  have blocks := steps.blockOf bodies
  refine advances_get fun here => advances_peek fun kind => ?_
  split
  · exact measure.past (steps.functionOf bound _ blocks)
  · exact measure.past (steps.conditionalOf bound _ blocks)
  · exact measure.past (steps.ended bound _)
  · exact measure.past (steps.declarationWithin bound _)
  · exact measure.identifierLedWithin bound _
  · exact measure.ended bound _

end Items

end Measure

namespace Measure

variable (measure : Measure left) {inBlock : Bool}

include measure

/-- The readers of items, statements and expressions get on. -/
theorem whole {reader : Parse α} (whole : Whole reader) : Advances left anyKind reader := by
  -- Each of these readers has its own lemma above; a bound on the tokens makes no difference to it.
  have bodies (bound : Nat) :
      Leading (fun p q => left q ≤ left p) (always (itemsWithin bound true)) :=
    measure.passage.items bound true
  induction whole with
  | primary bound => exact measure.primaryOf bound
  | operand bound => exact measure.operandWithin bound
  | chain bound minimum => exact measure.chainOf bound minimum
  | expression bound => exact measure.expressionWithin bound
  | function left bound line => exact measure.functionOf (bodies left) line
  | conditional left bound line => exact measure.conditionalOf (bodies left) line
  | returned bound line => exact measure.ended bound _
  | declaration bound line => exact measure.declarationWithin bound line
  | identifierLed bound line => exact measure.identifierLedWithin bound line
  | standalone bound line => exact measure.ended bound _
  | item left bound => exact measure.itemOf (bodies left) bound
  | bounded inner ih => exact fun p _ => ih p.unread p trivial

/-- Where items have not ended, recovering from what got on leaves less: unless something was taken
before, the token that is still next is dropped. -/
theorem recover (unfinished : ¬ p.atEnd inBlock = true) {error : SyntaxError}
    (onward : Onward left p (.error error q : EStateM.Result SyntaxError Parser α)) :
    left (recover error inBlock q).2 < left p := by
  -- Either something was taken before the defect, or the token in the way is dropped now.
  rcases onward with less | ⟨same, look⟩
  · exact Nat.lt_of_le_of_lt (measure.passage.recover error inBlock q) less
  · have ends : q.atEnd inBlock = p.atEnd inBlock := by rw [atEnd, atEnd, kind?, kind?, look]
    rw [← ends] at unfinished
    have more : (q.record error).lookahead ≠ none := lookahead_ne_none unfinished
    rw [recover_apply, if_neg unfinished]
    exact Nat.lt_of_lt_of_le (measure.pull more) (Nat.le_trans (measure.record q error) same)

/-- Where items have not ended, less is left behind an item, or once the parser has recovered. -/
theorem attempt {body : StateM Parser (List Item)}
    (bodies : Leading (fun p q => left q ≤ left p) (always body)) (bound : Nat)
    (unfinished : ¬ p.atEnd inBlock = true) :
    match Parser.itemOf body bound p with
    | .ok _ q => left q < left p
    | .error error q => left (Parser.recover error inBlock q).2 < left p := by
  -- A defect leaves the reading of the item where recovering can go on from.
  have item : Advances left anyKind (Parser.itemOf body bound) := measure.itemOf bodies bound
  have onward := item p trivial
  cases got : Parser.itemOf body bound p with
  | ok first q =>
    rw [got] at onward
    exact onward
  | error error q =>
    rw [got] at onward
    exact measure.recover unfinished onward

/-- A round of reading items leaves less. -/
theorem itemRound {body : StateM Parser (List Item)}
    (bodies : Leading (fun p q => left q ≤ left p) (always body)) (bound : Nat)
    (unfinished : ¬ p.atEnd inBlock = true) :
    left (itemRound (fun error _ => error) body bound inBlock p).2 < left p := by
  -- A round is one such attempt, whichever way it ends.
  have attempt := measure.attempt bodies bound unfinished
  rw [Parser.itemRound]
  cases got : Parser.itemOf body bound p <;> rwa [got] at attempt

end Measure

/-- Items are read up to their end if there are as many rounds as there is left. -/
theorem Measure.atEnd_itemsWithin (measure : Measure left) {inBlock : Bool}
    (fits : left p ≤ bound) : (itemsWithin bound inBlock p).2.atEnd inBlock = true := by
  induction bound generalizing p with
  | zero =>
    by_cases ended : p.atEnd inBlock = true
    · exact ended
    · -- Whoever has not come to the end has something left.
      have less := measure.pull (lookahead_ne_none ended)
      omega
  | succ bound ih =>
    by_cases ended : p.atEnd inBlock = true
    · rw [loopsBehind_itemsWithin.ended ended]
      exact ended
    · rw [itemsWithin_round ended]
      have less := measure.itemRound (measure.passage.items bound true) (bound + 1) ended
      exact ih (by omega)

/-- The tokens in front of a parser measure what is left to it. -/
theorem measure_upcoming : Measure fun p => p.upcoming.length where
  -- Moving on drops the first of the tokens, and no other step touches them.
  pull {p} more := by
    obtain ⟨token, front⟩ := Option.ne_none_iff_exists'.mp more
    rw [upcoming_eq_cons front, List.length_cons]
    exact Nat.lt_succ_self _
  record p error := Nat.le_of_eq (congrArg List.length (p.upcoming_record error))
  level _ _ := rfl

section Marking

/-- Reads items like `itemsWithin`, and writes an event into the log in front of each attempt to
read one, on whatever level. -/
def itemsMarking (mark : Event) : (bound : Nat) → (inBlock : Bool) → StateM Parser (List Item)
  | 0, _ => pure []
  | bound + 1, inBlock => do
    if (← get).atEnd inBlock then return []
    modify fun p => p.note mark
    match ← attempt (itemOf (itemsMarking mark bound true) (bound + 1)) with
    | .ok first => return first :: (← itemsMarking mark bound inBlock)
    | .error error =>
      Parser.recover error inBlock
      itemsMarking mark bound inBlock

/-- Marked items are read by a loop that writes an event in front of each round. -/
theorem loopsBehind_itemsMarking (mark : Event) :
    LoopsBehind (·.note mark) (itemsMarking mark) where
  -- The mark is written when the loop has found that items are left, and before the item is read.
  ended {bound inBlock p} ended := by
    cases bound with
    | zero => rfl
    | succ bound =>
      show (if p.atEnd inBlock = true then pure [] else _ : StateM Parser (List Item)) p = _
      rw [if_pos ended]
      rfl
  round {bound inBlock p} unfinished := by
    show (if p.atEnd inBlock = true then pure [] else _ : StateM Parser (List Item)) p = _
    rw [if_neg unfinished, itemRound]
    have marked : (modify fun p => p.note mark : StateM Parser Unit) p = ((), p.note mark) := rfl
    cases got : itemOf (itemsMarking mark bound true) (bound + 1) (p.note mark) with
    | ok first q =>
      simp only [bind, StateT.bind, marked, attempt, got]
      rfl
    | error error q =>
      simp only [bind, StateT.bind, marked, attempt, got]
      rfl

variable {mark : Event} (quiet : mark.diagnostic? = none) {inBlock : Bool}

/-- How often an event is in the log. -/
def timesLogged (mark : Event) (p : Parser) : Nat :=
  p.journal.toList.count mark

/-- Writing an event into the log counts once. -/
theorem timesLogged_note (mark : Event) (p : Parser) :
    (p.note mark).timesLogged mark = p.timesLogged mark + 1 := by
  -- The event comes last in the journal, behind all that has been counted.
  have written : (p.note mark).journal.toList = p.journal.toList ++ [mark] := Array.toList_push
  rw [timesLogged, written, List.count_append, List.count_singleton_self]
  rfl

include quiet

/-- An event that warns of no defect is not logged by moving on. -/
theorem timesLogged_pull (p : Parser) : p.pull.timesLogged mark = p.timesLogged mark := by
  -- All that the lexer writes are lexical defects, and the event is about none of them.
  obtain ⟨found, -, journal⟩ := Lexer.logs_next p.lexer
  have logged : p.pull.journal.toList = p.journal.toList ++ found.map Event.lexicalError := journal
  have absent : mark ∉ found.map Event.lexicalError := by
    intro member
    obtain ⟨error, -, rfl⟩ := List.mem_map.mp member
    cases quiet
  rw [timesLogged, logged, List.count_append, List.count_eq_zero.mpr absent]
  rfl

/-- An event that warns of no defect is not logged by recording one. -/
theorem timesLogged_record (p : Parser) (error : SyntaxError) :
    (p.record error).timesLogged mark = p.timesLogged mark := by
  -- The one event that is written is about the defect.
  have logged : (p.record error).journal.toList = p.journal.toList ++ [.syntaxError error] :=
    Array.toList_push
  have absent : mark ∉ [Event.syntaxError error] := by
    rintro (_ | ⟨_, ⟨⟩⟩)
    cases quiet
  rw [timesLogged, logged, List.count_append, List.count_eq_zero.mpr absent]
  rfl

/-- The tokens in front of a parser, and with them the marks behind it, measure what is left. -/
theorem measure_marked : Measure fun p => p.upcoming.length + p.timesLogged mark where
  -- A step that takes a token writes no mark, so that the number of marks does not hide it.
  pull {p} more := by
    have less := measure_upcoming.pull more
    simp only [timesLogged_pull quiet] at less ⊢
    omega
  record p error := by
    simp only [upcoming_record, timesLogged_record quiet]
    exact Nat.le_refl _
  level _ _ := rfl

/-- For each mark that is made while items are read, a token is taken. -/
theorem length_add_timesLogged_le (bound : Nat) (inBlock : Bool) (p : Parser) :
    (itemsMarking mark bound inBlock p).2.upcoming.length +
      (itemsMarking mark bound inBlock p).2.timesLogged mark ≤
        p.upcoming.length + p.timesLogged mark := by
  have rounds := loopsBehind_itemsMarking mark
  induction bound generalizing inBlock p with
  | zero => exact Nat.le_refl _
  | succ bound ih =>
    by_cases ended : p.atEnd inBlock = true
    · exact Nat.le_of_eq (by rw [rounds.ended ended])
    · -- The round makes a mark, and takes a token in return.
      have round := (measure_marked quiet).itemRound (p := p.note mark) (ih true) (bound + 1) ended
      simp only [timesLogged_note, upcoming_note] at round
      rw [rounds.round ended]
      exact Nat.le_trans (ih inBlock _) (Nat.le_of_lt_succ round)

omit quiet in
/-- Marking makes no difference to what is read, nor to what is recorded. -/
theorem Ready.itemsMarking_eq (ready : p.Ready) (mark : Event)
    (fits : p.upcoming.length ≤ bound) (inBlock : Bool) :
    (itemsMarking mark bound inBlock p).1 = (itemsWithin bound inBlock p).1 ∧
      (itemsWithin bound inBlock p).2.Apart 0 [] [] (itemsMarking mark bound inBlock p).2 := by
  -- The marked loop goes side by side with the usual one, each time with one event more in its log.
  have follows := Tandem.follows_rounds (T := Tandem.shifted 0 []) (loopsBehind_itemsMarking mark)
    (fun apart => apart.note mark) (Nat.le_refl bound) inBlock
  rcases follows.reads p p ready.apart_self trivial fits with lost | agrees
  · exact lost.elim
  · obtain ⟨items, after, -⟩ := Tandem.agrees_always.mp agrees
    have usual : itemsBlaming (Tandem.shifted 0 []).blame bound inBlock p =
      itemsWithin bound inBlock p := itemsBlaming_self (fun _ _ => rfl) bound inBlock p
    rw [usual] at items after
    exact ⟨(items.eq rfl rfl).symm, after⟩

end Marking

end Parser

open Scriptlet.Parser

end Scriptlet
