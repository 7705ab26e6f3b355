import Scriptlet.Proofs.Parser.Lasting

/-! Readers of expressions see how deep they are only where no level is left, so that an item that
begins with an identifier may be read without the level that an expression takes. -/

namespace Scriptlet

/-- A defect with another limit, if it is about one. -/
def SyntaxError.mapLimit (f : Nat → Nat) : SyntaxError → SyntaxError
  | .unexpectedToken found expected line => .unexpectedToken found expected line
  | .unexpectedEnd expected line => .unexpectedEnd expected line
  | .nestingTooDeep limit line => .nestingTooDeep (f limit) line

/-- A defect that keeps its limit stays as it is. -/
@[simp] theorem SyntaxError.mapLimit_add_zero (error : SyntaxError) :
    error.mapLimit (· + 0) = error := by
  -- Only a defect about nesting has a limit, and there it is the same one.
  cases error <;> rfl

namespace Parser

/-- A parser some levels deeper, and with a limit that allows for some levels more. -/
def sunk (levels more : Nat) (p : Parser) : Parser :=
  { p with depth := p.depth + levels, limit := p.limit + more }

/-- What a reader comes to if it is some levels deeper, and the limit allows for some more. -/
def sunkResult {α : Type} (levels more : Nat) :
    EStateM.Result SyntaxError Parser α → EStateM.Result SyntaxError Parser α
  | .ok a q => .ok a (q.sunk levels more)
  | .error error q => .error (error.mapLimit (· + more)) (q.sunk levels more)

/-- Reading stopped because no level was left. -/
def isTooDeep {α : Type} : EStateM.Result SyntaxError Parser α → Bool
  | .ok _ _ => false
  | .error error _ => error.isNesting

/-- A reader comes back to the level where it started, and starting some levels deeper makes no
difference to it, unless these are more than the limit allows for. -/
def Sinks {α : Type} (levels more : Nat) (reader : Parse α) : Prop :=
  ∀ p, (endOf (reader p)).depth = p.depth ∧
    (more < levels ∧ isTooDeep (reader (p.sunk levels more)) = true ∨
      reader (p.sunk levels more) = sunkResult levels more (reader p))

section Steps

variable {α β : Type} {levels more : Nat} {reader : Parse α} {next : α → Parse β}

/-- Stopping for want of a level is stopping at all that would be read behind it. -/
theorem isTooDeep_bind {p : Parser} (deep : isTooDeep (reader p) = true) :
    isTooDeep ((reader >>= next) p) = true := by
  -- The first reader has no result that the second one could go on with.
  rw [bind_apply]
  cases got : reader p with
  | ok a q =>
    rw [got] at deep
    exact absurd deep Bool.false_ne_true
  | error error q =>
    rw [got] at deep
    exact deep

/-- Leaving a level makes no difference to why reading stopped. -/
@[simp] theorem isTooDeep_raised (result : EStateM.Result SyntaxError Parser α) :
    isTooDeep (raised result) = isTooDeep result := by
  -- The reason comes with the defect, and the level with the parser.
  cases result <;> rfl

/-- Readers in a row may start deeper if each of them may. -/
theorem Sinks.bind (first : Sinks levels more reader) (later : ∀ a, Sinks levels more (next a)) :
    Sinks levels more (reader >>= next) := by
  intro p
  obtain ⟨level, reads⟩ := first p
  rcases reads with ⟨fewer, deep⟩ | same
  · -- Stopping at the first reader is stopping at both.
    refine ⟨?_, .inl ⟨fewer, isTooDeep_bind deep⟩⟩
    rw [bind_apply]
    cases got : reader p with
    | error error q =>
      rw [got] at level
      exact level
    | ok a q =>
      rw [got] at level
      exact ((later a) q).1.trans level
  · rw [bind_apply, bind_apply, same]
    cases got : reader p with
    | error error q =>
      rw [got] at level
      exact ⟨level, .inr rfl⟩
    | ok a q =>
      rw [got] at level
      obtain ⟨level', reads'⟩ := later a q
      exact ⟨level'.trans level, reads'⟩

/-- To read nothing may start deeper. -/
theorem sinks_pure (a : α) : Sinks levels more (pure a) :=
  -- Nothing is read on either level.
  fun _ => ⟨rfl, .inr rfl⟩

/-- To stop at the lookahead may start deeper. -/
theorem sinks_unexpected (expected : String) :
    Sinks levels more (unexpected expected : Parse α) := by
  -- A defect at the next token has no limit in it.
  intro p
  have same : (p.sunk levels more).defect expected = (p.defect expected).mapLimit (· + more) := by
    show p.defect expected = _
    unfold defect
    cases p.lookahead <;> rfl
  rw [unexpected_apply, unexpected_apply, same]
  exact ⟨rfl, .inr rfl⟩

/-- To look at the next token may start deeper. -/
theorem sinks_peek : Sinks levels more peek :=
  -- The token does not depend on the level.
  fun _ => ⟨rfl, .inr rfl⟩

/-- To take the lookahead may start deeper. -/
theorem sinks_advance : Sinks levels more advance := by
  -- The lookahead is the same at any depth.
  intro p
  cases front : p.lookahead with
  | none =>
    have front' : (p.sunk levels more).lookahead = none := front
    rw [advance, advance, front, front']
    exact ⟨rfl, .inr rfl⟩
  | some token =>
    have front' : (p.sunk levels more).lookahead = some token := front
    rw [advance, advance, front, front']
    exact ⟨rfl, .inr rfl⟩

/-- To take the lookahead if it is of a given kind may start deeper. -/
theorem sinks_accept (kind : TokenKind) : Sinks levels more (accept kind) := by
  -- The kind of the lookahead does not depend on the level.
  intro p
  by_cases found : p.kind? = some kind
  · have found' : (p.sunk levels more).kind? = some kind := found
    rw [accept, accept, if_pos found, if_pos found']
    exact ⟨rfl, .inr rfl⟩
  · have found' : (p.sunk levels more).kind? ≠ some kind := found
    rw [accept, accept, if_neg found, if_neg found']
    exact ⟨rfl, .inr rfl⟩

/-- To take a token of a given kind may start deeper. -/
theorem sinks_take (kind : TokenKind) (context : String) :
    Sinks levels more (take kind context) := by
  -- The token is taken on both levels, or the reading stops on both.
  intro p
  have stops : Sinks levels more (unexpected (expectation kind context) : Parse Token) :=
    sinks_unexpected _
  cases front : p.lookahead with
  | none =>
    have front' : (p.sunk levels more).lookahead = none := front
    rw [take, take, front, front']
    exact stops p
  | some token =>
    have front' : (p.sunk levels more).lookahead = some token := front
    rw [take, take, front, front']
    by_cases found : token.kind = kind
    · simp only [found, ↓reduceIte]
      exact ⟨rfl, .inr rfl⟩
    · simpa only [found, ↓reduceIte] using stops p

/-- To take a name may start deeper. -/
theorem sinks_name (context : String) : Sinks levels more (name context) := by
  -- If the token has no name, its defect is about the token, and not about the limit.
  refine (sinks_take .identifier context).bind fun token => ?_
  cases token.value with
  | text content => exact sinks_pure content
  | number number => exact fun _ => ⟨rfl, .inr rfl⟩

/-- A reader that sinks from inside a level does so from outside of it. -/
theorem raised_sunkResult {result : EStateM.Result SyntaxError Parser α} {depth : Nat}
    (level : (endOf result).depth = depth + 1) :
    raised (sunkResult levels more result) = sunkResult levels more (raised result) := by
  -- The level that was entered is left again.
  have back {q : Parser} (level : q.depth = depth + 1) :
      { q.sunk levels more with depth := (q.sunk levels more).depth - 1 } =
        ({ q with depth := q.depth - 1 } : Parser).sunk levels more := by
    simp only [sunk, level]
    congr 1
    omega
  cases result with
  | ok a q => exact congrArg (EStateM.Result.ok a) (back level)
  | error error q => exact congrArg (EStateM.Result.error _) (back level)

/-- One level further out, whatever was one level deeper is where it was. -/
theorem raised_sunkResult_one (result : EStateM.Result SyntaxError Parser α) :
    raised (sunkResult 1 more result) = sunkResult 0 more result := by
  -- Behind a defect the level is left as well.
  cases result <;> rfl

/-- A level more is there for both or for none, unless the deeper one lacks levels. -/
theorem Sinks.nested (sinks : Sinks levels more reader) (fewer : more ≤ levels) :
    Sinks levels more (nested reader) := by
  -- Where the outer parser has no level left, the deeper one has none either.
  intro p
  have limit : (p.sunk levels more).limit = p.limit + more := rfl
  have depth : (p.sunk levels more).depth = p.depth + levels := rfl
  by_cases full : p.limit ≤ p.depth
  · rw [nested_of_full full, nested_of_full (by omega)]
    exact ⟨rfl, .inr rfl⟩
  obtain ⟨level, reads⟩ := sinks { p with depth := p.depth + 1 }
  -- Entering a level and sinking by some others come to the same in either order.
  have deeper : ({ p with depth := p.depth + 1 } : Parser).sunk levels more =
      { p.sunk levels more with depth := (p.sunk levels more).depth + 1 } := by
    simp only [sunk, Nat.add_right_comm]
  rw [nested_of_room full]
  refine ⟨?_, ?_⟩
  · cases got : reader { p with depth := p.depth + 1 } <;> rw [got] at level <;>
      exact congrArg (· - 1) level
  by_cases full' : (p.sunk levels more).limit ≤ (p.sunk levels more).depth
  · rw [nested_of_full full']
    exact .inl ⟨by omega, rfl⟩
  rw [nested_of_room full', ← deeper, isTooDeep_raised]
  exact reads.imp_right fun same => by rw [same, raised_sunkResult level]

end Steps

/-- Readers of expressions may start deeper, if the limit allows for no more than these levels. -/
theorem stepwise_sinks {levels more : Nat} (fewer : more ≤ levels) :
    Stepwise fun reader => Sinks levels more reader where
  -- Only entering a level depends on how deep the parser is, and there the condition is needed.
  pure := sinks_pure
  bind := Sinks.bind
  unexpected := sinks_unexpected
  peek := sinks_peek
  advance := sinks_advance
  accept := sinks_accept
  take := sinks_take
  name := sinks_name
  nested sinks := sinks.nested fewer

section IdentifierLed

variable {p : Parser} {bound : Nat}

/-- Reads what goes on behind the name that an expression begins with. -/
def behindName (bound minimum : Nat) (name : String) : Parse Expr := do
  climbWithin bound minimum (← namedWithin bound name)

/-- Reads the semicolon behind an expression that stands alone. -/
def endStandalone (line : Nat) (value : Expr) : Parse Item := do
  expect .semicolon "after expression"
  return .expression line value

/-- An expression that stands alone is an expression and its end. -/
theorem standaloneWithin_eq (bound line : Nat) :
    standaloneWithin bound line = expressionWithin bound >>= endStandalone line :=
  -- The end is what comes behind the expression in the definition.
  rfl

/-- Behind an identifier, an expression goes on with what may follow a name, and then with the
operators behind it. -/
theorem Ready.chainOf_of_identifier (ready : p.Ready) (fits : p.upcoming.length ≤ bound)
    {token : Token} {content : String} (front : p.lookahead = some token)
    (kind : token.kind = .identifier) (value : token.value = .text content) (minimum : Nat) :
    chainOf (operandWithin bound) bound minimum p =
      behindName bound minimum content p.pull := by
  have left := congrArg List.length (upcoming_eq_cons front)
  rw [List.length_cons] at left
  obtain ⟨bound, rfl⟩ : ∃ n, bound = n + 1 := ⟨bound - 1, by omega⟩
  have seen : p.kind? = some .identifier := by rw [kind?, front, ← kind]; rfl
  -- The operand is the name with its arguments, which leave room for a smaller bound.
  have operand : operandWithin (bound + 1) p = namedWithin bound content p.pull := by
    show operandOf (operandWithin bound) bound p = _
    have primary : primaryOf (expressionWithin bound) bound p =
        namedBy (expressionWithin bound) bound content p.pull := by
      rw [primaryOf, bind_apply, peek, seen]
      simp only [bind_apply, name_apply kind value _ p front]
    rw [operandOf, bind_apply, peek, seen]
    exact primary
  have same : namedWithin (bound + 1) content p.pull = namedWithin bound content p.pull :=
    lasting_ready.eq_of_follows (fun _ _ => Eq.symm)
      (Tandem.follows_namedBy (Tandem.follows_expressionWithin (Nat.le_succ bound))
        (Nat.le_succ bound) content)
      (ready_pull ready.normal) trivial (by omega)
  rw [chainOf, behindName, bind_apply, bind_apply, operand, same]
  rfl

/-- An item that begins with an identifier in front of no assignment is an expression up to its
semicolon, read behind the name. -/
theorem identifierLedWithin_apply (line : Nat) {token : Token} {content : String}
    (front : p.lookahead = some token) (kind : token.kind = .identifier)
    (value : token.value = .text content) (other : p.pull.kind? ≠ some .assign) :
    identifierLedWithin bound line p =
      (behindName bound BinaryOperator.weakest content >>= endStandalone line) p.pull := by
  -- The sign of an assignment is looked for and not found, which leaves the expression.
  rw [identifierLedWithin, bind_apply, name_apply kind value _ p front]
  show (accept .assign >>= fun found => if found then _ else _) p.pull = _
  rw [accept_bind_apply, if_neg other, behindName, bind_assoc]
  rfl

/-- An expression that begins with an identifier is read as it is behind the name, on the level
outside of it, unless the limit allows for no level more. -/
theorem Ready.standaloneWithin_of_identifier (ready : p.Ready) (fits : p.upcoming.length ≤ bound)
    (front : p.kind? = some .identifier) (other : p.pull.kind? ≠ some .assign) (line : Nat)
    {more : Nat} (one : more ≤ 1) (room : p.depth < p.limit + more) :
    more < 1 ∧ isTooDeep (standaloneWithin bound line { p with limit := p.limit + more }) = true ∨
      standaloneWithin bound line { p with limit := p.limit + more } =
        sunkResult 0 more (identifierLedWithin bound line p) := by
  obtain ⟨token, look, kind⟩ := Option.map_eq_some_iff.mp front
  obtain ⟨content, value⟩ := (ready.written token look).text_of_kind (by simp [kind])
  let inner : Parser := { p with depth := p.depth + 1, limit := p.limit + more }
  have within : inner.Ready := ready.withLevels _ _
  -- Inside of its level the expression is read from one level deeper than behind the name.
  have expression : expressionWithin bound { p with limit := p.limit + more } =
      raised (behindName bound BinaryOperator.weakest content (p.pull.sunk 1 more)) := by
    rw [expressionWithin, expressionOf, nested_of_room (Nat.not_le_of_lt room)]
    exact congrArg raised (within.chainOf_of_identifier fits look kind value _)
  have steps : Stepwise fun reader => Sinks 1 more reader := stepwise_sinks one
  have sinks : Sinks 1 more (behindName bound BinaryOperator.weakest content) :=
    steps.bind (steps.namedWithin bound content) fun head => steps.climbWithin bound _ head
  -- The semicolon behind it is read from the level where both of them are.
  have ends (value : Expr) : Sinks 0 more (endStandalone line value) :=
    ((sinks_take _ _).bind fun _ => sinks_pure ()).bind fun _ => sinks_pure _
  rw [standaloneWithin_eq, identifierLedWithin_apply line look kind value other]
  refine (sinks p.pull).2.imp (fun deep => ⟨deep.1, isTooDeep_bind ?_⟩) fun same => ?_
  · rw [expression, isTooDeep_raised]
    exact deep.2
  · rw [bind_apply, expression, same, raised_sunkResult_one, bind_apply]
    cases behindName bound BinaryOperator.weakest content p.pull with
    | error error q => rfl
    | ok value q => exact (ends value q).2.resolve_left fun fewer => absurd fewer.1 (by omega)

/-- An item that begins with an identifier and is no assignment is read like any expression that
stands alone, as long as that does not stop at the nesting limit; and in any case it is read as
with a limit that is larger by one, apart from the limit in the defects about it. -/
theorem identifierLedWithin_eq_standaloneWithin (ready : p.Ready)
    (fits : p.upcoming.length ≤ bound) (front : p.kind? = some .identifier)
    (other : p.pull.kind? ≠ some .assign) (line : Nat) :
    (isTooDeep (standaloneWithin bound line p) = false →
      identifierLedWithin bound line p = standaloneWithin bound line p) ∧
    ∀ limit, p.depth ≤ limit →
      standaloneWithin bound line { p with limit := limit + 1 } =
        match identifierLedWithin bound line { p with limit } with
        | .ok item q => .ok item { q with limit := q.limit + 1 }
        | .error error q => .error (error.mapLimit (· + 1)) { q with limit := q.limit + 1 } := by
  refine ⟨fun shallow => ?_, fun limit small => ?_⟩
  · by_cases full : p.limit ≤ p.depth
    · -- Where no level is left, the expression stops at the limit.
      have deep : isTooDeep (standaloneWithin bound line p) = true :=
        isTooDeep_bind (by rw [expressionWithin, expressionOf, nested_of_full full]; rfl)
      exact absurd (shallow.symm.trans deep) Bool.false_ne_true
    · rcases ready.standaloneWithin_of_identifier fits front other line (Nat.zero_le 1)
        (Nat.lt_of_not_le full) with deep | same
      · exact absurd (shallow.symm.trans deep.2) Bool.false_ne_true
      · refine (same.trans ?_).symm
        cases identifierLedWithin bound line p with
        | ok item q => rfl
        | error error q =>
          show EStateM.Result.error (error.mapLimit (· + 0)) q = _
          rw [SyntaxError.mapLimit_add_zero]
  · let q : Parser := { p with limit }
    have ready' : q.Ready := ready.withLevels p.depth limit
    have same := ready'.standaloneWithin_of_identifier fits front other line
      (Nat.le_refl 1) (Nat.lt_succ_of_le small)
    rw [same.resolve_left fun fewer => absurd fewer.1 (Nat.lt_irrefl 1)]
    cases identifierLedWithin bound line q <;> rfl

/-- A call in front of a missing operand is read in the same way with two levels, and where none is
left for its argument, it stops as it does with one level around it. -/
theorem identifierLedWithin_eq_standaloneWithin_call :
    identifierLedWithin 7 1 (ofSource "f(1) + ;" 2) =
        standaloneWithin 7 1 (ofSource "f(1) + ;" 2) ∧
      isTooDeep (standaloneWithin 7 1 { ofSource "f(1) + ;" 2 with limit := 1 }) = true ∧
      standaloneWithin 7 1 { ofSource "f(1) + ;" 2 with limit := 1 } =
        match identifierLedWithin 7 1 { ofSource "f(1) + ;" 2 with limit := 0 } with
        | .ok item q => .ok item { q with limit := q.limit + 1 }
        | .error error q => .error (error.mapLimit (· + 1)) { q with limit := q.limit + 1 } := by
  -- The source begins with a name, and no sign of an assignment stands behind it.
  have few : (ofSource "f(1) + ;" 2).upcoming.length ≤ 7 :=
    Nat.le_trans (length_upcoming_ofSource _ _) (by decide +kernel)
  obtain ⟨same, wider⟩ := identifierLedWithin_eq_standaloneWithin (ofSource_view "f(1) + ;" 2).1
    few (by decide +kernel) (by decide +kernel) 1
  exact ⟨same (by decide +kernel), by decide +kernel, wider 0 (Nat.le_refl 0)⟩

end IdentifierLed

end Parser

end Scriptlet
