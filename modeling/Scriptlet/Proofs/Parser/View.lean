import Scriptlet.Parser.Session
import Scriptlet.Proofs.Token.Feed

/-! A parser seen from outside: the tokens in front of it, and the syntax defects behind it. -/

namespace Scriptlet

namespace Parser

/-- The tokens in front of a parser, the lookahead first. -/
def upcoming (p : Parser) : List Token :=
  p.lookahead.toList ++ p.lexer.drain.1

/-- The syntax defects that a parser has recorded. -/
def syntaxErrors (p : Parser) : List SyntaxError :=
  p.diagnostics.toList.filterMap Diagnostic.syntactic?

/-- The line on which the source of a parser ends. -/
def finalLine (p : Parser) : Nat :=
  p.lexer.line + Lexer.lineEnds p.lexer.rest

/-- A parser whose lexer is between lexemes, and at the end once there is no lookahead; the line
that it keeps is the one of the lookahead, or the one that the lexer has come to. -/
structure Ready (p : Parser) : Prop where
  normal : p.lexer.mode = .normal
  exhausted : p.lookahead = none → p.lexer.rest = []
  written : ∀ token, p.lookahead = some token → token.Written
  line : p.lastLine = p.lookahead.elim p.lexer.line Token.line

variable {p : Parser}

/-- Moving on keeps the line of the next token, or the one that the lexer has come to. -/
theorem lastLine_pull (p : Parser) :
    p.pull.lastLine = p.pull.lookahead.elim p.pull.lexer.line Token.line := by
  -- Taking the errors out of the lexer leaves its line.
  cases next : p.lexer.next.1 <;> simp [pull, next, Lexer.takeErrors]

/-- Moving on to the next token makes a parser ready, wherever its lexer is between lexemes. -/
theorem ready_pull (normal : p.lexer.mode = .normal) : p.pull.Ready := by
  -- The lookahead comes from the lexer, whose reading ends between lexemes.
  obtain ⟨mode, last⟩ := Lexer.next_normal normal
  refine ⟨mode, last, fun token front => ?_, p.lastLine_pull⟩
  refine Lexer.written_of_mem_drain normal ?_
  rw [Lexer.drain_eq p.lexer, show p.lexer.next.1 = some token from front]
  simp

/-- Moving on leaves the tokens of the lexer. -/
theorem upcoming_pull (p : Parser) : p.pull.upcoming = p.lexer.drain.1 := by
  -- Taking the errors out of the lexer leaves its place in the source.
  rw [Lexer.drain_eq p.lexer]
  exact congrArg (p.lexer.next.1.toList ++ ·) (Lexer.drain_tokens_congr rfl rfl rfl)

/-- Writing into the log leaves the tokens. -/
theorem upcoming_note (p : Parser) (event : Event) : (p.note event).upcoming = p.upcoming :=
  -- The log is no part of the place in the source.
  congrArg (p.lookahead.toList ++ ·) (Lexer.drain_tokens_congr rfl rfl rfl)

/-- Recording a defect leaves the tokens. -/
theorem upcoming_record (p : Parser) (error : SyntaxError) :
    (p.record error).upcoming = p.upcoming :=
  -- To the tokens, recording is no more than writing into the log.
  p.upcoming_note (.syntaxError error)

/-- A lookahead stands in front of the tokens that come after it. -/
theorem upcoming_eq_cons {token : Token} (front : p.lookahead = some token) :
    p.upcoming = token :: p.pull.upcoming := by
  -- The others are what the lexer has left.
  rw [upcoming_pull, upcoming, front]
  rfl

namespace Ready

/-- The lookahead is the first of the upcoming tokens. -/
theorem head?_upcoming (ready : p.Ready) : p.upcoming.head? = p.lookahead := by
  -- Without a lookahead the lexer has no token left either.
  cases front : p.lookahead with
  | some token => simp [upcoming, front]
  | none =>
    have empty := (Lexer.drain_fitting (show Lexeme.Fitting [] from trivial) ready.normal
      (ready.exhausted front)).1
    simp [upcoming, front, empty, Lexeme.tokens, Lexeme.placed]

/-- In front of a token a parser is on its line. -/
theorem currentLine_of_some (ready : p.Ready) {token : Token} (look : p.lookahead = some token) :
    p.currentLine = token.line := by
  -- The line that is kept is the one that came with the token.
  rw [currentLine, ready.line, look, Option.elim_some]

/-- Where no token is left, a parser is on the last line of its source. -/
theorem currentLine_of_none (ready : p.Ready) (ended : p.lookahead = none) :
    p.currentLine = p.finalLine := by
  -- Nothing is left to read either, so that no line end comes behind the line of the lexer.
  rw [currentLine, ready.line, ended, Option.elim_none, finalLine, ready.exhausted ended]
  rfl

/-- There is no lookahead exactly when no token is left. -/
theorem lookahead_eq_none_iff (ready : p.Ready) : p.lookahead = none ↔ p.upcoming = [] := by
  -- The lookahead is the first of the tokens, if there is any.
  rw [← ready.head?_upcoming, List.head?_eq_none_iff]

/-- The upcoming tokens are written ones. -/
theorem written_of_mem (ready : p.Ready) {token : Token} (member : token ∈ p.upcoming) :
    token.Written := by
  -- A token is the lookahead or comes from the lexer, and both are written.
  rw [upcoming, List.mem_append, Option.mem_toList] at member
  exact member.elim (ready.written token) (Lexer.written_of_mem_drain ready.normal)

/-- The bound that a parser gives its readers covers the upcoming tokens. -/
theorem length_upcoming_le (ready : p.Ready) : p.upcoming.length ≤ p.unread := by
  -- The lexer has no more tokens than characters, and the lookahead is one more.
  have behind := Lexer.length_drain_le ready.normal
  cases front : p.lookahead <;> simp only [upcoming, unread, front, List.length_append,
    Option.toList_some, Option.toList_none, List.length_cons, List.length_nil, Option.isSome_some,
    Option.isSome_none, ↓reduceIte, Bool.false_eq_true] <;> omega

/-- Where a token comes first, it is the lookahead, and the others come behind it. -/
theorem pull_of_cons (ready : p.Ready) {token : Token} {more : List Token}
    (stands : p.upcoming = token :: more) :
    p.lookahead = some token ∧ p.pull.Ready ∧ p.pull.upcoming = more := by
  -- The lookahead is the first token, and moving on takes just that one.
  have front : p.lookahead = some token := by
    rw [← ready.head?_upcoming, stands]
    rfl
  exact ⟨front, ready_pull ready.normal,
    (List.cons.inj ((upcoming_eq_cons front).symm.trans stands)).2⟩

/-- Writing into the log keeps a parser ready, and the tokens in front of it. -/
theorem note (ready : p.Ready) (event : Event) :
    (p.note event).Ready ∧ (p.note event).upcoming = p.upcoming :=
  -- The log decides nothing about where the parser stands.
  ⟨⟨ready.normal, ready.exhausted, ready.written, ready.line⟩, p.upcoming_note event⟩

/-- Recording a defect keeps a parser ready, and the tokens in front of it. -/
theorem record (ready : p.Ready) (error : SyntaxError) :
    (p.record error).Ready ∧ (p.record error).upcoming = p.upcoming := by
  -- Nor does the list of defects.
  obtain ⟨noted, same⟩ := ready.note (.syntaxError error)
  exact ⟨⟨noted.normal, noted.exhausted, noted.written, noted.line⟩, same⟩

/-- How deep a parser is and may go makes no difference to where it stands. -/
theorem withLevels (ready : p.Ready) (depth limit : Nat) : { p with depth, limit }.Ready :=
  -- No part of being ready is about the levels.
  ⟨ready.normal, ready.exhausted, ready.written, ready.line⟩

/-- The depth makes no difference to where a parser stands. -/
theorem withDepth (ready : p.Ready) (depth : Nat) : { p with depth }.Ready :=
  -- The limit is left as it is.
  ready.withLevels depth p.limit

end Ready

/-- Moving on records what the lexer then holds. -/
theorem toList_diagnostics_pull (p : Parser) : p.pull.diagnostics.toList =
    p.diagnostics.toList ++ p.lexer.next.2.errors.toList.map Diagnostic.lexical := by
  -- The errors come out of the lexer and go behind what was there.
  simp [pull, Lexer.takeErrors]

/-- Moving on records lexical defects only. -/
@[simp] theorem syntaxErrors_pull (p : Parser) : p.pull.syntaxErrors = p.syntaxErrors := by
  -- Whatever the lexer holds is lexical, and is passed over here.
  have lexical : ∀ errors : List LexicalError,
      (errors.map Diagnostic.lexical).filterMap Diagnostic.syntactic? = [] := by
    intro errors
    simp [List.filterMap_map, Function.comp_def, Diagnostic.syntactic?]
  rw [syntaxErrors, toList_diagnostics_pull, List.filterMap_append, lexical, List.append_nil]
  rfl

/-- A recorded defect comes behind the earlier ones. -/
@[simp] theorem syntaxErrors_record (p : Parser) (error : SyntaxError) :
    (p.record error).syntaxErrors = p.syntaxErrors ++ [error] := by
  -- The defect is pushed to the end, and is a syntax defect itself.
  simp [syntaxErrors, Parser.record, Parser.note, Diagnostic.syntactic?]

/-- Moving on leaves the last line of a source where it is. -/
theorem finalLine_pull (normal : p.lexer.mode = .normal) : p.pull.finalLine = p.finalLine :=
  -- The lexer counts each line end that it passes.
  Lexer.line_next normal

/-- A source ends behind all of its line ends. -/
theorem finalLine_ofSource (source : String) (limit : Nat) :
    (ofSource source limit).finalLine = 1 + Lexer.lineEnds source.toList :=
  -- From the first line on, all line ends are still to be passed.
  Lexer.line_next (l := Lexer.ofSource source) rfl

/-- In front of a source stand its tokens, and nothing is recorded yet. -/
theorem ofSource_view (source : String) (limit : Nat) :
    (ofSource source limit).Ready ∧ (ofSource source limit).upcoming = tokenize source ∧
      (ofSource source limit).depth = 0 ∧ (ofSource source limit).limit = limit ∧
      (ofSource source limit).syntaxErrors = [] := by
  -- The lexer of a source starts between lexemes.
  refine ⟨ready_pull rfl, ?_, rfl, rfl, syntaxErrors_pull _⟩
  exact upcoming_pull _

/-- The number of its tokens is a bound on what is read of a source. -/
theorem length_upcoming_ofSource (source : String) (limit : Nat) :
    (ofSource source limit).upcoming.length ≤ (tokenize source).length :=
  -- In front of the source, these are just its tokens.
  Nat.le_of_eq (congrArg List.length (ofSource_view source limit).2.1)

end Parser

end Scriptlet
