import Mathlib.Logic.Relation
import Scriptlet.Proofs.Parser.Lexical
import Scriptlet.Proofs.Parser.Routine
import Scriptlet.Proofs.Token.Apart

/-! What holds of every parser that can be reached from the front of a source, in the middle of a
function and behind a defect as well. -/

namespace Scriptlet

namespace Parser

variable {α : Type} {limit : Nat} {source : String} {p q : Parser}

/-- The single steps of a parser. -/
inductive Step : Parser → Parser → Prop where
  /-- The next token is taken. -/
  | pull {p : Parser} (more : p.lookahead ≠ none) : Step p p.pull
  /-- A syntax defect is recorded. -/
  | record (p : Parser) (error : SyntaxError) : Step p (p.record error)
  /-- An event is logged. -/
  | note (p : Parser) (event : Event) : Step p (p.note event)
  /-- A level is entered. -/
  | enter {p : Parser} (room : p.depth < p.limit) : Step p { p with depth := p.depth + 1 }
  /-- A level is left. -/
  | leave {p : Parser} (inside : 0 < p.depth) : Step p { p with depth := p.depth - 1 }

/-- A parser comes to another one by single steps. -/
def Reaches : Parser → Parser → Prop :=
  Relation.ReflTransGen Step

/-- Single steps that come back to the level where they began lead on. -/
theorem passage_reaches : Passage fun p q => Reaches p q ∧ q.depth = p.depth where
  stay _ := ⟨.refl, rfl⟩
  trans first second := ⟨first.1.trans second.1, second.2.trans first.2⟩
  pull more := ⟨.single (.pull more), rfl⟩
  record p error := ⟨.single (.record p error), rfl⟩
  level {p q} room inside := by
    obtain ⟨reaches, level⟩ := inside
    -- The level that is entered in front of the steps is left behind them.
    have inside : 0 < q.depth := level ▸ Nat.succ_pos p.depth
    refine ⟨.head (.enter (Nat.lt_of_not_le room)) (reaches.tail (.leave inside)), ?_⟩
    exact Nat.sub_eq_of_eq_add level

/-- Every function of a parser takes single steps, and comes back to the level where it began. -/
theorem Routine.reaches {reader : Parse α} (routine : Routine reader) (p : Parser) :
    Reaches p (endOf (reader p)) ∧ (endOf (reader p)).depth = p.depth :=
  -- Writing an event is a step as well.
  passage_reaches.routine (fun p event => ⟨.single (.note p event), rfl⟩) routine p

/-- A parser whose lexer is behind some of the lexemes of a source, and whose lexical defects are
theirs. -/
structure Amid (source : String) (front back : List Lexeme) (p : Parser) : Prop where
  place : p.lexer.Between source front back
  defects : p.lexicalErrors = Lexeme.defects 1 front

/-- What comes last in some lexemes is the lexeme of the lookahead; without one, they are all
lexemes. -/
def Sees (front back : List Lexeme) (p : Parser) : Prop :=
  match p.lookahead with
  | some token => ∃ before last, front = before ++ [last] ∧
    last.token? (1 + Lexer.lineEnds (Lexeme.joined before)) = some token
  | none => back = []

/-- What holds of a parser wherever it has come to in a source. -/
structure Sound (limit : Nat) (source : String) (p : Parser) : Prop where
  ready : p.Ready
  taken : p.lexer.errors = #[]
  bounded : p.limit = limit
  shallow : p.depth ≤ limit
  place : ∃ front back, p.Amid source front back ∧ p.Sees front back

/-- Moving on leads over the lexemes up to the next token, and records their defects. -/
theorem Amid.pull {front back : List Lexeme} (amid : p.Amid source front back)
    (normal : p.lexer.mode = .normal) (taken : p.lexer.errors = #[]) :
    ∃ front back, p.pull.Amid source front back ∧ p.pull.Sees front back := by
  obtain ⟨place, defects⟩ := amid
  obtain ⟨passed, left, further, errors, ends⟩ := place.next normal
  rw [place.line] at errors ends
  refine ⟨front ++ passed, left, ⟨further.takeErrors, ?_⟩, ?_⟩
  · rw [lexicalErrors_pull, errors, taken, defects, Lexeme.defects_append]
    rfl
  · -- The lookahead is what the lexer has read.
    show match p.lexer.next.1 with | some token => _ | none => _
    cases read : p.lexer.next.1 with
    | none =>
      rw [read] at ends
      exact ends
    | some token =>
      rw [read] at ends
      obtain ⟨before, last, rfl, own⟩ := ends
      refine ⟨front ++ before, last, (List.append_assoc _ _ _).symm, ?_⟩
      rwa [Lexeme.joined_append, Lexer.lineEnds_append, ← Nat.add_assoc]

/-- The front of a source is sound. -/
theorem sound_ofSource (limit : Nat) (source : String) :
    (ofSource source limit).Sound limit source := by
  -- In front of the first token nothing has been passed, and moving on from there is sound.
  obtain ⟨lexemes, between⟩ := Lexer.Between.exists_ofSource source
  have start : (unmoved (.ofSource source) limit).Amid source [] lexemes := ⟨between, rfl⟩
  exact ⟨ready_pull rfl, rfl, rfl, Nat.zero_le limit, start.pull rfl rfl⟩

/-- Every step leads from what is sound to what is sound. -/
theorem Sound.step (sound : p.Sound limit source) (step : Step p q) : q.Sound limit source := by
  obtain ⟨ready, taken, same, shallow, front, back, amid, sees⟩ := sound
  -- Only taking a token moves the lexer on; behind all other steps it stands in the same place.
  cases step with
  | pull more =>
    exact ⟨ready_pull ready.normal, rfl, same, shallow, amid.pull ready.normal taken⟩
  | record error =>
    exact ⟨(ready.record error).1, taken, same, shallow, front, back,
      ⟨amid.place.note _, (lexicalErrors_record p error).trans amid.defects⟩, sees⟩
  | note event =>
    exact ⟨(ready.note event).1, taken, same, shallow, front, back,
      ⟨amid.place.note event, amid.defects⟩, sees⟩
  | enter room =>
    exact ⟨ready.withDepth _, taken, same, same ▸ room, front, back,
      ⟨amid.place, amid.defects⟩, sees⟩
  | leave inside =>
    exact ⟨ready.withDepth _, taken, same, Nat.le_trans (Nat.sub_le _ _) shallow, front, back,
      ⟨amid.place, amid.defects⟩, sees⟩

/-- Whatever can be reached from the front of a source is sound. -/
theorem Reaches.sound (reaches : Reaches (ofSource source limit) p) : p.Sound limit source := by
  -- The induction is on the steps, and each of them keeps what is sound.
  induction reaches with
  | refl => exact sound_ofSource limit source
  | tail _ step ih => exact ih.step step

/-- A parser has scanned the first characters of a source up to the end of its lookahead, or all of
them: what it has recorded of their defects is what they come to alone, and so is the lookahead. -/
structure Scanned (source : String) (read : List Char) (p : Parser) : Prop where
  split : source.toList = read ++ p.lexer.rest
  defects : p.lexicalErrors = (tokenizeWithErrors (String.ofList read)).2
  tokens : ∃ taken, tokenize (String.ofList read) = taken ++ p.lookahead.toList ∧
    tokenize source = taken ++ p.upcoming
  ends : match p.lookahead with
    | some token => ∃ (before : List Char) (lexeme : Lexeme), read = before ++ lexeme.text ∧
      lexeme.token? (1 + Lexer.lineEnds before) = some token ∧
      p.lastLine = 1 + Lexer.lineEnds before
    | none => read = source.toList ∧ p.lastLine = 1 + Lexer.lineEnds source.toList

/-- The last token of the lexemes that were passed is the lookahead. -/
theorem Sees.exists_taken {front back : List Lexeme} (sees : p.Sees front back) :
    ∃ taken, Lexeme.tokens 1 front = taken ++ p.lookahead.toList := by
  -- The lexeme of the lookahead comes last, and its token with it.
  unfold Sees at sees
  cases look : p.lookahead with
  | none => exact ⟨Lexeme.tokens 1 front, (List.append_nil _).symm⟩
  | some token =>
    rw [look] at sees
    obtain ⟨before, last, rfl, own⟩ := sees
    refine ⟨Lexeme.tokens 1 before, ?_⟩
    rw [Lexeme.tokens_append, Lexeme.tokens_cons, own]
    rfl

/-- The characters of the lexemes up to the lookahead are those that have been scanned. -/
theorem Amid.scanned {front back : List Lexeme} (amid : p.Amid source front back)
    (sees : p.Sees front back) (ready : p.Ready) :
    p.Scanned source (Lexeme.joined front) := by
  obtain ⟨place, defects⟩ := amid
  have alone := place.scan_front
  have whole : tokenize source = Lexeme.tokens 1 front ++ p.lexer.drain.1 := by
    rw [tokenize, place.scan,
      (Lexer.drain_fitting (Lexeme.fitting_behind place.fitting) ready.normal place.rest).1]
  obtain ⟨taken, tokens⟩ := sees.exists_taken
  refine ⟨?_, by rw [defects, alone], ⟨taken, ?_, ?_⟩, ?_⟩
  · rw [← place.joined, Lexeme.joined_append, place.rest]
  · rw [tokenize, alone, tokens]
  · rw [whole, tokens, upcoming, List.append_assoc]
  · unfold Sees at sees
    -- The text ends with the lexeme of the lookahead, or nothing is left behind it.
    cases look : p.lookahead with
    | none =>
      rw [look] at sees
      have last : Lexeme.joined front = source.toList := by
        rw [← place.joined, sees, List.append_nil]
      refine ⟨last, ?_⟩
      rw [ready.line, look, Option.elim_none, place.line, last]
    | some token =>
      rw [look] at sees
      obtain ⟨before, last, rfl, own⟩ := sees
      refine ⟨Lexeme.joined before, last, ?_, own, ?_⟩
      · rw [Lexeme.joined_append]
        exact congrArg _ (List.append_nil _)
      · rw [ready.line, look, Option.elim_some]
        exact (Lexeme.line_of_token? own).1

end Parser

open Scriptlet.Parser

/-- Whatever a parser does from the front of a source on, in the middle of a function as well as
behind a defect, it is no deeper than its limit, so that one level more is no overflow; its lexer
holds no defect and is between lexemes; without a lookahead nothing is left to read; the line that
it keeps is that of the lookahead, or the last one of the source; and the lexical defects that it
has recorded are those of the text up to the end of the lookahead. Every function of a parser takes
such steps, and leaves the level as it was, whether or not it meets a defect; so behind a program
the level is the outermost one. -/
theorem invariant_of_reaches :
    (∀ (limit : Nat) (source : String) (p : Parser), Reaches (ofSource source limit) p →
      p.limit = limit ∧ p.depth ≤ limit ∧
      (limit < UInt64.size → p.depth < p.limit → p.depth + 1 < UInt64.size) ∧
      p.lexer.errors = #[] ∧ p.lexer.mode = .normal ∧
      (p.lookahead = none → p.lexer.rest = []) ∧
      p.lastLine = (match p.lookahead with
        | some token => token.line
        | none => 1 + Lexer.lineEnds source.toList) ∧
      ∃ read, p.Scanned source read) ∧
    (∀ {α : Type} {reader : Parse α}, Routine reader → ∀ p : Parser,
      Reaches p (endOf (reader p)) ∧ (endOf (reader p)).depth = p.depth) ∧
    ∀ (limit : Nat) (source : String), (ofSource source limit).program.2.depth = 0 := by
  -- What is reached is sound, and all that is said of it are parts of that; the line at the end of
  -- the source comes from the lexemes that were passed.
  refine ⟨fun limit source p reaches => ?_, fun routine => routine.reaches, fun limit source => ?_⟩
  · obtain ⟨ready, taken, bounded, shallow, front, back, amid, sees⟩ := reaches.sound
    have scanned := amid.scanned sees ready
    refine ⟨bounded, shallow, fun small room => by omega, taken, ready.normal, ready.exhausted, ?_,
      _, scanned⟩
    have ends := scanned.ends
    cases front : p.lookahead with
    | some token => rw [ready.line, front, Option.elim_some]
    | none =>
      rw [front] at ends
      exact ends.2
  · exact (Routine.program.reaches (ofSource source limit)).2

/-- Inside of an operand behind an illegal character, the limit of one level is used up, and the
defect is that of the text up to the end of the operand. -/
theorem invariant_of_reaches_operand :
    let p := { (ofSource "-@\n x + $" 1).pull with depth := 1 }
    Reaches (ofSource "-@\n x + $" 1) p ∧ p.depth ≤ 1 ∧ p.lastLine = 2 ∧
      (∃ read, p.Scanned "-@\n x + $" read) ∧
      p.lexicalErrors = (tokenizeWithErrors "-@\n x").2 ∧
      p.lexicalErrors = [.illegalCharacter '@' 1] := by
  -- Two steps lead there: the sign is taken, and a level is entered.
  intro p
  have reaches : Reaches (ofSource "-@\n x + $" 1) p :=
    .tail (.single (.pull (by decide +kernel))) (.enter (by decide +kernel))
  obtain ⟨-, shallow, -, -, -, -, -, scanned⟩ := invariant_of_reaches.1 1 _ p reaches
  exact ⟨reaches, shallow, by decide +kernel, scanned, by decide +kernel, by decide +kernel⟩

end Scriptlet
