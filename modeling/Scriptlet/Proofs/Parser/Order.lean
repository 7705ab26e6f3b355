import Scriptlet.Proofs.Parser.Layout

/-! Diagnostics come in the order of the source: their lines never go up again, and each of them is
the line of what is blamed. -/

namespace Scriptlet

/-- Lines that only go down a source, from a first line and as far as a last one. -/
def Ascends (first last : Nat) : List Nat → Prop
  | [] => first ≤ last
  | line :: lines => first ≤ line ∧ Ascends line last lines

namespace Ascends

variable {first middle last : Nat} {lines later : List Nat}

/-- Lines that go down from some line on go down from any line above it. -/
theorem above (ascends : Ascends middle last lines) (above : first ≤ middle) :
    Ascends first last lines := by
  -- Only the first line is compared with the line that they start from.
  cases lines with
  | nil => exact Nat.le_trans above ascends
  | cons line lines => exact ⟨Nat.le_trans above ascends.1, ascends.2⟩

/-- Lines that go down to where others begin go down together with them. -/
theorem append (ascends : Ascends first middle lines) (more : Ascends middle last later) :
    Ascends first last (lines ++ later) := by
  -- The line where the first ones end is above the others.
  induction lines generalizing first with
  | nil => exact more.above ascends
  | cons line lines ih => exact ⟨ascends.1, ih ascends.2⟩

/-- Lines that go down lie between the first and the last one, and none is above an earlier one. -/
theorem pairwise (ascends : Ascends first last lines) :
    lines.Pairwise (· ≤ ·) ∧ (∀ line ∈ lines, first ≤ line ∧ line ≤ last) ∧ first ≤ last := by
  -- The first line is above those behind it, which go down from there.
  induction lines generalizing first with
  | nil => exact ⟨.nil, by simp, ascends⟩
  | cons line lines ih =>
    obtain ⟨front, behind⟩ := ascends
    obtain ⟨ordered, between, enough⟩ := ih behind
    refine ⟨.cons (fun other member => (between other member).1) ordered, fun other member => ?_,
      Nat.le_trans front enough⟩
    rcases List.mem_cons.mp member with rfl | member
    · exact ⟨front, enough⟩
    · exact ⟨Nat.le_trans front (between other member).1, (between other member).2⟩

end Ascends

namespace Lexeme

variable {lexeme : Lexeme} {line : Nat}

/-- The defect of a lexeme is on the line where it starts. -/
theorem line_of_defect? {error : LexicalError} (own : lexeme.defect? line = some error) :
    error.line = line := by
  -- Each sort of defect takes the line of its lexeme.
  cases lexeme <;> simp only [defect?, Option.some.injEq, reduceCtorEq] at own <;> subst own <;> rfl

end Lexeme

/-- The defects that are met on the way to a token go down to its line, or to the end. -/
theorem Lexer.next_ascends {l : Lexer} (normal : l.mode = .normal) :
    ∃ found, l.next.2.errors.toList = l.errors.toList ++ found ∧
      Ascends l.line (l.next.1.elim l.next.2.line Token.line) (found.map LexicalError.line) ∧
      l.next.1.elim l.next.2.line Token.line ≤ l.next.2.line := by
  -- What is found behind a lexeme is not above what is found at it.
  have below (l : Lexer) (lexeme : Lexeme) (more : List Char) :
      l.line ≤ (l.behind lexeme more).line := by
    simp
  refine next_induction (motive := fun l read => ∃ found,
    read.2.errors.toList = l.errors.toList ++ found ∧
      Ascends l.line (read.1.elim read.2.line Token.line) (found.map LexicalError.line) ∧
        read.1.elim read.2.line Token.line ≤ read.2.line) ?_ ?_ ?_ normal
  · intro l _ _
    exact ⟨[], (List.append_nil _).symm, Nat.le_refl _, Nat.le_refl _⟩
  · intro l lexeme more token _ _ own
    obtain ⟨line, intact⟩ := Lexeme.line_of_token? own
    exact ⟨[], by simp [intact], Nat.le_of_eq line.symm,
      Nat.le_trans (Nat.le_of_eq line) (below l lexeme more)⟩
  · rintro l lexeme more _ _ ⟨found, errors, ascends, ahead⟩
    refine ⟨(lexeme.defect? l.line).toList ++ found, by simp [errors], ?_, ahead⟩
    -- The defect of a lexeme comes before those of the later ones.
    rw [List.map_append]
    refine Ascends.append ?_ ascends
    cases defect : lexeme.defect? l.line with
    | none => exact below l lexeme more
    | some error =>
      have line := Lexeme.line_of_defect? defect
      exact ⟨Nat.le_of_eq line.symm, Nat.le_trans (Nat.le_of_eq line) (below l lexeme more)⟩

namespace Parser

variable {last : Nat} {p : Parser}

/-- A parser that has recorded defects in the order of a source that ends on a given line. -/
structure InOrder (last : Nat) (p : Parser) : Prop where
  ready : p.Ready
  taken : p.lexer.errors = #[]
  lines : Ascends 1 p.currentLine (p.diagnostics.toList.map Diagnostic.line)
  ahead : p.currentLine ≤ p.lexer.line
  tokens : ∀ found expected line,
    SyntaxError.unexpectedToken found expected line ∈ p.syntaxErrors → line = found.line
  ends : ∀ expected line, SyntaxError.unexpectedEnd expected line ∈ p.syntaxErrors → line = last
  finalLine : p.finalLine = last

/-- The line of a defect is the one where it is met. -/
theorem Ready.line_meet (ready : p.Ready) (obstacle : Obstacle) :
    (p.meet obstacle).line = p.currentLine := by
  cases obstacle with
  | overflow => rfl
  | unexpected expected =>
    -- A token is blamed with its own line, which is the one that the parser keeps.
    cases front : p.lookahead with
    | none => simp [meet, defect, front, SyntaxError.line]
    | some token => simp [meet, defect, front, SyntaxError.line, ready.currentLine_of_some front]

/-- A token that is blamed is on the line of the defect. -/
theorem line_of_meet_unexpectedToken {obstacle : Obstacle} {found : Token} {expected : String}
    {line : Nat} (blamed : p.meet obstacle = .unexpectedToken found expected line) :
    line = found.line := by
  -- The defect is made of the lookahead, which gives it the token and the line.
  cases obstacle with
  | overflow => cases blamed
  | unexpected context =>
    cases front : p.lookahead with
    | none => simp [meet, defect, front] at blamed
    | some token =>
      simp only [meet, defect, front, SyntaxError.unexpectedToken.injEq] at blamed
      rw [← blamed.1, ← blamed.2.2]

/-- More is needed only where no token is left. -/
theorem lookahead_of_meet_unexpectedEnd {obstacle : Obstacle} {expected : String} {line : Nat}
    (ended : p.meet obstacle = .unexpectedEnd expected line) : p.lookahead = none := by
  -- With a lookahead, that token would be blamed.
  cases obstacle with
  | overflow => cases ended
  | unexpected context =>
    cases front : p.lookahead with
    | none => rfl
    | some token => simp [meet, defect, front] at ended

/-- Moving on records defects on the lines down to the next token. -/
theorem inOrder_pull (normal : p.lexer.mode = .normal) (taken : p.lexer.errors = #[])
    (lines : Ascends 1 p.lexer.line (p.diagnostics.toList.map Diagnostic.line))
    (tokens : ∀ found expected line,
      SyntaxError.unexpectedToken found expected line ∈ p.syntaxErrors → line = found.line)
    (ends : ∀ expected line,
      SyntaxError.unexpectedEnd expected line ∈ p.syntaxErrors → line = p.finalLine) :
    p.pull.InOrder p.finalLine := by
  -- Nothing was held before, so that all that is recorded is found on the way to the next token.
  obtain ⟨found, errors, ascends, ahead⟩ := Lexer.next_ascends normal
  have front : p.pull.currentLine = p.lexer.next.1.elim p.lexer.next.2.line Token.line :=
    p.lastLine_pull
  rw [taken, Array.toList_empty, List.nil_append] at errors
  refine ⟨ready_pull normal, rfl, ?_, front ▸ ahead, by simpa using tokens, by simpa using ends,
    finalLine_pull normal⟩
  rw [toList_diagnostics_pull, errors, front, List.map_append, List.map_map]
  exact lines.append ascends

/-- Every step of a parser keeps its defects in order. -/
theorem lasting_inOrder (last : Nat) : Lasting (InOrder last) where
  ready inOrder := inOrder.ready
  pull {p} inOrder _ := by
    have normal := inOrder.ready.normal
    obtain ⟨-, taken, lines, ahead, tokens, ends, rfl⟩ := inOrder
    refine inOrder_pull normal taken ?_ tokens ends
    -- The lexer is not above the lookahead, and goes on from where it is.
    have stays : Ascends p.currentLine p.lexer.line [] := ahead
    simpa using lines.append stays
  record := by
    rintro p _ ⟨ready, taken, lines, ahead, tokens, ends, finalLine⟩ ⟨obstacle, rfl⟩
    refine ⟨(ready.record _).1, taken, ?_, ahead, ?_, ?_, finalLine⟩
    · -- What is met here is on the line that the defects have come down to.
      have here : Ascends p.currentLine p.currentLine [(p.meet obstacle).line] :=
        ⟨Nat.le_of_eq (ready.line_meet obstacle).symm, Nat.le_of_eq (ready.line_meet obstacle)⟩
      have lines := lines.append here
      show Ascends 1 p.currentLine _
      simpa [Parser.record, Parser.note, Diagnostic.line] using lines
    · intro found expected line member
      rw [syntaxErrors_record, List.mem_append, List.mem_singleton] at member
      -- A defect was recorded before, or it is the one that is met here.
      rcases member with earlier | here
      · exact tokens found expected line earlier
      · exact line_of_meet_unexpectedToken here.symm
    · intro expected line member
      rw [syntaxErrors_record, List.mem_append, List.mem_singleton] at member
      rcases member with earlier | here
      · exact ends expected line earlier
      · -- Here the source has ended, and so this is its last line.
        have met : line = p.currentLine := by
          rw [← ready.line_meet obstacle, ← here]
          rfl
        rw [met, ready.currentLine_of_none (lookahead_of_meet_unexpectedEnd here.symm), finalLine]
  level := by
    rintro p ⟨ready, taken, lines, ahead, tokens, ends, finalLine⟩ depth
    exact ⟨ready.withDepth depth, taken, lines, ahead, tokens, ends, finalLine⟩

/-- A parser in front of a source has recorded defects in order. -/
theorem inOrder_ofSource (source : String) (limit : Nat) :
    (ofSource source limit).InOrder (1 + Lexer.lineEnds source.toList) :=
  -- Nothing is recorded in front of the source, and its first line is the first one of all.
  inOrder_pull (p := unmoved (.ofSource source) limit) rfl rfl (Nat.le_refl 1)
    (by simp [syntaxErrors, unmoved]) (by simp [syntaxErrors, unmoved])

end Parser

open Scriptlet.Parser

/-- Diagnostics of both sorts come in the order of the source, on the lines that it has. A token
that is blamed is on the line of its defect, and what is met where no token is left, a missing token
or the nesting limit, is on the last line. -/
theorem parseWithin_ordered (limit : Nat) (source : String) :
    ((parseWithin limit source).diagnostics.map Diagnostic.line).Pairwise (· ≤ ·) ∧
    (∀ diagnostic ∈ (parseWithin limit source).diagnostics,
      1 ≤ diagnostic.line ∧ diagnostic.line ≤ 1 + Lexer.lineEnds source.toList) ∧
    (∀ found expected line,
      .unexpectedToken found expected line ∈ (parseWithin limit source).syntaxErrors →
        line = found.line) ∧
    (∀ expected line, .unexpectedEnd expected line ∈ (parseWithin limit source).syntaxErrors →
      line = 1 + Lexer.lineEnds source.toList) ∧
    (parseBlaming (endsOn (1 + Lexer.lineEnds source.toList)) limit source).syntaxErrors =
      (parseWithin limit source).syntaxErrors := by
  obtain ⟨-, front, -⟩ := ofSource_view source limit
  obtain ⟨inOrder, -⟩ := (lasting_inOrder _).items (inOrder_ofSource source limit)
    (Nat.le_of_eq (congrArg List.length front)) (Nat.le_refl _) false
  -- Putting the defects at the end on the last line changes nothing, since they are there already.
  refine ⟨?_, ?_, ?_, ?_, syntaxErrors_endsOn limit rfl⟩
  all_goals rw [parseWithin_eq limit source (Nat.le_refl _)]
  · exact inOrder.lines.pairwise.1
  · intro diagnostic member
    obtain ⟨-, between, -⟩ := inOrder.lines.pairwise
    obtain ⟨first, last⟩ := between _ (List.mem_map_of_mem member)
    have finalLine := inOrder.finalLine
    have ahead := inOrder.ahead
    -- The lookahead is not below the lexer, and the lexer not below the last line.
    rw [Parser.finalLine] at finalLine
    exact ⟨first, by omega⟩
  · exact inOrder.tokens
  · exact inOrder.ends

end Scriptlet
