import Scriptlet.Proofs.Parser.Concatenation
import Scriptlet.Proofs.Parser.Lexical
import Scriptlet.Proofs.Token.Blanking

/-! A space in the place of an illegal character: the parser reads the same, and records all but the
defect of that character. -/

namespace Scriptlet

namespace Parser

variable {error : LexicalError} {early : List LexicalError} {p p' : Parser}

/-- Two parsers in front of an illegal character and of a space in its place, which have recorded
the same so far; before the character come certain lexical defects. -/
structure Before (error : LexicalError) (early : List LexicalError) (p p' : Parser) : Prop where
  lexers : ∃ coming, p.lexer.Blanks error coming p'.lexer ∧ p.lexicalErrors ++ coming = early
  diagnostics : p'.diagnostics = p.diagnostics

/-- Two parsers in the same place behind such a character, of which the first one has recorded one
defect more, behind certain lexical ones. -/
structure Behind (error : LexicalError) (early : List LexicalError) (p p' : Parser) : Prop where
  normal' : p'.lexer.mode = .normal
  rest : p'.lexer.rest = p.lexer.rest
  errors : p'.lexer.errors = p.lexer.errors
  diagnostics : ∃ first later, p.diagnostics.toList = first ++ .lexical error :: later ∧
    p'.diagnostics.toList = first ++ later ∧ first.filterMap Diagnostic.lexical? = early

/-- Two parsers that see the same on the same line, before or behind an illegal character and a
space in its place. -/
structure Blanking (error : LexicalError) (early : List LexicalError) (p p' : Parser) : Prop where
  ready : p.Ready
  lookahead : p'.lookahead = p.lookahead
  line : p'.lexer.line = p.lexer.line
  lastLine : p'.lastLine = p.lastLine
  depth : p'.depth = p.depth
  limit : p'.limit = p.limit
  place : p.Before error early p' ∨ p.Behind error early p'

/-- Where both lexers come to the same token on the same line, so do both parsers. -/
theorem lastLine_pull_of_next (token : p'.lexer.next.1 = p.lexer.next.1)
    (line : p'.lexer.next.2.line = p.lexer.next.2.line) : p'.pull.lastLine = p.pull.lastLine := by
  -- The line kept is the token's, or the lexer's behind the last one.
  have look : p'.pull.lookahead = p.pull.lookahead := token
  have further : p'.pull.lexer.line = p.pull.lexer.line := line
  rw [lastLine_pull, lastLine_pull, look, further]

/-- From before the character both parsers move on to the same token, before or behind it. -/
theorem Before.blanking_pull (before : p.Before error early p') (depth : p'.depth = p.depth)
    (limit : p'.limit = p.limit) : p.pull.Blanking error early p'.pull := by
  -- Either lexer reads on up to the next token, which may take it past the character.
  obtain ⟨⟨coming, blanks, recorded⟩, diagnostics⟩ := before
  obtain ⟨token, line, place⟩ := blanks.next
  refine ⟨ready_pull blanks.normal, token, line, lastLine_pull_of_next token line, depth, limit, ?_⟩
  rcases place with still | ⟨rest, late, errors, errors'⟩
  · obtain ⟨left, rfl, taken⟩ := still.taken
    refine .inl ⟨⟨left, taken, ?_⟩, ?_⟩
    · rw [lexicalErrors_pull, List.append_assoc]
      exact recorded
    · rw [← Array.toList_inj, toList_diagnostics_pull, toList_diagnostics_pull, still.errors,
        diagnostics]
  · -- The lexers have come by the character, and what they held is recorded now.
    refine .inr ⟨(Lexer.next_normal blanks.normal').1, rest, rfl,
      p.diagnostics.toList ++ coming.map .lexical, late.map .lexical, ?_, ?_, ?_⟩
    · rw [toList_diagnostics_pull, errors, List.map_append, List.append_assoc]
      rfl
    · rw [toList_diagnostics_pull, errors', diagnostics, List.map_append, List.append_assoc]
    · rw [List.filterMap_append, Diagnostic.filterMap_lexical]
      exact recorded

/-- Behind the character both parsers move on to the same token. -/
theorem Behind.blanking_pull (behind : p.Behind error early p') (normal : p.lexer.mode = .normal)
    (sameLine : p'.lexer.line = p.lexer.line) (depth : p'.depth = p.depth)
    (limit : p'.limit = p.limit) : p.pull.Blanking error early p'.pull := by
  -- What is found from there on comes behind the defect of the character.
  obtain ⟨normal', rest, errors, first, later, recorded, recorded', sofar⟩ := behind
  obtain ⟨token, after, line, found, held, held'⟩ :=
    Lexer.next_of_same_place rest sameLine (normal'.trans normal.symm)
  refine ⟨ready_pull normal, token, line, lastLine_pull_of_next token line, depth, limit,
    .inr ⟨(Lexer.next_normal normal').1, after, rfl, first,
      later ++ (p.lexer.errors.toList ++ found).map .lexical, ?_, ?_, sofar⟩⟩
  · rw [toList_diagnostics_pull, held, recorded, List.append_assoc]
    rfl
  · rw [toList_diagnostics_pull, held', recorded', errors, List.append_assoc]

/-- Both parsers record the same defect. -/
theorem Blanking.record (blanking : p.Blanking error early p') (defect : SyntaxError) :
    (p.record defect).Blanking error early (p'.record defect) := by
  -- The lexers stay where they are, and the defect comes last for both parsers.
  obtain ⟨ready, lookahead, line, last, depth, limit, place⟩ := blanking
  refine ⟨(ready.record defect).1, lookahead, line, last, depth, limit, ?_⟩
  rcases place with ⟨⟨coming, blanks, recorded⟩, diagnostics⟩ |
    ⟨normal', rest, errors, first, later, recorded, recorded', sofar⟩
  · refine .inl ⟨⟨coming, ⟨blanks.normal, blanks.normal', blanks.line, blanks.errors,
      blanks.lexemes⟩, ?_⟩, ?_⟩
    · rw [lexicalErrors_record]
      exact recorded
    · simp [Parser.record, diagnostics]
  · exact .inr ⟨normal', rest, errors, first, later ++ [.syntactic defect],
      by simp [Parser.record, recorded], by simp [Parser.record, recorded'], sofar⟩

/-- The same depth for both parsers makes no difference. -/
theorem Blanking.level (blanking : p.Blanking error early p') (depth : Nat) :
    { p with depth }.Blanking error early { p' with depth } := by
  -- The depth is compared on its own, and the lexers know nothing of it.
  obtain ⟨ready, lookahead, line, last, -, limit, place⟩ := blanking
  refine ⟨ready.withDepth depth, lookahead, line, last, rfl, limit, ?_⟩
  exact place.imp (fun before => ⟨before.lexers, before.diagnostics⟩)
    fun behind => ⟨behind.normal', behind.rest, behind.errors, behind.diagnostics⟩

/-- No step of the parsers comes between them. -/
theorem abreast_blanking (error : LexicalError) (early : List LexicalError) :
    Abreast (Blanking error early) where
  -- Only a pull has two cases, with the character still ahead of the lexers or behind them.
  ready blanking := blanking.ready
  look blanking := blanking.lookahead
  line blanking := blanking.lastLine
  depth blanking := blanking.depth
  limit blanking := blanking.limit
  pull {p p'} blanking _ := by
    rcases blanking.place with before | behind
    · exact before.blanking_pull blanking.depth blanking.limit
    · exact behind.blanking_pull blanking.ready.normal blanking.line blanking.depth blanking.limit
  record blanking _ := blanking.record _
  level blanking depth := blanking.level depth

/-- Where no token is left, the parsers are behind the character. -/
theorem Blanking.behind (blanking : p.Blanking error early p') (ended : p.upcoming = []) :
    p.Behind error early p' := by
  refine blanking.place.resolve_left ?_
  rintro ⟨⟨coming, ⟨-, -, -, -, front, c, back, -, stands, -⟩, -⟩, -⟩
  -- The character itself would be left.
  have nothing := blanking.ready.exhausted (blanking.ready.lookahead_eq_none_iff.mpr ended)
  rw [stands] at nothing
  simp [Lexeme.joined, Lexeme.text] at nothing

end Parser

open Scriptlet.Parser

section Reported

variable {front back : String} {c : Char} {l : Lexer}

/-- The lexers of two sources that differ in an illegal character and a space in its place. -/
theorem Lexer.ReportsIllegal.blanks (reported : l.ReportsIllegal front c back) :
    (ofSource (front ++ c.toString ++ back)).Blanks (.illegalCharacter c l.line) l.errors.toList
      (ofSource (front ++ " " ++ back)) := by
  -- Both sources are the lexemes around the character, and what stands between them.
  obtain ⟨first, rest, fitting, joined, joined', line, errors⟩ := reported.lexemes
  refine ⟨rfl, rfl, rfl, rfl, first, c, rest, fitting, ?_, ?_, ?_, ?_⟩
  · simp [ofSource, ofChars, ← joined, ← joined', Lexeme.joined, Lexeme.text]
  · simp [ofSource, ofChars, ← joined, ← joined', Lexeme.joined, Lexeme.text]
  · rw [line]
    rfl
  · rw [errors]
    simp [ofSource, ofChars]

/-- The tokens stay the same, and the defects but for that of the character. -/
theorem Lexer.ReportsIllegal.tokenizeWithErrors (reported : l.ReportsIllegal front c back) :
    ∃ late, (Scriptlet.tokenizeWithErrors (front ++ c.toString ++ back)).2 =
        l.errors.toList ++ .illegalCharacter c l.line :: late ∧
      Scriptlet.tokenizeWithErrors (front ++ " " ++ back) =
        ((Scriptlet.tokenizeWithErrors (front ++ c.toString ++ back)).1,
          l.errors.toList ++ late) := by
  -- Both scans go over the lexemes around the character one after another.
  obtain ⟨-, -, -, -, first, c', rest, fitting, stands, stands', error, early⟩ := reported.blanks
  obtain ⟨tokens, defects, -⟩ := drain_fitting fitting (by rfl) stands
  obtain ⟨tokens', defects', -⟩ := drain_fitting (Lexeme.fitting_space fitting) (by rfl) stands'
  rw [Lexeme.defects_illegal fitting, ← List.append_assoc, ← error, ← early] at defects
  rw [Lexeme.defects_space, ← List.append_assoc] at defects'
  refine ⟨_, defects, Prod.ext ?_ ?_⟩
  · exact tokens'.trans ((Lexeme.tokens_space fitting _).trans tokens.symm)
  · rw [early]
    exact defects'

end Reported

/-- Wherever a source has a character that is reported as illegal, a space in its place makes no
difference to the tokens and their lines, to the program and to the syntax defects; of the lexical
defects, and of all defects that the parser records, it takes away that of the character alone,
which stood behind those that had been reported before, and leaves the others in their order. -/
theorem parseWithin_blank_illegal (limit : Nat) {front back : String} {c : Char} {l : Lexer}
    (reported : l.ReportsIllegal front c back) :
    (∃ late, (tokenizeWithErrors (front ++ c.toString ++ back)).2 =
        l.errors.toList ++ .illegalCharacter c l.line :: late ∧
      tokenizeWithErrors (front ++ " " ++ back) =
        (tokenize (front ++ c.toString ++ back), l.errors.toList ++ late)) ∧
    (∃ first later, (parseWithin limit (front ++ c.toString ++ back)).diagnostics =
        first ++ .lexical (.illegalCharacter c l.line) :: later ∧
      parseWithin limit (front ++ " " ++ back) =
        ⟨(parseWithin limit (front ++ c.toString ++ back)).program, first ++ later⟩ ∧
      first.filterMap Diagnostic.lexical? = l.errors.toList) ∧
    (parseWithin limit (front ++ " " ++ back)).diagnostics.filterMap Diagnostic.syntactic? =
      (parseWithin limit (front ++ c.toString ++ back)).diagnostics.filterMap
        Diagnostic.syntactic? := by
  have scanned := reported.tokenizeWithErrors
  have same : tokenize (front ++ " " ++ back) = tokenize (front ++ c.toString ++ back) := by
    obtain ⟨late, -, cleared⟩ := scanned
    rw [tokenize, cleared, tokenize]
  -- Both parsers begin before the character, and read the same items up to the end.
  have start : (ofSource (front ++ c.toString ++ back) limit).Blanking (.illegalCharacter c l.line)
      l.errors.toList (ofSource (front ++ " " ++ back) limit) :=
    @Before.blanking_pull _ _ (unmoved (.ofSource (front ++ c.toString ++ back)) limit)
      (unmoved (.ofSource (front ++ " " ++ back)) limit) ⟨⟨_, reported.blanks, rfl⟩, rfl⟩ rfl rfl
  have fits := length_upcoming_ofSource (front ++ c.toString ++ back) limit
  obtain ⟨after, items⟩ := (abreast_blanking _ _).items start fits (Nat.le_refl _) false
  obtain ⟨-, -, -, first, later, recorded, recorded', sofar⟩ :=
    after.behind (start.ready.upcoming_itemsWithin fits)
  have whole : (parseWithin limit (front ++ c.toString ++ back)).diagnostics =
      first ++ .lexical (.illegalCharacter c l.line) :: later := by
    rw [parseWithin_eq limit _ (Nat.le_refl _), recorded]
  have cleared : parseWithin limit (front ++ " " ++ back) =
      ⟨(parseWithin limit (front ++ c.toString ++ back)).program, first ++ later⟩ := by
    rw [parseWithin_eq limit _ (Nat.le_of_eq (congrArg List.length same)), recorded', items,
      parseWithin_eq limit _ (Nat.le_refl _)]
  refine ⟨scanned, ⟨first, later, whole, cleared, sofar⟩, ?_⟩
  rw [cleared, whole, List.filterMap_append, List.filterMap_append]
  rfl

/-- Amid the recovery from a defect of the syntax, a lone ampersand gives way to a space, behind the
point of a number and in front of a bar that is illegal as well. -/
theorem parseWithin_blank_illegal_amid_recovery :
    ∃ first later, (parseWithin 4 ("@\nx = ; f(1." ++ '&'.toString ++ "| );$")).diagnostics =
        first ++ .lexical (.illegalCharacter '&' 2) :: later ∧
      parseWithin 4 ("@\nx = ; f(1." ++ " " ++ "| );$") =
        ⟨(parseWithin 4 ("@\nx = ; f(1." ++ '&'.toString ++ "| );$")).program, first ++ later⟩ ∧
      first.filterMap Diagnostic.lexical? = [.illegalCharacter '@' 1] := by
  -- The lexemes in front of the character are passed over one by one.
  have reported : Lexer.ReportsIllegal "@\nx = ; f(1." '&' "| );$"
      ⟨['&', '|', ' ', ')', ';', '$'], 2, .normal, #[.illegalCharacter '@' 1],
        #[.lexicalError (.illegalCharacter '@' 1)]⟩ :=
    ⟨.on rfl <| .on rfl <| .on rfl <| .on rfl <| .on rfl <| .on rfl <| .on rfl <| .on rfl <|
      .on rfl <| .on rfl <| .on rfl <| .stay _, rfl, rfl⟩
  exact (parseWithin_blank_illegal 4 reported).2.1

end Scriptlet
