import Scriptlet.Proofs.Token.Apart

/-! What stands between lexemes means nothing: blanks and closed comments behind a first blank do no
more than a single space, apart from the lines that they take. -/

namespace Scriptlet

namespace Lexeme

/-- Text that only keeps lexemes apart: blanks, closed block comments, and line comments with the
ends of their lines. -/
inductive Trivia : List Char → Prop where
  /-- There is no more of it. -/
  | nil : Trivia []
  /-- A character that separates others. -/
  | blank {c : Char} {rest : List Char} (separates : c ∈ [' ', '\t', '\x0b', '\r', '\n'])
      (more : Trivia rest) : Trivia (c :: rest)
  /-- A block comment without a closing mark in its body. -/
  | block {body rest : List Char} (unclosed : ¬ ['*', '/'] <:+: body) (more : Trivia rest) :
      Trivia ('/' :: '*' :: (body ++ '*' :: '/' :: rest))
  /-- A comment up to the end of its line. -/
  | line {body rest : List Char} (oneLine : '\n' ∉ body) (more : Trivia rest) :
      Trivia ('/' :: '/' :: (body ++ '\n' :: rest))

/-- A text that is over where its last lexeme ends: it leaves no string and no comment open. -/
def EndsBetween (text : List Char) : Prop :=
  ∃ lexemes, Fitting lexemes ∧ joined lexemes = text ∧
    ∀ last, lexemes.getLast? = some last → last.isOpen = false

/-- A body without a closing mark makes none with the star of the mark behind it. -/
theorem first_closing {body : List Char} (unclosed : ¬ ['*', '/'] <:+: body) :
    ¬ ['*', '/'] <:+: body ++ ['*'] := by
  -- A closing mark ends with a slash, and the body and the star do not.
  rw [List.infix_concat_iff]
  rintro (⟨front, same⟩ | closing)
  · have ends : some '/' = some '*' := by simpa using congrArg List.getLast? same
    exact absurd ends (by decide)
  · exact unclosed closing

/-- Text between lexemes falls into lexemes without tokens and defects, which fit in front of
anything. -/
theorem Trivia.exists_lexemes {text : List Char} (trivia : Trivia text) :
    ∃ lexemes, joined lexemes = text ∧
      (∀ more, Fitting more → Fitting (lexemes ++ more)) ∧
      ∀ line, tokens line lexemes = [] ∧ defects line lexemes = [] := by
  induction trivia with
  | nil => exact ⟨[], rfl, fun _ fitting => fitting, fun _ => ⟨rfl, rfl⟩⟩
  | @blank c rest separates more ih =>
    obtain ⟨lexemes, rfl, fitting, silent⟩ := ih
    refine ⟨.blank c :: lexemes, rfl, fun more fits => ⟨separates, fitting more fits⟩, ?_⟩
    intro line
    rw [tokens_cons, defects_cons, (silent _).1, (silent _).2]
    exact ⟨rfl, rfl⟩
  | @block body rest unclosed more ih =>
    obtain ⟨lexemes, rfl, fitting, silent⟩ := ih
    refine ⟨.blockComment body :: lexemes, by simp [joined, Lexeme.text],
      fun more fits => ⟨first_closing unclosed, fitting more fits⟩, ?_⟩
    intro line
    rw [tokens_cons, defects_cons, (silent _).1, (silent _).2]
    exact ⟨rfl, rfl⟩
  | @line body rest oneLine more ih =>
    obtain ⟨lexemes, rfl, fitting, silent⟩ := ih
    -- The end of the line is a blank behind the comment.
    refine ⟨.lineComment body :: .blank '\n' :: lexemes, by simp [joined, Lexeme.text],
      fun more fits => ⟨⟨oneLine, .inr rfl⟩, by simp [Fits], fitting more fits⟩, ?_⟩
    intro line
    rw [tokens_cons, defects_cons, tokens_cons, defects_cons, (silent _).1, (silent _).2]
    exact ⟨rfl, rfl⟩

end Lexeme

/-- Behind a text that is over and whatever only keeps lexemes apart, a source is scanned as it is
alone, on the lines that are left. -/
theorem tokenizeWithErrors_behind {front trivia : String} (back : String)
    (between : Lexeme.EndsBetween front.toList) (skipped : Lexeme.Trivia trivia.toList)
    (apart : ∃ c, trivia.toList.head? = some c ∧ c ∈ [' ', '\t', '\x0b', '\r', '\n']) :
    tokenizeWithErrors (front ++ trivia ++ back) =
      ((tokenizeWithErrors front).1 ++ (tokenizeWithErrors back).1.map
          (Token.mapLine (· + (Lexer.lineEnds front.toList + Lexer.lineEnds trivia.toList))),
        (tokenizeWithErrors front).2 ++ (tokenizeWithErrors back).2.map
          (LexicalError.mapLine
            (· + (Lexer.lineEnds front.toList + Lexer.lineEnds trivia.toList)))) := by
  obtain ⟨first, fitting, stands, shut⟩ := between
  obtain ⟨silent, stands', fits, nothing⟩ := skipped.exists_lexemes
  obtain ⟨last, fitting', stands''⟩ := Lexeme.exists_fitting back.toList
  -- The first blank goes on with no lexeme that is over.
  have joint : ∀ lexeme, first.getLast? = some lexeme →
      lexeme.Fits (Lexeme.joined (silent ++ last)).head? := by
    intro lexeme same
    obtain ⟨c, front, separates⟩ := apart
    obtain ⟨others, rfl⟩ := List.getLast?_eq_some_iff.mp same
    have head : (Lexeme.joined (silent ++ last)).head? = some c := by
      rw [Lexeme.joined, List.flatMap_append, List.head?_append]
      rw [← stands'] at front
      rw [show (silent.flatMap Lexeme.text).head? = some c from front]
      rfl
    rw [head]
    exact Lexeme.fits_of_blank (Lexeme.fits_last fitting) (shut lexeme same)
      (Lexer.isBlank_iff.mpr separates)
  have whole := Lexeme.fitting_append fitting (fits last fitting') joint
  have text : Lexeme.joined (first ++ (silent ++ last)) = (front ++ trivia ++ back).toList := by
    simp only [Lexeme.joined, List.flatMap_append, String.toList_append, ← stands, ← stands',
      ← stands'', List.append_assoc]
  -- Between the lexemes of both texts nothing is found, and the later ones are further down.
  rw [tokenizeWithErrors_of_fitting whole text, tokenizeWithErrors_of_fitting fitting stands,
    tokenizeWithErrors_of_fitting fitting' stands'', ← stands, ← stands']
  simp only [Lexeme.tokens_append, Lexeme.defects_append, nothing, List.nil_append, Nat.add_assoc,
    Lexeme.tokens_add, Lexeme.defects_add]

/-- Blanks and closed comments that begin with a blank stand for a single space: behind a text that
is over, the tokens and the defects are the same, and those of what follows are further down by the
lines that were skipped. -/
theorem tokenizeWithErrors_trivia (front trivia back : String)
    (between : Lexeme.EndsBetween front.toList) (skipped : Lexeme.Trivia trivia.toList)
    (apart : ∃ c, trivia.toList.head? = some c ∧ c ∈ [' ', '\t', '\x0b', '\r', '\n']) :
    let tokens := (tokenizeWithErrors back).1.map
      (Token.mapLine (· + Lexer.lineEnds front.toList))
    let errors := (tokenizeWithErrors back).2.map
      (LexicalError.mapLine (· + Lexer.lineEnds front.toList))
    tokenizeWithErrors (front ++ " " ++ back) =
        ((tokenizeWithErrors front).1 ++ tokens, (tokenizeWithErrors front).2 ++ errors) ∧
      tokenizeWithErrors (front ++ trivia ++ back) =
        ((tokenizeWithErrors front).1 ++
            tokens.map (Token.mapLine (· + Lexer.lineEnds trivia.toList)),
          (tokenizeWithErrors front).2 ++
            errors.map (LexicalError.mapLine (· + Lexer.lineEnds trivia.toList))) := by
  have space : Lexeme.Trivia " ".toList := .blank (by decide) .nil
  have alone := tokenizeWithErrors_behind back between space ⟨' ', rfl, by decide⟩
  have skips := tokenizeWithErrors_behind back between skipped apart
  refine ⟨alone, ?_⟩
  -- Going down by the lines of both texts is going down by the one and then by the other.
  rw [skips]
  simp only [List.map_map, Function.comp_def, Token.mapLine_add, LexicalError.mapLine_add]

/-- A comment that looks like an end of itself and hides a quote, and one that hides an opening
mark, keep a number with a point from the text behind them, up to a string that is left open. -/
theorem tokenizeWithErrors_trivia_hidden :
    Lexeme.EndsBetween "1.".toList ∧ Lexeme.Trivia " /*/ \" **/// /*\n".toList ∧
    tokenizeWithErrors ("1." ++ " /*/ \" **/// /*\n" ++ "2 \"") =
      ((tokenizeWithErrors "1.").1 ++ ((tokenizeWithErrors "2 \"").1.map
          (Token.mapLine (· + Lexer.lineEnds "1.".toList))).map
            (Token.mapLine (· + Lexer.lineEnds " /*/ \" **/// /*\n".toList)),
        (tokenizeWithErrors "1.").2 ++ ((tokenizeWithErrors "2 \"").2.map
          (LexicalError.mapLine (· + Lexer.lineEnds "1.".toList))).map
            (LexicalError.mapLine (· + Lexer.lineEnds " /*/ \" **/// /*\n".toList))) := by
  -- The number ends with its point, and the trivia is a blank and two comments.
  have between : Lexeme.EndsBetween "1.".toList := by
    refine ⟨[.number ['1'] (some [])], ⟨?_, trivial⟩, rfl, fun last same => ?_⟩
    · simp [Lexeme.Fits, Lexeme.joined]
    · obtain rfl := Option.some.inj same
      rfl
  have skipped : Lexeme.Trivia " /*/ \" **/// /*\n".toList := by
    have text : " /*/ \" **/// /*\n".toList = ' ' :: '/' :: '*' :: (['/', ' ', '"', ' ', '*'] ++
        '*' :: '/' :: '/' :: '/' :: ([' ', '/', '*'] ++ ['\n'])) := by decide
    rw [text]
    exact .blank (by decide) (.block (by decide) (.line (by decide) .nil))
  exact ⟨between, skipped, (tokenizeWithErrors_trivia "1." " /*/ \" **/// /*\n" "2 \"" between
    skipped ⟨' ', rfl, by decide⟩).2⟩

end Scriptlet
