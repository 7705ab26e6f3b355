import Scriptlet.Proofs.Token.Lossless

/-! Leaving tokens out of a source: a lexeme gives way to blanks, and the others stay where they
are, on the same lines. -/

namespace Scriptlet

namespace Lexeme

/-- Blanks in the place of some characters, with their line ends. -/
def blanks (text : List Char) : List Lexeme :=
  text.map fun c => .blank (if c = '\n' then '\n' else ' ')

section Blanks

variable {more : List Lexeme}

/-- Blanks fit in front of anything. -/
theorem fitting_blanks (text : List Char) (fitting : Fitting more) :
    Fitting (blanks text ++ more) := by
  -- Each character gives way to one blank.
  induction text with
  | nil => exact fitting
  | cons c text ih =>
    refine ⟨?_, ih⟩
    show (if c = '\n' then '\n' else ' ') ∈ [' ', '\t', '\x0b', '\r', '\n']
    split <;> decide

/-- Blanks have no tokens, and the line ends of what they stand for. -/
theorem tokens_blanks (text : List Char) (line : Nat) :
    tokens line (blanks text ++ more) = tokens (line + Lexer.lineEnds text) more := by
  induction text generalizing line with
  | nil => rfl
  | cons c text ih =>
    -- A blank ends a line exactly where its character does.
    have ends : Lexer.lineEnds (blank (if c = '\n' then '\n' else ' ')).text =
        Lexer.lineEnds [c] := by
      by_cases newline : c = '\n'
      · rw [if_pos newline, newline]
        rfl
      · rw [if_neg newline]
        simp [Lexer.lineEnds, Lexeme.text, newline]
    have count : Lexer.lineEnds (c :: text) = Lexer.lineEnds [c] + Lexer.lineEnds text :=
      Lexer.lineEnds_append [c] text
    show tokens line (.blank _ :: (blanks text ++ more)) = _
    rw [tokens_cons, ends, count, ← Nat.add_assoc, ← ih]
    rfl

/-- In place of some characters, blanks come first. -/
theorem head?_joined_blanks {text : List Char} (nonempty : text ≠ []) :
    (joined (blanks text ++ more)).head? = some ' ' ∨
      (joined (blanks text ++ more)).head? = some '\n' := by
  -- The first character is replaced by a line feed if it is one and by a space otherwise.
  cases text with
  | nil => exact absurd rfl nonempty
  | cons c text =>
    show some (if c = '\n' then '\n' else ' ') = _ ∨ some (if c = '\n' then '\n' else ' ') = _
    split
    · exact .inr rfl
    · exact .inl rfl

end Blanks

/-- No mark has a blank in it. -/
theorem noBlank_of_spells {kind : TokenKind} {text : List Char} (spells : kind.Spells text) :
    ∀ c ∈ text, Lexer.isBlank c = false := by
  obtain ⟨-, spelling, spelled, rfl⟩ := spells
  -- Each mark is looked at by itself.
  have none : spelling.toList.any Lexer.isBlank = false := by
    cases kind <;> simp only [TokenKind.spelling?, Option.some.injEq, reduceCtorEq] at spelled <;>
      subst spelled <;> decide
  intro c member
  exact Bool.not_eq_true _ ▸ List.any_eq_false.mp none c member

/-- A lexeme with a token is over where it ends. -/
theorem isOpen_of_token? {lexeme : Lexeme} {line : Nat} {token : Token}
    (own : lexeme.token? line = some token) : lexeme.isOpen = false := by
  -- Comments have no tokens, and neither has a string without its closing quote.
  cases lexeme <;> simp [token?, isOpen] at own ⊢

/-- What fits in front of another character, and is over there, fits in front of a blank. -/
theorem fits_of_blank {lexeme : Lexeme} {next : Option Char} (fits : lexeme.Fits next)
    (shut : lexeme.isOpen = false) {c : Char} (blank : Lexer.isBlank c = true) :
    lexeme.Fits (some c) := by
  have noPart : Lexer.isWordPart c = false := by
    rw [← Bool.not_eq_true]
    intro part
    rw [(Lexer.ordinary_of_isWordPart part).1] at blank
    exact absurd blank (by decide)
  -- A blank goes on with no lexeme that is over.
  cases lexeme with
  | blank d => exact fits
  | blockComment body => exact fits
  | string payload => exact fits
  | word spelling =>
    refine ⟨fits.1, fun d same part => ?_⟩
    obtain rfl := Option.some.inj same
    rw [Lexer.isWordPart_iff.mpr part] at noPart
    exact absurd noPart (by decide)
  | number whole fraction =>
    have noDigit : ∀ d, some c = some d → d.isDigit = false := by
      intro d same
      obtain rfl := Option.some.inj same
      rw [← Bool.not_eq_true]
      intro digit
      rw [Lexer.isWordPart_of_isDigit digit] at noPart
      exact absurd noPart (by decide)
    cases fraction with
    | none =>
      refine ⟨fits.1, fits.2.1, fun point => ?_, noDigit⟩
      obtain rfl := Option.some.inj point
      exact absurd blank (by decide)
    | some fraction => exact ⟨fits.1, fits.2.1, fits.2.2.1, noDigit⟩
  | mark kind =>
    obtain ⟨spells, -, -⟩ := fits
    refine ⟨spells, fun d longer same spelled => ?_, fun _ => ?_⟩
    · obtain rfl := Option.some.inj same
      rw [noBlank_of_spells spelled c (by simp)] at blank
      exact absurd blank (by decide)
    · constructor <;> intro same <;> obtain rfl := Option.some.inj same <;>
        exact absurd blank (by decide)
  | illegal d =>
    obtain ⟨noBlank, noNumber, noStart, noQuote, alone, -⟩ := fits
    refine ⟨noBlank, noNumber, noStart, noQuote, alone, fun e kind same spells => ?_⟩
    obtain rfl := Option.some.inj same
    rw [noBlank_of_spells spells c (by simp)] at blank
    exact absurd blank (by decide)
  | _ => simp [isOpen] at shut

/-- Any of the tokens of a source can be left out. -/
theorem exists_thinned {lexemes : List Lexeme} (fitting : Fitting lexemes) {line : Nat}
    {kept : List Token} (sublist : kept.Sublist (tokens line lexemes)) :
    ∃ thinned, Fitting thinned ∧ tokens line thinned = kept ∧
      ((joined thinned).head? = (joined lexemes).head? ∨
        (joined thinned).head? = some ' ' ∨ (joined thinned).head? = some '\n') := by
  induction lexemes generalizing line kept with
  | nil =>
    cases List.sublist_nil.mp sublist
    exact ⟨[], trivial, rfl, .inl rfl⟩
  | cons lexeme more ih =>
    rw [tokens_cons] at sublist
    have nonempty := text_ne_nil fitting.1
    -- Left out, the lexeme gives way to blanks.
    have leaves (later : kept.Sublist (tokens (line + Lexer.lineEnds lexeme.text) more)) :
        ∃ thinned, Fitting thinned ∧ tokens line thinned = kept ∧
          ((joined thinned).head? = (joined (lexeme :: more)).head? ∨
            (joined thinned).head? = some ' ' ∨ (joined thinned).head? = some '\n') := by
      obtain ⟨thinned, fits, same, -⟩ := ih fitting.2 later
      exact ⟨blanks lexeme.text ++ thinned, fitting_blanks _ fits, by rw [tokens_blanks, same],
        .inr (head?_joined_blanks nonempty)⟩
    cases own : lexeme.token? line with
    | none =>
      rw [own] at sublist
      exact leaves sublist
    | some token =>
      rw [own] at sublist
      cases sublist with
      | cons _ later => exact leaves later
      | cons_cons _ later =>
        obtain ⟨thinned, fits, same, front⟩ := ih fitting.2 later
        refine ⟨lexeme :: thinned, ⟨?_, fits⟩, ?_, .inl ?_⟩
        · rcases front with unchanged | space | newline
          · exact unchanged ▸ fitting.1
          · exact space ▸ fits_of_blank fitting.1 (isOpen_of_token? own) rfl
          · exact newline ▸ fits_of_blank fitting.1 (isOpen_of_token? own) rfl
        · rw [tokens_cons, own, same]
          rfl
        · obtain ⟨c, behind, stands⟩ := List.exists_cons_of_ne_nil nonempty
          simp only [joined, List.flatMap_cons, stands]
          rfl

end Lexeme

/-- Any of the tokens of a source are all tokens of some other one. -/
theorem exists_tokenize_eq {source : String} {kept : List Token}
    (sublist : kept.Sublist (tokenize source)) : ∃ other, tokenize other = kept := by
  -- The lexemes of the other tokens are blanked out, which fits again.
  obtain ⟨lexemes, fitting, joined⟩ := Lexeme.exists_fitting source.toList
  rw [tokenize, tokenizeWithErrors_of_fitting fitting joined] at sublist
  obtain ⟨thinned, fits, same, -⟩ := Lexeme.exists_thinned fitting sublist
  refine ⟨String.ofList (Lexeme.joined thinned), ?_⟩
  rw [tokenize, tokenizeWithErrors_of_fitting fits (by simp)]
  exact same

end Scriptlet
