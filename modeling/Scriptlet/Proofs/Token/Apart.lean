import Scriptlet.Proofs.Token.Feed
import Scriptlet.Proofs.Token.Thinning
import Scriptlet.Proofs.Tree.Lines

/-! Two lexers in front of the same lexemes, on lines some way apart, read the same tokens; behind a
line end, lexemes do not depend on what stands in front of it. -/

namespace Scriptlet

namespace Lexeme

/-- A lexeme has the same token on every line. -/
theorem token?_add (lexeme : Lexeme) (line distance : Nat) :
    lexeme.token? (line + distance) =
      (lexeme.token? line).map (Token.mapLine (· + distance)) := by
  -- The line is handed on to the token.
  cases lexeme <;> rfl

/-- A lexeme has the same defect on every line. -/
theorem defect?_add (lexeme : Lexeme) (line distance : Nat) :
    lexeme.defect? (line + distance) =
      (lexeme.defect? line).map (LexicalError.mapLine (· + distance)) := by
  -- The line is handed on to the defect.
  cases lexeme <;> rfl

/-- Lexemes have the same tokens wherever they start. -/
theorem tokens_add (lexemes : List Lexeme) (line distance : Nat) :
    tokens (line + distance) lexemes =
      (tokens line lexemes).map (Token.mapLine (· + distance)) := by
  -- Each lexeme starts as much further down as the first one does.
  induction lexemes generalizing line with
  | nil => rfl
  | cons lexeme more ih =>
    rw [tokens_cons, tokens_cons, token?_add, Nat.add_right_comm, ih, List.map_append]
    cases lexeme.token? line <;> rfl

/-- Lexemes have the same defects wherever they start. -/
theorem defects_add (lexemes : List Lexeme) (line distance : Nat) :
    defects (line + distance) lexemes =
      (defects line lexemes).map (LexicalError.mapLine (· + distance)) := by
  -- As with tokens, each lexeme starts as much further down as the first one does.
  induction lexemes generalizing line with
  | nil => rfl
  | cons lexeme more ih =>
    rw [defects_cons, defects_cons, defect?_add, Nat.add_right_comm, ih, List.map_append]
    cases lexeme.defect? line <;> rfl

/-- Lexemes fit in front of others as soon as the last one does. -/
theorem fitting_append {lexemes more : List Lexeme} (fitting : Fitting lexemes)
    (behind : Fitting more)
    (joint : ∀ last, lexemes.getLast? = some last → last.Fits (joined more).head?) :
    Fitting (lexemes ++ more) := by
  induction lexemes with
  | nil => exact behind
  | cons lexeme rest ih =>
    cases rest with
    | nil => exact ⟨joint lexeme rfl, behind⟩
    | cons second rest =>
      refine ⟨?_, ih fitting.2 fun last same => joint last (List.getLast?_cons_cons.trans same)⟩
      -- Another lexeme than the last one has the same character behind it as before.
      exact head?_joined_append rest more fitting.2.1 ▸ fitting.1

/-- The last of some lexemes fits at the end of them. -/
theorem fits_last {others : List Lexeme} {last : Lexeme} (fitting : Fitting (others ++ [last])) :
    last.Fits none := by
  -- Behind the last lexeme no character stands.
  induction others with
  | nil => exact fitting.1
  | cons lexeme others ih => exact ih fitting.2

/-- Lexemes that are not left open fit in front of a line end and whatever stands behind it. -/
theorem fitting_append_lineEnd {lexemes more : List Lexeme} (fitting : Fitting lexemes)
    (behind : Fitting more) {line : Nat}
    (closed : ∀ start, .unterminatedString start ∉ defects line lexemes ∧
      .unterminatedComment start ∉ defects line lexemes) :
    Fitting (lexemes ++ .blank '\n' :: more) := by
  refine fitting_append fitting ⟨by simp [Fits], behind⟩ fun last same => ?_
  show last.Fits (some '\n')
  obtain ⟨others, rfl⟩ := List.getLast?_eq_some_iff.mp same
  have fits := fits_last fitting
  -- A comment up to the end of its line ends there, and nothing else may be open.
  by_cases shut : last.isOpen = false
  · exact fits_of_blank fits shut rfl
  · rw [defects_append] at closed
    cases last with
    | lineComment body => exact ⟨fits.1, .inr rfl⟩
    | openComment body =>
      exact absurd (List.mem_append_right _ (List.mem_singleton.mpr rfl)) (closed _).2
    | openString payload =>
      exact absurd (List.mem_append_right _ (List.mem_singleton.mpr rfl)) (closed _).1
    | _ => exact absurd rfl shut

end Lexeme

namespace Lexer

variable {distance : Nat} {tail : List Lexeme} {held : List LexicalError} {l l' : Lexer}

/-- Two lexers in front of the same lexemes, on lines some way apart; the second one has more
lexemes behind these, and some defects in front of the ones that it holds as the first one does. -/
structure Apart (distance : Nat) (tail : List Lexeme) (held : List LexicalError)
    (l l' : Lexer) : Prop where
  normal : l.mode = .normal
  normal' : l'.mode = .normal
  line : l'.line = l.line + distance
  errors : l'.errors.toList =
    held ++ l.errors.toList.map (LexicalError.mapLine (· + distance))
  lexemes : ∃ lexemes, Lexeme.Fitting lexemes ∧ Lexeme.Fitting (lexemes ++ tail) ∧
    l.rest = Lexeme.joined lexemes ∧ l'.rest = Lexeme.joined (lexemes ++ tail)

/-- Both lexers read the same token, or the first one is at its end and the second one goes on
behind it. -/
theorem Apart.next (apart : Apart distance tail held l l') :
    (∃ token, l.next.1 = some token ∧ l'.next.1 = some (token.mapLine (· + distance)) ∧
      Apart distance tail held l.next.2 l'.next.2) ∨
    l.next.1 = none ∧ ∃ beyond, Apart distance tail held l.next.2 beyond ∧
      beyond.rest = Lexeme.joined tail ∧ l'.next = beyond.next := by
  obtain ⟨normal, normal', line, errors, lexemes, fitting, fitting', stands, stands'⟩ := apart
  induction lexemes generalizing l l' with
  | nil =>
    have ended : l.next = (none, l) := next_of_nil normal stands
    rw [ended]
    exact .inr ⟨rfl, l', ⟨normal, normal', line, errors, [], fitting, fitting', stands, stands'⟩,
      stands', rfl⟩
  | cons lexeme more ih =>
    -- Both lexers move over the lexeme.
    have read := next_lexeme fitting.1 normal stands
    have read' := next_lexeme fitting'.1 normal' stands'
    have line' : (l'.behind lexeme (Lexeme.joined (more.append tail))).line =
        (l.behind lexeme (Lexeme.joined more)).line + distance := by
      simp only [behind_line, line]
      omega
    have errors' : (l'.behind lexeme (Lexeme.joined (more.append tail))).errors.toList = held ++
        (l.behind lexeme (Lexeme.joined more)).errors.toList.map
          (LexicalError.mapLine (· + distance)) := by
      rw [behind_errors, behind_errors, errors, line, Lexeme.defect?_add, List.map_append,
        List.append_assoc]
      cases lexeme.defect? l.line <;> rfl
    have apart := ih (by simpa using normal) (by simpa using normal') line' errors' fitting.2
      fitting'.2 (by simp) (by simp)
    rw [line, Lexeme.token?_add] at read'
    cases own : lexeme.token? l.line with
    | none =>
      simp only [own, Option.map_none] at read read'
      rw [read, read']
      exact apart
    | some token =>
      simp only [own, Option.map_some] at read read'
      rw [read, read']
      exact .inl ⟨token, rfl, rfl, by simpa using normal, by simpa using normal', line', errors',
        more, fitting.2, fitting'.2, by simp, by simp⟩

end Lexer

end Scriptlet
