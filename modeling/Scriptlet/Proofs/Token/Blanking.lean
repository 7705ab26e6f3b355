import Scriptlet.Proofs.Token.Feed
import Scriptlet.Proofs.Token.Thinning

/-! An illegal character does no more than a blank: in its place a space leaves the lexemes around
it as they are, and takes away its defect alone. -/

namespace Scriptlet

namespace Lexeme

/-- What fits in front of a character that is no blank fits in front of a blank. -/
theorem fits_space_of_fits {lexeme : Lexeme} {c : Char} (fits : lexeme.Fits (some c))
    (noBlank : c ∉ [' ', '\t', '\x0b', '\r', '\n']) : lexeme.Fits (some ' ') := by
  refine fits_of_blank fits ?_ rfl
  -- What is left open goes on to the end of the source, or to the end of its line.
  cases lexeme with
  | lineComment body =>
    rcases fits.2 with ended | lineEnd
    · exact absurd ended (by simp)
    · obtain rfl := Option.some.inj lineEnd
      exact absurd noBlank (by decide)
  | openComment body => exact absurd fits.2 (by simp)
  | openString payload => exact absurd fits.1 (by simp)
  | _ => rfl

/-- A lexeme may give way to another one that fits in its place, if all that fits in front of the
one fits in front of the other. -/
theorem fitting_exchange {front back : List Lexeme} {lexeme other : Lexeme}
    (fitting : Fitting (front ++ lexeme :: back)) (fits : other.Fits (joined back).head?)
    (joint : ∀ last : Lexeme, last.Fits (joined (lexeme :: back)).head? →
      last.Fits (joined (other :: back)).head?) :
    Fitting (front ++ other :: back) := by
  induction front with
  | nil => exact ⟨fits, fitting.2⟩
  | cons first front ih =>
    refine ⟨?_, ih fitting.2⟩
    -- Only the last of the lexemes in front has another character behind it.
    cases front with
    | nil => exact joint first fitting.1
    | cons second front =>
      have fits := fitting.1
      rw [List.append_eq, head?_joined_append front (lexeme :: back) fitting.2.1] at fits
      rwa [List.append_eq, head?_joined_append front (other :: back) fitting.2.1]

section Illegal

variable {front back : List Lexeme} {c : Char}

/-- In the place of an illegal character a space fits. -/
theorem fitting_space (fitting : Fitting (front ++ .illegal c :: back)) :
    Fitting (front ++ .blank ' ' :: back) := by
  -- The lexeme in front ends at the space as it ends at the character.
  have illegal := (fitting_behind fitting).1
  refine fitting_exchange fitting (by simp [Fits]) fun last fits => ?_
  exact fits_space_of_fits fits illegal.1

/-- An illegal character ends no line. -/
theorem lineEnds_illegal {next : Option Char} (fits : (illegal c).Fits next) :
    Lexer.lineEnds (illegal c).text = 0 := by
  -- The line end is a blank, and blanks are legal.
  refine Lexer.lineEnds_eq_zero fun member => fits.1 ?_
  rw [← List.mem_singleton.mp member]
  decide

/-- In the place of an illegal character a space makes no difference to the tokens. -/
theorem tokens_space (fitting : Fitting (front ++ .illegal c :: back)) (line : Nat) :
    tokens line (front ++ .blank ' ' :: back) = tokens line (front ++ .illegal c :: back) := by
  -- Neither has a token or ends a line.
  have illegal := lineEnds_illegal (fitting_behind fitting).1
  rw [tokens_append, tokens_append, tokens_cons, tokens_cons, illegal]
  rfl

/-- The defect of an illegal character stands between those of the lexemes on both sides. -/
theorem defects_illegal (fitting : Fitting (front ++ .illegal c :: back)) (line : Nat) :
    defects line (front ++ .illegal c :: back) = defects line front ++
      .illegalCharacter c (line + Lexer.lineEnds (joined front)) ::
        defects (line + Lexer.lineEnds (joined front)) back := by
  -- The lexemes behind it begin on the same line.
  have illegal := lineEnds_illegal (fitting_behind fitting).1
  rw [defects_append, defects_cons, illegal]
  rfl

/-- A space has no defect. -/
theorem defects_space (front back : List Lexeme) (line : Nat) :
    defects line (front ++ .blank ' ' :: back) =
      defects line front ++ defects (line + Lexer.lineEnds (joined front)) back := by
  -- Nor does it end a line.
  rw [defects_append, defects_cons]
  rfl

end Illegal

end Lexeme

namespace Lexer

variable {l l' after last : Lexer}

/-- Steps lead from one place in a source to another. -/
inductive Leads : Lexer → Lexer → Prop where
  /-- No step is made. -/
  | stay (l : Lexer) : Leads l l
  /-- A step is made first. -/
  | on {l after last : Lexer} (step : l.step.next? = some after) (more : Leads after last) :
      Leads l last

/-- Whoever comes out of a comment has come by the place behind it. -/
theorem Leads.behind_slides (slides : l.Slides after) (leads : l.Leads last)
    (between : last.mode = .normal) : after.Leads last := by
  induction slides with
  | stay l => exact leads
  | on inside passed more ih =>
    -- Inside the comment the only way is the one that it slides.
    cases leads with
    | stay => exact absurd between inside
    | on step leads =>
      rw [passed] at step
      obtain rfl := Option.some.inj step
      exact ih leads

/-- Whoever goes on between lexemes comes by the place behind the first one. -/
theorem Leads.behind_lexeme {lexeme : Lexeme} {rest : List Char} (leads : l.Leads last)
    (between : last.mode = .normal) (fits : lexeme.Fits rest.head?) (normal : l.mode = .normal)
    (stands : l.rest = lexeme.text ++ rest) : last = l ∨ (l.behind lexeme rest).Leads last := by
  -- Either no step is made, or the first step reads the lexeme, up to the steps through a comment.
  cases leads with
  | stay => exact .inl rfl
  | on step leads =>
    have here := step_lexeme fits normal stands
    right
    cases own : lexeme.token? l.line with
    | some token =>
      rw [own] at here
      rw [here] at step
      obtain rfl := Option.some.inj step
      exact leads
    | none =>
      rw [own] at here
      obtain ⟨after, passed, slides⟩ := here
      rw [passed] at step
      obtain rfl := Option.some.inj step
      exact leads.behind_slides slides between

/-- Between lexemes some of them are behind a lexer and the others are in front of it. -/
theorem Leads.splits {lexemes : List Lexeme} (leads : l.Leads last) (between : last.mode = .normal)
    (fitting : Lexeme.Fitting lexemes) (normal : l.mode = .normal)
    (stands : l.rest = Lexeme.joined lexemes) :
    ∃ front back, lexemes = front ++ back ∧ last.rest = Lexeme.joined back ∧
      last.line = l.line + lineEnds (Lexeme.joined front) ∧
      last.errors.toList = l.errors.toList ++ Lexeme.defects l.line front := by
  -- The induction moves the first place over one lexeme after another.
  induction lexemes generalizing l with
  | nil =>
    cases leads with
    | stay => exact ⟨[], [], rfl, stands, rfl, (List.append_nil _).symm⟩
    | on step leads =>
      have exhausted : l.step = .exhausted l := by
        rw [Lexer.step, normal]
        show l.stepNormal = _
        rw [stepNormal, show l.rest = [] from stands]
      rw [exhausted] at step
      cases step
  | cons lexeme more ih =>
    rcases leads.behind_lexeme between fitting.1 normal stands with rfl | leads
    · exact ⟨[], lexeme :: more, rfl, stands, rfl, (List.append_nil _).symm⟩
    · obtain ⟨front, back, rfl, rest, line, errors⟩ :=
        ih leads fitting.2 (by simpa using normal) (by simp)
      refine ⟨lexeme :: front, back, rfl, rest, ?_, ?_⟩
      · rw [line, behind_line, Nat.add_assoc, ← lineEnds_append]
        rfl
      · rw [errors, behind_errors, behind_line, Lexeme.defects_cons, List.append_assoc]

/-- On its way through a source a lexer comes to a character between two texts, and a step reports
the character as illegal and goes on behind it. -/
structure ReportsIllegal (front : String) (c : Char) (back : String) (l : Lexer) : Prop where
  leads : (ofSource (front ++ c.toString ++ back)).Leads l
  stands : l.rest = c :: back.toList
  reports : l.step = .passed
    ({ l with rest := back.toList }.report (.illegalCharacter c l.line))

/-- A step that reports an illegal character is made at a lexeme of that sort. -/
theorem eq_illegal_of_step {lexeme : Lexeme} {rest : List Char} {c : Char} {behind : List Char}
    (fits : lexeme.Fits rest.head?) (normal : l.mode = .normal)
    (stands : l.rest = lexeme.text ++ rest)
    (reports : l.step = .passed ({ l with rest := behind }.report (.illegalCharacter c l.line))) :
    lexeme = .illegal c := by
  have here := step_lexeme fits normal stands
  cases own : lexeme.token? l.line with
  | some token =>
    rw [own, reports] at here
    cases here
  | none =>
    rw [own, reports] at here
    obtain ⟨after, passed, slides⟩ := here
    obtain rfl := LexerStep.passed.inj passed
    -- No comment was entered, so that this is the place behind the lexeme.
    have errors := behind_errors l lexeme rest
    rw [slides.eq_of_normal normal] at errors
    have defect : lexeme.defect? l.line = some (.illegalCharacter c l.line) := by
      simpa [report, eq_comm] using errors
    cases lexeme <;> simp_all [Lexeme.defect?]

/-- An illegal character that is reported is a lexeme between those of the texts around it, and the
defects of the ones in front of it are held. -/
theorem ReportsIllegal.lexemes {front back : String} {c : Char}
    (reported : l.ReportsIllegal front c back) :
    ∃ first rest, Lexeme.Fitting (first ++ .illegal c :: rest) ∧
      Lexeme.joined first = front.toList ∧ Lexeme.joined rest = back.toList ∧
      l.line = 1 + lineEnds (Lexeme.joined first) ∧
      l.errors.toList = Lexeme.defects 1 first := by
  obtain ⟨leads, stands, reports⟩ := reported
  -- Inside a comment nothing is reported as illegal.
  have normal : l.mode = .normal := by
    cases mode : l.mode with
    | normal => rfl
    | blockComment openedAt =>
      have held := congrArg (fun step => step.next?.map fun after => after.errors.size) reports
      simp only [Lexer.step, mode, stepComment] at held
      split at held <;> simp_all [report, LexerStep.next?]
  obtain ⟨lexemes, fitting, joined⟩ :=
    Lexeme.exists_fitting (front ++ c.toString ++ back).toList
  obtain ⟨first, others, rfl, behind, line, errors⟩ := leads.splits normal fitting rfl joined.symm
  -- What the lexer stands in front of is the illegal character.
  cases others with
  | nil =>
    rw [stands] at behind
    cases behind
  | cons lexeme rest =>
    have here := (Lexeme.fitting_behind fitting).1
    obtain rfl := eq_illegal_of_step here normal behind reports
    have after : Lexeme.joined rest = back.toList := by
      rw [stands] at behind
      exact (List.cons.inj behind).2.symm
    refine ⟨first, rest, fitting, ?_, after, line, by simpa [ofSource, ofChars] using errors⟩
    rw [Lexeme.joined, List.flatMap_append, List.flatMap_cons] at joined
    have whole : Lexeme.joined first ++ c :: Lexeme.joined rest =
        front.toList ++ c :: back.toList := by
      simpa [Lexeme.joined, Lexeme.text] using joined
    rw [after] at whole
    exact List.append_cancel_right whole

/-- Two lexers in front of the same lexemes, but for a character that is illegal for the first one
and a space for the second one; with those that are held, certain defects come in front of it. -/
structure Blanks (error : LexicalError) (early : List LexicalError) (l l' : Lexer) : Prop where
  normal : l.mode = .normal
  normal' : l'.mode = .normal
  line : l'.line = l.line
  errors : l'.errors.toList = l.errors.toList
  lexemes : ∃ front c back, Lexeme.Fitting (front ++ .illegal c :: back) ∧
    l.rest = Lexeme.joined (front ++ .illegal c :: back) ∧
    l'.rest = Lexeme.joined (front ++ .blank ' ' :: back) ∧
    error = .illegalCharacter c (l.line + lineEnds (Lexeme.joined front)) ∧
    early = l.errors.toList ++ Lexeme.defects l.line front

/-- Taking what both lexers hold leaves them in front of the character, and what is still to come
before it. -/
theorem Blanks.taken {error : LexicalError} {early : List LexicalError}
    (blanks : l.Blanks error early l') : ∃ coming, early = l.errors.toList ++ coming ∧
      l.takeErrors.2.Blanks error coming l'.takeErrors.2 := by
  -- What is to come are the defects of the lexemes in front of the character.
  obtain ⟨normal, normal', line, -, front, c, back, fitting, rest, rest', blame, before⟩ := blanks
  exact ⟨Lexeme.defects l.line front, before, normal, normal', line, rfl, front, c, back, fitting,
    rest, rest', blame, rfl⟩

/-- Both lexers read the same token, and they are still in front of the character, or they have come
by it in the same place, and the first one holds one defect more. -/
theorem Blanks.next {error : LexicalError} {early : List LexicalError}
    (blanks : l.Blanks error early l') :
    l'.next.1 = l.next.1 ∧ l'.next.2.line = l.next.2.line ∧
      (l.next.2.Blanks error early l'.next.2 ∨ l'.next.2.rest = l.next.2.rest ∧
        ∃ late, l.next.2.errors.toList = early ++ error :: late ∧
          l'.next.2.errors.toList = early ++ late) := by
  obtain ⟨normal, normal', line, errors, front, c, back, fitting, stands, stands', rfl, rfl⟩ :=
    blanks
  have fitting' := Lexeme.fitting_space fitting
  induction front generalizing l l' with
  | nil =>
    -- The one reports the character, the other one passes over the space.
    have read := next_lexeme fitting.1 normal stands
    have read' := next_lexeme fitting'.1 normal' stands'
    have illegal := Lexeme.lineEnds_illegal fitting.1
    have space : lineEnds (Lexeme.blank ' ').text = 0 := rfl
    obtain ⟨token, rest, line', found, held, held'⟩ := @next_of_same_place
      (l.behind (.illegal c) (Lexeme.joined back)) (l'.behind (.blank ' ') (Lexeme.joined back))
      (by simp) (by rw [behind_line, behind_line, illegal, space, line]) (by simp [normal, normal'])
    simp only [Lexeme.token?] at read read'
    rw [read, read']
    refine ⟨token, line', .inr ⟨rest, found, ?_, ?_⟩⟩
    · rw [held, behind_errors]
      simp [Lexeme.defect?, Lexeme.joined, Lexeme.defects, Lexeme.placed, lineEnds]
    · rw [held', behind_errors, errors]
      simp [Lexeme.defect?, Lexeme.defects, Lexeme.placed]
  | cons lexeme front ih =>
    have read := next_lexeme fitting.1 normal stands
    have read' := next_lexeme fitting'.1 normal' stands'
    rw [line] at read'
    -- Both lexers move over the lexeme, and come closer to the character.
    have lines : (l.line + lineEnds lexeme.text) + lineEnds (Lexeme.joined front) =
        l.line + lineEnds (Lexeme.joined (lexeme :: front)) := by
      rw [Nat.add_assoc, ← lineEnds_append]
      rfl
    have defects : (l.errors.toList ++ (lexeme.defect? l.line).toList) ++
          Lexeme.defects (l.line + lineEnds lexeme.text) front =
        l.errors.toList ++ Lexeme.defects l.line (lexeme :: front) := by
      rw [Lexeme.defects_cons, List.append_assoc]
    have closer := @ih (l.behind lexeme (Lexeme.joined (front.append (.illegal c :: back))))
      (l'.behind lexeme (Lexeme.joined (front.append (.blank ' ' :: back))))
      (by simpa using normal) (by simpa using normal') (by simp [line])
      (by simp [errors, line]) fitting.2 (by simp) (by simp) fitting'.2
    rw [behind_line, behind_errors, lines, defects] at closer
    cases own : lexeme.token? l.line with
    | none =>
      simp only [own] at read read'
      rw [read, read']
      exact closer
    | some token =>
      simp only [own] at read read'
      rw [read, read']
      refine ⟨rfl, by simp [line], .inl ⟨by simpa using normal, by simpa using normal',
        by simp [line], by simp [errors, line], front, c, back, fitting.2, by simp, by simp, ?_,
        ?_⟩⟩
      · rw [behind_line, lines]
      · rw [behind_line, behind_errors, defects]

end Lexer

end Scriptlet
