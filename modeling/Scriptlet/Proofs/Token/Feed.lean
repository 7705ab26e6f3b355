import Scriptlet.Proofs.Token.Held

/-! What a lexer between lexemes feeds on: its tokens depend on the unread text and its line. -/

namespace Scriptlet

/-- A token that some lexeme has where it fits. -/
def Token.Written (token : Token) : Prop :=
  ∃ (lexeme : Lexeme) (next : Option Char) (line : Nat),
    lexeme.Fits next ∧ lexeme.token? line = some token

namespace TokenKind

/-- A word is a keyword or an identifier. -/
theorem ofWord_cases (word : String) : ofWord word ∈ keywords ∨ ofWord word = .identifier := by
  -- The keyword is looked up among all of them.
  unfold ofWord keyword?
  cases found : keywords.find? fun kind => kind.spelling? == some word with
  | none => exact .inr rfl
  | some kind => exact .inl (List.mem_of_find?_eq_some found)

end TokenKind

namespace Token.Written

variable {token : Token}

/-- A token is a number exactly when its value is numeric. -/
theorem number_iff (written : token.Written) :
    token.kind = .number ↔ ∃ value, token.value = .number value := by
  -- Words, strings and marks have text, and kinds of their own.
  obtain ⟨lexeme, next, line, fits, own⟩ := written
  cases lexeme with
  | word spelling =>
    obtain rfl := Option.some.inj own
    rcases TokenKind.ofWord_cases (String.ofList spelling) with keyword | identifier
    · have noNumber : TokenKind.ofWord (String.ofList spelling) ≠ .number := by
        intro same
        rw [same] at keyword
        exact absurd keyword (by decide)
      simp [Token.word, noNumber]
    · simp [Token.word, identifier]
  | number whole fraction =>
    obtain rfl := Option.some.inj own
    simp
  | string payload =>
    obtain rfl := Option.some.inj own
    simp
  | mark kind =>
    obtain rfl := Option.some.inj own
    obtain ⟨-, spelling, spelled, -⟩ := fits.1
    have noNumber : kind ≠ .number := by
      rintro rfl
      simp [TokenKind.spelling?] at spelled
    simp [Token.fixed, noNumber]
  | _ => simp [Lexeme.token?] at own

/-- A token of another kind than numbers has text. -/
theorem text_of_kind (written : token.Written) (other : token.kind ≠ .number) :
    ∃ content, token.value = .text content := by
  -- A numeric value would make it a number.
  cases value : token.value with
  | text content => exact ⟨content, rfl⟩
  | number numeric => exact absurd (written.number_iff.mpr ⟨numeric, value⟩) other

end Token.Written

namespace Lexeme

/-- A lexeme with a token has no defect, and its token is on the line where it starts. -/
theorem line_of_token? {lexeme : Lexeme} {line : Nat} {token : Token}
    (own : lexeme.token? line = some token) :
    token.line = line ∧ lexeme.defect? line = none := by
  -- Lexemes with tokens are words, strings, numbers and marks, and none of them has a defect.
  cases lexeme <;> simp only [token?, Option.some.injEq, reduceCtorEq] at own <;> subst own <;>
    exact ⟨rfl, rfl⟩

/-- The tokens of fitting lexemes are written ones. -/
theorem written_of_mem {lexemes : List Lexeme} (fitting : Fitting lexemes) {line : Nat}
    {token : Token} (member : token ∈ tokens line lexemes) : token.Written := by
  -- Each token belongs to one of the lexemes.
  induction lexemes generalizing line with
  | nil => simp [tokens, placed] at member
  | cons lexeme more ih =>
    rw [tokens_cons, List.mem_append, Option.mem_toList] at member
    rcases member with own | later
    · exact ⟨lexeme, _, line, fitting.1, own⟩
    · exact ih fitting.2 later

/-- Lexemes have no more tokens than characters. -/
theorem length_tokens_le {lexemes : List Lexeme} (fitting : Fitting lexemes) (line : Nat) :
    (tokens line lexemes).length ≤ (joined lexemes).length := by
  -- Each lexeme has a character, and one token at most.
  induction lexemes generalizing line with
  | nil => simp [tokens, placed]
  | cons lexeme more ih =>
    have nonempty := List.length_pos_iff.mpr (text_ne_nil fitting.1)
    have later := ih fitting.2 (line + Lexer.lineEnds lexeme.text)
    have own : (lexeme.token? line).toList.length ≤ 1 := by
      cases lexeme.token? line <;> simp
    rw [tokens_cons]
    simp only [joined, List.flatMap_cons, List.length_append] at later ⊢
    omega

end Lexeme

namespace Lexer

variable {l : Lexer}

/-- What holds at the end of a source, behind the lexeme of every token, and in front of any other
lexeme if it holds behind it, holds of every reading. -/
theorem next_induction {motive : Lexer → Option Token × Lexer → Prop}
    (ended : ∀ {l : Lexer}, l.mode = .normal → l.rest = [] → motive l (none, l))
    (found : ∀ {l : Lexer} {lexeme : Lexeme} {more : List Char} {token : Token},
      l.mode = .normal → l.rest = lexeme.text ++ more → lexeme.token? l.line = some token →
        motive l (some token, l.behind lexeme more))
    (passed : ∀ {l : Lexer} {lexeme : Lexeme} {more : List Char}, l.mode = .normal →
      l.rest = lexeme.text ++ more → motive (l.behind lexeme more) (l.behind lexeme more).next →
        motive l (l.behind lexeme more).next)
    (normal : l.mode = .normal) : motive l l.next := by
  -- Lexemes without a token are passed over, up to one that has a token or to the end.
  obtain ⟨lexemes, fitting, joined⟩ := Lexeme.exists_fitting l.rest
  induction lexemes generalizing l with
  | nil =>
    rw [next_of_nil normal joined.symm]
    exact ended normal joined.symm
  | cons lexeme more ih =>
    have front : l.rest = lexeme.text ++ Lexeme.joined more := joined.symm
    rw [next_lexeme fitting.1 normal front]
    cases own : lexeme.token? l.line with
    | some token => exact found normal front own
    | none => exact passed normal front (ih (by simpa using normal) fitting.2 (by simp))

/-- Reading a token moves over some of the lexemes that are left, and reports their defects; the
last one of them is the lexeme of the token, if there is one, and otherwise none is left. -/
theorem next_fitting {lexemes : List Lexeme} (fitting : Lexeme.Fitting lexemes)
    (normal : l.mode = .normal) (stands : l.rest = Lexeme.joined lexemes) :
    ∃ front back, lexemes = front ++ back ∧ l.next.2.rest = Lexeme.joined back ∧
      l.next.2.line = l.line + lineEnds (Lexeme.joined front) ∧
      l.next.2.errors.toList = l.errors.toList ++ Lexeme.defects l.line front ∧
      match l.next.1 with
      | some token => ∃ before last, front = before ++ [last] ∧
        last.token? (l.line + lineEnds (Lexeme.joined before)) = some token
      | none => back = [] := by
  -- Lexemes without a token are passed over, up to one that has a token or to the end.
  induction lexemes generalizing l with
  | nil =>
    rw [next_of_nil normal stands]
    exact ⟨[], [], rfl, stands, rfl, (List.append_nil _).symm, rfl⟩
  | cons lexeme more ih =>
    have read := next_lexeme fitting.1 normal stands
    cases own : lexeme.token? l.line with
    | some token =>
      rw [own] at read
      rw [read]
      refine ⟨[lexeme], more, rfl, behind_rest _ _ _, ?_, ?_, [], lexeme, rfl, own⟩
      · simp [Lexeme.joined]
      · rw [behind_errors, Lexeme.defects_cons]
        exact congrArg (l.errors.toList ++ ·) (List.append_nil _).symm
    | none =>
      rw [own] at read
      rw [read]
      obtain ⟨front, back, split, rest, line, errors, ends⟩ :=
        ih fitting.2 ((behind_mode _ _ _).trans normal) (behind_rest _ _ _)
      refine ⟨lexeme :: front, back, by rw [split]; rfl, rest, ?_, ?_, ?_⟩
      · rw [line, behind_line, Nat.add_assoc, ← lineEnds_append]
        rfl
      · rw [errors, behind_errors, behind_line, Lexeme.defects_cons, List.append_assoc]
      · -- The token is the same one, and comes behind one lexeme more.
        cases token : (l.behind lexeme (Lexeme.joined more)).next.1 with
        | none =>
          rw [token] at ends
          exact ends
        | some token =>
          rw [token] at ends
          obtain ⟨before, last, rfl, own'⟩ := ends
          refine ⟨lexeme :: before, last, rfl, ?_⟩
          rw [behind_line, Nat.add_assoc, ← lineEnds_append] at own'
          exact own'

/-- After reading a token the lexer is between lexemes, and without one it is at the end. -/
theorem next_normal (normal : l.mode = .normal) :
    l.next.2.mode = .normal ∧ (l.next.1 = none → l.next.2.rest = []) := by
  -- Each reading stops behind a lexeme, or where no lexeme is left.
  refine next_induction (motive := fun _ read =>
    read.2.mode = .normal ∧ (read.1 = none → read.2.rest = [])) ?_ ?_ ?_ normal
  · intro l normal ended
    exact ⟨normal, fun _ => ended⟩
  · intro l lexeme more token normal _ _
    exact ⟨by simpa using normal, fun none => absurd none (by simp)⟩
  · intro l lexeme more _ _ later
    exact later

/-- The line behind the source is the same, however much of it has been read. -/
theorem line_next (normal : l.mode = .normal) :
    l.next.2.line + lineEnds l.next.2.rest = l.line + lineEnds l.rest := by
  obtain ⟨mode, -⟩ := next_normal normal
  obtain ⟨lexemes, fitting, joined⟩ := Lexeme.exists_fitting l.rest
  obtain ⟨others, fitting', joined'⟩ := Lexeme.exists_fitting l.next.2.rest
  -- Draining ends on that line, now as well as behind the next token.
  rw [← (drain_fitting fitting normal joined.symm).2.2.2.2,
    ← (drain_fitting fitting' mode joined'.symm).2.2.2.2, drain_next]

/-- The tokens that are left are written ones. -/
theorem written_of_mem_drain (normal : l.mode = .normal) {token : Token}
    (member : token ∈ l.drain.1) : token.Written := by
  -- The text that is left falls into lexemes, to which the tokens belong.
  obtain ⟨lexemes, fitting, joined⟩ := Lexeme.exists_fitting l.rest
  rw [(drain_fitting fitting normal joined.symm).1] at member
  exact Lexeme.written_of_mem fitting member

/-- There are no more tokens left than characters. -/
theorem length_drain_le (normal : l.mode = .normal) : l.drain.1.length ≤ l.rest.length := by
  -- The lexemes that are left have no more tokens than characters.
  obtain ⟨lexemes, fitting, joined⟩ := Lexeme.exists_fitting l.rest
  rw [(drain_fitting fitting normal joined.symm).1, ← joined]
  exact Lexeme.length_tokens_le fitting l.line

/-- At the end of the source, draining a lexer leaves what it holds. -/
theorem drain_errors_of_nil (normal : l.mode = .normal) (ended : l.rest = []) :
    l.drain.2.errors = l.errors := by
  -- There is no token to read, so that nothing is met on the way.
  rw [drain_of_none (next_of_nil normal ended)]

/-- A lexer behind some of the lexemes of a source, and in front of the others. -/
structure Between (source : String) (front back : List Lexeme) (l : Lexer) : Prop where
  fitting : Lexeme.Fitting (front ++ back)
  joined : Lexeme.joined (front ++ back) = source.toList
  rest : l.rest = Lexeme.joined back
  line : l.line = 1 + lineEnds (Lexeme.joined front)

namespace Between

variable {source : String} {front back : List Lexeme}

/-- The lexer of a source is in front of all of its lexemes. -/
theorem exists_ofSource (source : String) :
    ∃ lexemes, (ofSource source).Between source [] lexemes := by
  -- Whatever the text is, it falls into lexemes.
  obtain ⟨lexemes, fitting, joined⟩ := Lexeme.exists_fitting source.toList
  exact ⟨lexemes, fitting, joined, joined.symm, rfl⟩

/-- Reading a token moves a lexer over the lexemes up to that of the token, or over all that are
left, and reports their defects. -/
theorem next (between : l.Between source front back) (normal : l.mode = .normal) :
    ∃ passed left, l.next.2.Between source (front ++ passed) left ∧
      l.next.2.errors.toList = l.errors.toList ++ Lexeme.defects l.line passed ∧
      match l.next.1 with
      | some token => ∃ before last, passed = before ++ [last] ∧
        last.token? (l.line + lineEnds (Lexeme.joined before)) = some token
      | none => left = [] := by
  obtain ⟨fitting, joined, rest, line⟩ := between
  obtain ⟨passed, left, rfl, after, further, errors, ends⟩ :=
    next_fitting (Lexeme.fitting_behind fitting) normal rest
  -- Together the lexemes stay the same ones; some of them have changed sides.
  rw [← List.append_assoc] at fitting joined
  refine ⟨passed, left, ⟨fitting, joined, after, ?_⟩, errors, ends⟩
  rw [further, line, Nat.add_assoc, ← lineEnds_append, Lexeme.joined_append]

/-- Reading all tokens moves a lexer over all lexemes that are left. -/
theorem drain (between : l.Between source front back) (normal : l.mode = .normal) :
    l.drain.2.rest = [] ∧ l.drain.2.mode = .normal ∧
      l.drain.2.Between source (front ++ back) [] := by
  -- The lexemes that were in front of the lexer join those behind it.
  obtain ⟨fitting, joined, rest, line⟩ := between
  obtain ⟨-, -, ended, mode, last⟩ := drain_fitting (Lexeme.fitting_behind fitting) normal rest
  have same : front ++ back ++ [] = front ++ back := List.append_nil _
  refine ⟨ended, mode, same.symm ▸ fitting, same.symm ▸ joined, ended, ?_⟩
  rw [last, line, rest, Nat.add_assoc, ← lineEnds_append, Lexeme.joined_append]

/-- Writing into the log leaves a lexer between its lexemes. -/
theorem note (between : l.Between source front back) (event : Event) :
    (l.note event).Between source front back :=
  -- The log is no part of the place in the source.
  ⟨between.fitting, between.joined, between.rest, between.line⟩

/-- Taking the defects out of a lexer leaves it between its lexemes. -/
theorem takeErrors (between : l.Between source front back) :
    l.takeErrors.2.Between source front back :=
  -- Nor are the defects that are held.
  ⟨between.fitting, between.joined, between.rest, between.line⟩

/-- The text that a lexer has come by is scanned to the lexemes that it consists of. -/
theorem scan_front (between : l.Between source front back) :
    tokenizeWithErrors (String.ofList (Lexeme.joined front)) =
      (Lexeme.tokens 1 front, Lexeme.defects 1 front) :=
  -- The lexemes fit without those behind them as well.
  tokenizeWithErrors_of_fitting (Lexeme.fitting_front between.fitting) (by simp)

/-- The tokens and the defects of a source are those of the lexemes that its lexer has come by, and
then those of the others. -/
theorem scan (between : l.Between source front back) : tokenizeWithErrors source =
    (Lexeme.tokens 1 front ++ Lexeme.tokens l.line back,
      Lexeme.defects 1 front ++ Lexeme.defects l.line back) := by
  -- The lexer counts its line from the lexemes behind it.
  rw [tokenizeWithErrors_of_fitting between.fitting between.joined, Lexeme.tokens_append,
    Lexeme.defects_append, between.line]

end Between

end Lexer

end Scriptlet
