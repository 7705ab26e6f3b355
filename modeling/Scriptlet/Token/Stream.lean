import Scriptlet.Token.Lexer

/-! The tokens of a source one after another: every step of a lexer leaves less to do. -/

namespace Scriptlet

namespace Lexer

/-- A mark takes at least one character. -/
theorem length_mark?_lt {source rest : List Char} {kind : TokenKind}
    (found : mark? source = some (kind, rest)) : rest.length < source.length := by
  -- Each mark is spelled out in front of what follows it.
  unfold mark? at found
  split at found <;> simp only [Option.some.injEq, Prod.mk.injEq, reduceCtorEq] at found <;>
    rw [← found.2] <;> simp only [List.length_cons] <;> omega

/-- A closed string takes at least its closing quote. -/
theorem length_payload?_lt {source payload rest : List Char}
    (closed : payload? source = some (payload, rest)) : rest.length < source.length := by
  -- Every character before the closing quote is taken as well.
  induction source using payload?.induct generalizing payload with
  | case1 => simp [payload?] at closed
  | case2 tail =>
    simp only [payload?, Option.some.injEq, Prod.mk.injEq] at closed
    simp [closed.2]
  | case3 => simp [payload?] at closed
  | case4 escaped tail ih =>
    simp only [payload?, Option.map_eq_some_iff, Prod.mk.injEq, Prod.exists] at closed
    obtain ⟨inner, after, found, -, rfl⟩ := closed
    have shorter := ih found
    simp only [List.length_cons]
    omega
  | case5 c tail quote backslash lone ih =>
    rw [payload?] at closed
    · simp only [Option.map_eq_some_iff, Prod.mk.injEq, Prod.exists] at closed
      obtain ⟨inner, after, found, -, rfl⟩ := closed
      have shorter := ih found
      simp only [List.length_cons]
      omega
    all_goals assumption

/-- Dropping characters from the front leaves no more than there were. -/
theorem length_dropWhile_le (test : Char → Bool) (source : List Char) :
    (source.dropWhile test).length ≤ source.length :=
  -- What is left is the end of what there was.
  (List.dropWhile_suffix test).length_le

/-- Dropping from the front what begins with a matching character leaves less. -/
theorem length_dropWhile_lt {test : Char → Bool} {c : Char} (source : List Char)
    (matches_first : test c = true) :
    ((c :: source).dropWhile test).length < (c :: source).length := by
  -- The first character goes, and no more come back.
  rw [List.dropWhile_cons_of_pos matches_first, List.length_cons]
  exact Nat.lt_succ_of_le (length_dropWhile_le test source)

/-- A number takes at least its first digit. -/
theorem length_number_lt {c : Char} (source : List Char) (digit : c.isDigit = true) :
    (number (c :: source)).2.length < (c :: source).length := by
  -- The whole digits are dropped first, and a point only takes more.
  have whole := length_dropWhile_lt source digit
  unfold number
  split
  · rename_i rest pointed
    rw [pointed, List.length_cons] at whole
    exact Nat.lt_of_le_of_lt (length_dropWhile_le Char.isDigit rest) (by omega)
  · exact whole

/-- Reporting a defect leaves as much to do as before. -/
@[simp] theorem pending_report (l : Lexer) (error : LexicalError) :
    (l.report error).pending = l.pending :=
  -- Neither the unread characters nor the mode change.
  rfl

section Steps

variable {l next : Lexer}

/-- Fewer unread characters between lexemes leave less to do. -/
theorem pending_lt_of_length_lt (normal : next.mode = .normal)
    (shorter : next.rest.length < l.rest.length) : next.pending < l.pending := by
  -- Inside a comment there would be even more to do.
  rw [pending, if_pos normal]
  exact Nat.lt_of_lt_of_le shorter (Nat.le_add_right _ _)

/-- A string leaves less to do than there is with its opening quote, closed or open. -/
theorem pending_lt_of_stepString {source : List Char} (normal : l.mode = .normal)
    (quoted : source.length < l.rest.length) (step : (l.stepString source).next? = some next) :
    next.pending < l.pending := by
  -- A closed string leaves what is behind its quote, and an open one leaves nothing.
  unfold stepString at step
  split at step
  · rename_i payload after closed
    obtain rfl := Option.some.inj step
    exact pending_lt_of_length_lt normal (Nat.lt_trans (length_payload?_lt closed) quoted)
  · obtain rfl := Option.some.inj step
    exact pending_lt_of_length_lt normal (Nat.zero_lt_of_lt quoted)

/-- A mark leaves less to do, and so does a character that begins nothing. -/
theorem pending_lt_of_stepMark {c : Char} {behind : List Char} (normal : l.mode = .normal)
    (first : behind.length < l.rest.length) (step : (l.stepMark c behind).next? = some next) :
    next.pending < l.pending := by
  -- One character is taken at least, whether it begins a mark or nothing.
  unfold stepMark at step
  split at step
  · rename_i kind after found
    obtain rfl := Option.some.inj step
    exact pending_lt_of_length_lt normal (length_mark?_lt found)
  · obtain rfl := Option.some.inj step
    exact pending_lt_of_length_lt normal first

/-- A step between lexemes leaves less to do. -/
theorem pending_lt_of_stepNormal (normal : l.mode = .normal)
    (step : l.stepNormal.next? = some next) : next.pending < l.pending := by
  -- Each kind of lexeme takes at least its first character.
  unfold stepNormal at step
  split at step
  · cases step
  · rename_i tail unread
    have shorter := length_dropWhile_le (· != '\n') tail
    obtain rfl := Option.some.inj step
    refine pending_lt_of_length_lt normal ?_
    rw [unread, List.length_cons, List.length_cons]
    exact Nat.lt_succ_of_le (Nat.le_succ_of_le shorter)
  · -- The mode makes up for one of the two characters that open a comment.
    rename_i tail unread
    obtain rfl := Option.some.inj step
    simp [pending, normal, unread]
  · rename_i tail unread
    exact pending_lt_of_stepString normal (by simp [unread]) step
  · rename_i c tail comment block quote unread
    have first : tail.length < l.rest.length := by simp [unread]
    split at step
    · obtain rfl := Option.some.inj step
      exact pending_lt_of_length_lt normal first
    · split at step
      · rename_i digit
        obtain rfl := Option.some.inj step
        exact pending_lt_of_length_lt normal (unread ▸ length_number_lt tail digit)
      · split at step
        · rename_i start
          have part : isWordPart c = true := by
            simp only [isWordStart, isWordPart, Char.isAlphanum, Bool.or_eq_true] at start ⊢
            exact start.imp_left Or.inl
          obtain rfl := Option.some.inj step
          exact pending_lt_of_length_lt normal (unread ▸ length_dropWhile_lt tail part)
        · exact pending_lt_of_stepMark normal first step

/-- A step inside a comment takes a character or leaves the comment. -/
theorem pending_lt_of_stepComment {openedAt : Nat} (comment : l.mode = .blockComment openedAt)
    (step : (l.stepComment openedAt).next? = some next) : next.pending < l.pending := by
  -- A comment counts as one more than its unread characters, so leaving it with none of them unread
  -- counts as well.
  unfold stepComment at step
  split at step <;> rename_i unread <;> obtain rfl := Option.some.inj step <;>
    simp only [pending, report, comment, unread, List.length_cons, List.length_nil, reduceCtorEq,
      ↓reduceIte] <;> omega

/-- Every step leaves less to do. -/
theorem pending_lt_of_step (step : l.step.next? = some next) : next.pending < l.pending := by
  -- The two modes have a step each.
  unfold Lexer.step at step
  split at step
  · rename_i normal
    exact pending_lt_of_stepNormal normal step
  · rename_i openedAt comment
    exact pending_lt_of_stepComment comment step

end Steps

/-- Reads on to the next token; there is none once the source has ended. -/
def next (l : Lexer) : Option Token × Lexer :=
  match _taken : l.step with
  | .exhausted final => (none, final)
  | .passed after => after.next
  | .found token after => (some token, after)
termination_by l.pending
decreasing_by exact pending_lt_of_step (by rw [_taken]; rfl)

/-- Reading a token leaves less to do. -/
theorem pending_lt_of_next {l after : Lexer} {token : Token}
    (read : l.next = (some token, after)) : after.pending < l.pending := by
  -- What is passed over before the token only helps.
  induction l using next.induct with
  | case1 l final exhausted => rw [next, exhausted] at read; simp at read
  | case2 l between passed ih =>
    have shorter := pending_lt_of_step (show l.step.next? = some between by rw [passed]; rfl)
    rw [next, passed] at read
    exact Nat.lt_trans (ih read) shorter
  | case3 l token' between found =>
    have shorter := pending_lt_of_step (show l.step.next? = some between by rw [found]; rfl)
    rw [next, found] at read
    simp only [Prod.mk.injEq] at read
    exact read.2 ▸ shorter

/-- Reads all tokens that are left. -/
def drain (l : Lexer) : List Token × Lexer :=
  match _read : l.next with
  | (none, after) => ([], after)
  | (some token, after) =>
    let (tokens, final) := after.drain
    (token :: tokens, final)
termination_by l.pending
decreasing_by exact pending_lt_of_next _read

/-- Takes the defects that are held, and holds none afterwards. -/
def takeErrors (l : Lexer) : List LexicalError × Lexer :=
  (l.errors.toList, { l with errors := #[] })

end Lexer

/-- The tokens of a source, and the defects met between them. -/
def tokenizeWithErrors (source : String) : List Token × List LexicalError :=
  let (tokens, l) := (Lexer.ofSource source).drain
  let (errors, _) := l.takeErrors
  (tokens, errors)

/-- The tokens of a source. -/
def tokenize (source : String) : List Token :=
  (tokenizeWithErrors source).1

end Scriptlet
