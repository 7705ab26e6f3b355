import Scriptlet.Proofs.Token.Lexeme

/-! A lexer reads a source lexeme by lexeme, whatever lexemes the source falls into. -/

namespace Scriptlet

namespace Lexer

/-- A step that passes something over hands on to the next step. -/
theorem next_of_passed {l after : Lexer} (passed : l.step = .passed after) :
    l.next = after.next := by
  -- Reading goes on from where the step leaves the lexer.
  rw [next, passed]

/-- A step that finds a token ends the reading of it. -/
theorem next_of_found {l after : Lexer} {token : Token} (found : l.step = .found token after) :
    l.next = (some token, after) := by
  -- Nothing is read behind the token.
  rw [next, found]

/-- At the end of a source there is nothing to read. -/
theorem next_of_nil {l : Lexer} (normal : l.mode = .normal) (ended : l.rest = []) :
    l.next = (none, l) := by
  -- The first step finds nothing, and there is no other.
  have exhausted : l.step = .exhausted l := by
    simp only [Lexer.step, normal, stepNormal, ended]
  rw [next, exhausted]

/-- Line ends are counted piece by piece. -/
@[simp] theorem lineEnds_append (front back : List Char) :
    lineEnds (front ++ back) = lineEnds front + lineEnds back := by
  -- Counting respects appending.
  simp [lineEnds]

/-- The first character of some text is counted before the others. -/
theorem lineEnds_cons (c : Char) (rest : List Char) :
    lineEnds (c :: rest) = lineEnds [c] + lineEnds rest :=
  -- A text is its first character in front of the others.
  lineEnds_append [c] rest

/-- A first character that is no line end does not count. -/
theorem lineEnds_cons_of_ne {c : Char} (other : c ≠ '\n') (rest : List Char) :
    lineEnds (c :: rest) = lineEnds rest := by
  -- Only line ends are counted.
  simp [lineEnds, other]

/-- Text without line ends counts none. -/
theorem lineEnds_eq_zero {text : List Char} (without : '\n' ∉ text) : lineEnds text = 0 := by
  -- What does not occur is counted zero times.
  simpa [lineEnds, List.count_eq_zero] using without

/-- A run of matching characters is taken whole when the character behind it does not match. -/
theorem span_run (test : Char → Bool) {run : List Char} (rest : List Char)
    (all : ∀ c ∈ run, test c = true)
    (stop : ∀ c, rest.head? = some c → test c = false) :
    (run ++ rest).takeWhile test = run ∧ (run ++ rest).dropWhile test = rest := by
  -- The run passes the test throughout, and what follows stops at once.
  rw [List.takeWhile_append_of_pos all, List.dropWhile_append_of_pos all]
  cases rest with
  | nil => simp
  | cons c behind => simp [stop c rfl]

/-- Steps inside a comment, each of which passes something over, lead from one place to another. -/
inductive Slides : Lexer → Lexer → Prop where
  /-- No step is made. -/
  | stay (l : Lexer) : Slides l l
  /-- Something inside a comment is passed over first. -/
  | on {l after last : Lexer} (inside : l.mode ≠ .normal) (passed : l.step = .passed after)
      (more : Slides after last) : Slides l last

/-- What is read behind a comment is what is read from inside of it. -/
theorem Slides.next_eq {l last : Lexer} (slides : l.Slides last) : l.next = last.next := by
  -- Each step on the way has no token.
  induction slides with
  | stay l => rfl
  | on inside passed more ih => rw [next_of_passed passed, ih]

/-- Between lexemes a lexer does not slide. -/
theorem Slides.eq_of_normal {l last : Lexer} (slides : l.Slides last) (normal : l.mode = .normal) :
    last = l := by
  -- A step of that sort begins inside of a comment.
  cases slides with
  | stay => rfl
  | on inside => exact absurd normal inside

/-- A lexer slides from inside a comment to the place behind its first closing mark. -/
theorem slides_inComment {body rest : List Char} (first : ¬ ['*', '/'] <:+: body ++ ['*'])
    (l : Lexer) {openedAt : Nat} (inside : l.mode = .blockComment openedAt)
    (stands : l.rest = body ++ '*' :: '/' :: rest) :
    l.Slides { l with rest, line := l.line + lineEnds body, mode := .normal } := by
  have commented : l.mode ≠ .normal := by simp [inside]
  -- Each character of the body is passed over, and only line ends leave a trace.
  induction body generalizing l with
  | nil =>
    have passed : l.step = .passed { l with rest, mode := .normal } := by
      simp only [Lexer.step, inside, stepComment, stands, List.nil_append]
    exact .on commented passed (.stay _)
  | cons c body ih =>
    have later : ¬ ['*', '/'] <:+: body ++ ['*'] := fun closing =>
      first (List.infix_cons closing)
    have open_ : ∀ behind, ¬ c :: (body ++ '*' :: '/' :: rest) = '*' :: '/' :: behind := by
      intro behind same
      obtain ⟨rfl, behindStar⟩ := List.cons.inj same
      cases body with
      | nil => simp at behindStar
      | cons d body =>
        obtain ⟨rfl, -⟩ := List.cons.inj behindStar
        exact first ⟨[], body ++ ['*'], rfl⟩
    have passed : l.step = .passed
        { l with rest := body ++ '*' :: '/' :: rest, line := l.line + lineEnds [c] } := by
      simp only [Lexer.step, inside, stepComment, stands, List.cons_append]
      split
      · rename_i empty
        simp at empty
      · rename_i behind same
        exact absurd same (open_ behind)
      · rename_i d behind same
        obtain ⟨rfl, rfl⟩ := List.cons.inj same
        rfl
    rw [lineEnds_cons c body, ← Nat.add_assoc]
    exact .on commented passed (ih later
      { l with rest := body ++ '*' :: '/' :: rest, line := _ } inside rfl commented)

/-- A lexer slides from inside a comment without a closing mark to the end of the source. -/
theorem slides_inOpenComment {body : List Char} (unclosed : ¬ ['*', '/'] <:+: body) (l : Lexer)
    {openedAt : Nat} (inside : l.mode = .blockComment openedAt) (stands : l.rest = body) :
    l.Slides (report { l with rest := [], line := l.line + lineEnds body, mode := .normal }
      (.unterminatedComment openedAt)) := by
  have commented : l.mode ≠ .normal := by simp [inside]
  -- No character of the body closes the comment, so the end of the source is met inside it.
  induction body generalizing l with
  | nil =>
    have passed : l.step = .passed
        ({ l with rest := [], mode := .normal }.report (.unterminatedComment openedAt)) := by
      simp only [Lexer.step, inside, stepComment, stands]
    exact .on commented passed (.stay _)
  | cons c body ih =>
    have later : ¬ ['*', '/'] <:+: body := fun closing => unclosed (List.infix_cons closing)
    have passed : l.step = .passed { l with rest := body, line := l.line + lineEnds [c] } := by
      simp only [Lexer.step, inside, stepComment, stands]
      split
      · rename_i empty
        simp at empty
      · rename_i behind same
        rw [same] at unclosed
        exact absurd ⟨[], behind, rfl⟩ unclosed
      · rename_i d behind same
        obtain ⟨rfl, rfl⟩ := List.cons.inj same
        rfl
    rw [lineEnds_cons c body, ← Nat.add_assoc]
    exact .on commented passed (ih later { l with rest := body, line := _ } inside rfl commented)

/-- Text that may stand between quotes is the payload up to the quote behind it. -/
theorem payload?_closed {payload : List Char} (escaped : Escaped payload) (rest : List Char) :
    payload? (payload ++ '"' :: rest) = some (payload, rest) := by
  -- The reader follows the text pair by pair and character by character.
  induction escaped with
  | nil => simp [payload?]
  | pair c more ih => simp [payload?, ih]
  | plain noQuote noBackslash more ih => simp [payload?, noBackslash, ih]

/-- Text that may stand between quotes has no payload without a quote behind it. -/
theorem payload?_open {payload : List Char} (escaped : Escaped payload) :
    payload? payload = none ∧ payload? (payload ++ ['\\']) = none := by
  -- The end of the text is met before any quote, also behind a last backslash.
  induction escaped with
  | nil => simp [payload?]
  | pair c more ih => simp [payload?, ih]
  | plain noQuote noBackslash more ih => simp [payload?, noBackslash, ih]

/-- A mark is spelled in one or two characters. -/
theorem spells_length {kind : TokenKind} {text : List Char} (spells : kind.Spells text) :
    1 ≤ text.length ∧ text.length ≤ 2 := by
  -- Each mark is looked at by itself.
  obtain ⟨noKeyword, spelling, spelled, rfl⟩ := spells
  cases kind <;> simp [TokenKind.spelling?, TokenKind.isKeyword, TokenKind.keywords]
    at spelled noKeyword <;> subst spelled <;> decide

/-- A mark that is found is spelled in front of what follows it. -/
theorem spells_of_mark? {source rest : List Char} {kind : TokenKind}
    (found : mark? source = some (kind, rest)) :
    ∃ text, source = text ++ rest ∧ kind.Spells text := by
  -- Each mark that the reader knows is the spelling of its kind.
  unfold mark? at found
  split at found <;> simp only [Option.some.injEq, Prod.mk.injEq, reduceCtorEq] at found
  all_goals
    obtain ⟨rfl, rfl⟩ := found
    exact ⟨_, by simp, rfl, _, rfl, rfl⟩

/-- A mark is found where its spelling stands, unless a longer mark stands there. -/
theorem mark?_of_spells {kind : TokenKind} {text rest : List Char} (spells : kind.Spells text)
    (longest : ∀ c longer, rest.head? = some c → ¬ TokenKind.Spells longer (text ++ [c])) :
    mark? (text ++ rest) = some (kind, rest) := by
  obtain ⟨noKeyword, spelling, spelled, rfl⟩ := spells
  cases rest with
  | nil =>
    cases kind <;> simp [TokenKind.spelling?, TokenKind.isKeyword, TokenKind.keywords]
      at spelled noKeyword <;> subst spelled <;> simp [mark?]
  | cons c rest =>
    -- Only four marks are the beginning of a longer one, which an equals sign makes of them.
    have noEquals : ∀ longer : TokenKind, longer.Spells (spelling.toList ++ ['=']) → c ≠ '=' :=
      fun longer spells same => longest '=' longer (by rw [same]; rfl) spells
    cases kind <;> simp [TokenKind.spelling?, TokenKind.isKeyword, TokenKind.keywords]
      at spelled noKeyword <;> subst spelled <;> simp [mark?]
    case less => simp [noEquals .lessEqual ⟨rfl, "<=", rfl, rfl⟩]
    case greater => simp [noEquals .greaterEqual ⟨rfl, ">=", rfl, rfl⟩]
    case not => simp [noEquals .notEqual ⟨rfl, "!=", rfl, rfl⟩]
    case assign => simp [noEquals .equal ⟨rfl, "==", rfl, rfl⟩]

/-- No mark is found where none is spelled. -/
theorem mark?_of_unspelled {c : Char} {rest : List Char}
    (unspelled : ∀ kind, ¬ TokenKind.Spells kind [c])
    (longer : ∀ d kind, rest.head? = some d → ¬ TokenKind.Spells kind [c, d]) :
    mark? (c :: rest) = none := by
  -- A mark that is found would be spelled by the first character or the first two.
  cases found : mark? (c :: rest) with
  | none => rfl
  | some mark =>
    obtain ⟨text, stands, spells⟩ := spells_of_mark? found
    obtain ⟨nonempty, short⟩ := spells_length spells
    match text, nonempty, short with
    | [a], _, _ =>
      obtain ⟨rfl, -⟩ := List.cons.inj stands
      exact absurd spells (unspelled _)
    | [a, b], _, _ =>
      obtain ⟨rfl, rfl⟩ := List.cons.inj stands
      exact absurd spells (longer b _ rfl)

/-- The characters that separate lexemes are five. -/
theorem isBlank_iff {c : Char} : isBlank c = true ↔ c ∈ [' ', '\t', '\x0b', '\r', '\n'] := by
  -- The test asks for one after another.
  simp [isBlank, or_assoc]

/-- The lexer finds words by the characters that begin them. -/
theorem isWordStart_iff {c : Char} : isWordStart c = true ↔ Lexeme.WordStart c := by
  -- The letters are those below 128, in the lexer and in the definition of words.
  simp [isWordStart, Lexeme.WordStart]

/-- The lexer reads words by the characters that continue them. -/
theorem isWordPart_iff {c : Char} : isWordPart c = true ↔ Lexeme.WordPart c := by
  -- The digits join the letters, on both sides.
  simp [isWordPart, Lexeme.WordPart]

/-- A character that begins a word is no digit. -/
theorem isDigit_of_isWordStart {c : Char} (start : isWordStart c = true) : c.isDigit = false := by
  -- Letters lie above the digits, and so does the underscore.
  cases digit : c.isDigit with
  | false => rfl
  | true =>
    have letter : c.isAlpha = (c.isUpper || c.isLower) := rfl
    have upper : c.isUpper = decide (c.val ≥ 'A'.val ∧ c.val ≤ 'Z'.val) := rfl
    have lower : c.isLower = (decide (c.val ≥ 'a'.val) && decide (c.val ≤ 'z'.val)) := rfl
    simp only [isWordStart, letter, upper, lower, Char.isDigit, ge_iff_le,
      UInt32.le_iff_toNat_le, Bool.or_eq_true, Bool.and_eq_true, decide_eq_true_eq,
      beq_iff_eq, Char.reduceVal, UInt32.reduceToNat] at start digit
    rcases start with (capital | small) | rfl
    · have := capital.1
      have := digit.2
      omega
    · have := small.1
      have := digit.2
      omega
    · exact absurd digit.2 (by decide)

/-- A character of a word neither separates lexemes nor begins a comment or a string. -/
theorem ordinary_of_isWordPart {c : Char} (part : isWordPart c = true) :
    isBlank c = false ∧ c ≠ '/' ∧ c ≠ '"' ∧ c ≠ '\n' := by
  -- None of the characters in question is a letter, a digit or the underscore.
  refine ⟨?_, ?_, ?_, ?_⟩
  · cases blank : isBlank c with
    | false => rfl
    | true =>
      have member := isBlank_iff.mp blank
      simp only [List.mem_cons, List.not_mem_nil, or_false] at member
      rcases member with rfl | rfl | rfl | rfl | rfl <;> exact absurd part (by decide)
  all_goals rintro rfl; exact absurd part (by decide)

/-- A character that begins a word may continue one. -/
theorem isWordPart_of_isWordStart {c : Char} (start : isWordStart c = true) :
    isWordPart c = true := by
  -- Digits are all that the later characters have in addition.
  simp only [isWordStart, isWordPart, Char.isAlphanum, Bool.or_eq_true] at start ⊢
  exact start.imp_left Or.inl

/-- A digit may continue a word. -/
theorem isWordPart_of_isDigit {c : Char} (digit : c.isDigit = true) : isWordPart c = true := by
  -- Words have digits behind their first character.
  simp [isWordPart, Char.isAlphanum, digit]

/-- A step at a character that begins neither a comment nor a string goes by its class. -/
theorem step_ordinary {l : Lexer} (normal : l.mode = .normal) {c : Char} {rest : List Char}
    (stands : l.rest = c :: rest) (quote : c ≠ '"')
    (slash : c = '/' → rest.head? ≠ some '/' ∧ rest.head? ≠ some '*') :
    l.step = if isBlank c then .passed { l with rest, line := l.line + lineEnds [c] }
      else if c.isDigit then l.stepNumber
      else if isWordStart c then l.stepWord
      else l.stepMark c rest := by
  -- The four special beginnings are excluded one after another.
  simp only [Lexer.step, normal, stepNormal, stands]
  split
  · rename_i empty
    simp at empty
  · rename_i behind same
    obtain ⟨rfl, rfl⟩ := List.cons.inj same
    exact absurd rfl (slash rfl).1
  · rename_i behind same
    obtain ⟨rfl, rfl⟩ := List.cons.inj same
    exact absurd rfl (slash rfl).2
  · rename_i behind same
    exact absurd (List.cons.inj same).1 quote
  · rename_i d behind _ _ _ same
    obtain ⟨rfl, rfl⟩ := List.cons.inj same
    rfl

/-- A mark begins with a character of no other class, and the one with a slash has no second. -/
theorem first_of_spells {kind : TokenKind} {text : List Char} (spells : kind.Spells text) :
    ∃ c more, text = c :: more ∧ isBlank c = false ∧ c.isDigit = false ∧ isWordStart c = false ∧
      c ≠ '"' ∧ '\n' ∉ text ∧ (c = '/' → kind = .divide ∧ more = []) := by
  -- Each mark is looked at by itself.
  obtain ⟨noKeyword, spelling, spelled, rfl⟩ := spells
  cases kind <;> simp [TokenKind.spelling?, TokenKind.isKeyword, TokenKind.keywords]
    at spelled noKeyword <;> subst spelled <;> refine ⟨_, _, rfl, ?_⟩ <;> decide

/-- A number is read up to the end of its last run of digits. -/
theorem number_run {whole rest : List Char} {fraction : Option (List Char)}
    (fits : (Lexeme.number whole fraction).Fits rest.head?) :
    number ((Lexeme.number whole fraction).text ++ rest) = (.ofDigits whole fraction, rest) := by
  -- The run of whole digits ends at the point or at the end of the number.
  cases fraction with
  | none =>
    obtain ⟨-, digits, noPoint, stop⟩ := fits
    have run := span_run Char.isDigit rest digits stop
    simp only [Lexeme.text, number, run.1, run.2]
    split
    · rename_i behind
      exact absurd rfl noPoint
    · rfl
  | some fraction =>
    obtain ⟨-, digits, decimals, stop⟩ := fits
    have run := span_run Char.isDigit ('.' :: (fraction ++ rest)) digits (by simp)
    have point := span_run Char.isDigit rest decimals stop
    simp only [Lexeme.text, number, List.append_assoc, List.cons_append, run.1, run.2, point.1,
      point.2]

/-- A number begins with a digit and stays on one line. -/
theorem first_of_number {whole : List Char} {fraction : Option (List Char)} {next : Option Char}
    (fits : (Lexeme.number whole fraction).Fits next) :
    (∃ c more, (Lexeme.number whole fraction).text = c :: more ∧ c.isDigit = true) ∧
      '\n' ∉ (Lexeme.number whole fraction).text := by
  -- The whole digits come first, and neither digits nor the point end a line.
  have noLineEnd : ∀ run : List Char, (∀ c ∈ run, c.isDigit = true) → '\n' ∉ run :=
    fun run digits member => absurd (digits _ member) (by decide)
  cases fraction with
  | none =>
    obtain ⟨nonempty, digits, -, -⟩ := fits
    obtain ⟨c, more, rfl⟩ := List.exists_cons_of_ne_nil nonempty
    exact ⟨⟨c, more, rfl, digits c (by simp)⟩, noLineEnd _ digits⟩
  | some fraction =>
    obtain ⟨nonempty, digits, decimals, -⟩ := fits
    obtain ⟨c, more, rfl⟩ := List.exists_cons_of_ne_nil nonempty
    refine ⟨⟨c, more ++ '.' :: fraction, rfl, digits c (by simp)⟩, ?_⟩
    have front := noLineEnd _ digits
    have back := noLineEnd _ decimals
    simp only [Lexeme.text, List.mem_append, List.mem_cons, not_or] at front ⊢
    exact ⟨front, by decide, back⟩

/-- Where a lexer stands behind a lexeme, with its defect reported. -/
def behind (l : Lexer) (lexeme : Lexeme) (rest : List Char) : Lexer :=
  let moved := { l with rest, line := l.line + lineEnds lexeme.text }
  match lexeme.defect? l.line with
  | some error => moved.report error
  | none => moved

section Classes

variable {l : Lexer} {rest : List Char}

/-- A blank is passed over. -/
theorem step_blank {c : Char} (fits : (Lexeme.blank c).Fits rest.head?)
    (normal : l.mode = .normal) (stands : l.rest = (Lexeme.blank c).text ++ rest) :
    l.step = .passed (l.behind (.blank c) rest) := by
  -- No blank begins a comment or a string.
  simp only [Lexeme.Fits, ← isBlank_iff] at fits
  have quote : c ≠ '"' := by rintro rfl; exact absurd fits (by decide)
  have slash : c ≠ '/' := by rintro rfl; exact absurd fits (by decide)
  have passed := step_ordinary normal stands quote (fun same => absurd same slash)
  rwa [if_pos fits] at passed

/-- A comment up to the end of its line is passed over in one step. -/
theorem step_lineComment {body : List Char} (fits : (Lexeme.lineComment body).Fits rest.head?)
    (normal : l.mode = .normal) (stands : l.rest = (Lexeme.lineComment body).text ++ rest) :
    l.step = .passed (l.behind (.lineComment body) rest) := by
  obtain ⟨oneLine, stop⟩ := fits
  -- The body is the run up to the end of the line or of the source.
  have inLine : ∀ c ∈ body, (c != '\n') = true := by
    intro c member
    have other : c ≠ '\n' := by rintro rfl; exact oneLine member
    simpa using other
  have lineEnd : ∀ c, rest.head? = some c → (c != '\n') = false := by
    intro c front
    rcases stop with stop | stop <;> rw [stop] at front <;> simp at front
    simp [← front]
  have run := span_run (· != '\n') rest inLine lineEnd
  have passed : l.step = .passed { l with rest } := by
    simp only [Lexer.step, normal, stepNormal, stands, Lexeme.text, List.cons_append, run.2]
  rw [passed]
  simp [behind, Lexeme.defect?, Lexeme.text, lineEnds_cons_of_ne, lineEnds_eq_zero oneLine]

/-- A comment between its two marks is entered, and the lexer slides to the place behind it. -/
theorem step_blockComment {body : List Char} (fits : (Lexeme.blockComment body).Fits rest.head?)
    (normal : l.mode = .normal) (stands : l.rest = (Lexeme.blockComment body).text ++ rest) :
    ∃ after, l.step = .passed after ∧ after.Slides (l.behind (.blockComment body) rest) := by
  have opened : l.step = .passed
      { l with rest := body ++ '*' :: '/' :: rest, mode := .blockComment l.line } := by
    simp [Lexer.step, normal, stepNormal, stands, Lexeme.text]
  refine ⟨_, opened, ?_⟩
  have slides := slides_inComment fits
    { l with rest := body ++ '*' :: '/' :: rest, mode := .blockComment l.line } rfl rfl
  -- Neither of the marks ends a line.
  simpa [behind, Lexeme.defect?, Lexeme.text, lineEnds_cons_of_ne, show lineEnds [] = 0 from rfl,
    normal] using slides

/-- A comment without its closing mark is entered, and the lexer slides to the end of the source. -/
theorem step_openComment {body : List Char} (fits : (Lexeme.openComment body).Fits rest.head?)
    (normal : l.mode = .normal) (stands : l.rest = (Lexeme.openComment body).text ++ rest) :
    ∃ after, l.step = .passed after ∧ after.Slides (l.behind (.openComment body) rest) := by
  obtain ⟨unclosed, last⟩ := fits
  obtain rfl := List.head?_eq_none_iff.mp last
  have opened : l.step = .passed { l with rest := body, mode := .blockComment l.line } := by
    simp [Lexer.step, normal, stepNormal, stands, Lexeme.text]
  refine ⟨_, opened, ?_⟩
  have slides := slides_inOpenComment unclosed
    { l with rest := body, mode := .blockComment l.line } rfl rfl
  -- The defect is on the line where the comment was opened.
  simpa [behind, Lexeme.defect?, Lexeme.text, lineEnds_cons_of_ne, normal] using slides

/-- A word is found as a keyword or an identifier. -/
theorem step_word {spelling : List Char} (fits : (Lexeme.word spelling).Fits rest.head?)
    (normal : l.mode = .normal) (stands : l.rest = (Lexeme.word spelling).text ++ rest) :
    l.step = .found (.word (String.ofList spelling) l.line) (l.behind (.word spelling) rest) := by
  obtain ⟨⟨first, more, rfl, begins, parts⟩, stop⟩ := fits
  have start := isWordStart_iff.mpr begins
  -- The word is the run of characters that may continue one.
  have all : ∀ c ∈ first :: more, isWordPart c = true := by
    intro c member
    rcases List.mem_cons.mp member with rfl | member
    · exact isWordPart_of_isWordStart start
    · exact isWordPart_iff.mpr (parts c member)
  have ends : ∀ c, rest.head? = some c → isWordPart c = false := fun c front =>
    Bool.eq_false_iff.mpr (mt isWordPart_iff.mp (stop c front))
  have run := span_run isWordPart rest all ends
  have oneLine : lineEnds (first :: more) = 0 := lineEnds_eq_zero fun member =>
    (ordinary_of_isWordPart (all _ member)).2.2.2 rfl
  obtain ⟨noBlank, noSlash, noQuote, -⟩ := ordinary_of_isWordPart (all first (by simp))
  have found := step_ordinary normal stands noQuote (fun same => absurd same noSlash)
  simp only [noBlank, isDigit_of_isWordStart start, start, stepWord, stands, Lexeme.text, run,
    Bool.false_eq_true, ↓reduceIte] at found
  rw [found]
  simp [behind, Lexeme.defect?, Lexeme.text, oneLine]

/-- A number is found with its value. -/
theorem step_number {whole : List Char} {fraction : Option (List Char)}
    (fits : (Lexeme.number whole fraction).Fits rest.head?) (normal : l.mode = .normal)
    (stands : l.rest = (Lexeme.number whole fraction).text ++ rest) :
    l.step = .found ⟨.number, .number (.ofDigits whole fraction), l.line⟩
      (l.behind (.number whole fraction) rest) := by
  -- A digit begins nothing but a number.
  obtain ⟨⟨c, more, text, digit⟩, oneLine⟩ := first_of_number fits
  obtain ⟨noBlank, noSlash, noQuote, -⟩ := ordinary_of_isWordPart (isWordPart_of_isDigit digit)
  have found := step_ordinary normal (stands.trans (congrArg (· ++ rest) text)) noQuote
    (fun same => absurd same noSlash)
  simp only [noBlank, digit, stepNumber, stands, number_run fits, Bool.false_eq_true,
    ↓reduceIte] at found
  rw [found]
  simp [behind, Lexeme.defect?, lineEnds_eq_zero oneLine]

/-- A string is found with its payload, on the line of its first quote. -/
theorem step_string {payload : List Char} (fits : (Lexeme.string payload).Fits rest.head?)
    (normal : l.mode = .normal) (stands : l.rest = (Lexeme.string payload).text ++ rest) :
    l.step = .found ⟨.string, .text (String.ofList payload), l.line⟩
      (l.behind (.string payload) rest) := by
  have found : l.step = .found ⟨.string, .text (String.ofList payload), l.line⟩
      { l with rest, line := l.line + lineEnds payload } := by
    simp [Lexer.step, normal, stepNormal, stepString, stands, Lexeme.text, payload?_closed fits]
  rw [found]
  -- Neither of the quotes ends a line.
  simp [behind, Lexeme.defect?, Lexeme.text, lineEnds_cons_of_ne, show lineEnds [] = 0 from rfl]

/-- A string without its closing quote is passed over and reported. -/
theorem step_openString {payload : List Char} (fits : (Lexeme.openString payload).Fits rest.head?)
    (normal : l.mode = .normal) (stands : l.rest = (Lexeme.openString payload).text ++ rest) :
    l.step = .passed (l.behind (.openString payload) rest) := by
  obtain ⟨last, escaped⟩ := fits
  obtain rfl := List.head?_eq_none_iff.mp last
  -- The source ends before a closing quote, with or without a backslash at its end.
  have noPayload : payload? payload = none := by
    rcases escaped with escaped | ⟨closed, rfl, escaped⟩
    · exact (payload?_open escaped).1
    · exact (payload?_open escaped).2
  have passed : l.step = .passed (report
      { l with rest := [], line := l.line + lineEnds payload } (.unterminatedString l.line)) := by
    simp [Lexer.step, normal, stepNormal, stepString, stands, Lexeme.text, noPayload]
  rw [passed]
  simp [behind, Lexeme.defect?, Lexeme.text, lineEnds_cons_of_ne]

/-- A mark is found as the longest one that is spelled there. -/
theorem step_mark {kind : TokenKind} (fits : (Lexeme.mark kind).Fits rest.head?)
    (normal : l.mode = .normal) (stands : l.rest = (Lexeme.mark kind).text ++ rest) :
    l.step = .found (.fixed kind l.line) (l.behind (.mark kind) rest) := by
  obtain ⟨spells, longest, division⟩ := fits
  have found := mark?_of_spells spells longest
  -- A slash is a mark by itself unless it opens a comment.
  obtain ⟨c, more, text, noBlank, noDigit, noStart, noQuote, oneLine, slash⟩ :=
    first_of_spells spells
  have step := step_ordinary normal (stands.trans (congrArg (· ++ rest) text)) noQuote (by
    intro same
    obtain ⟨divide, rfl⟩ := slash same
    exact division divide)
  simp only [noBlank, noDigit, noStart, stepMark, stands, found, Bool.false_eq_true,
    ↓reduceIte] at step
  rw [step]
  simp [behind, Lexeme.defect?, lineEnds_eq_zero oneLine]

/-- A character that begins nothing is passed over and reported. -/
theorem step_illegal {c : Char} (fits : (Lexeme.illegal c).Fits rest.head?)
    (normal : l.mode = .normal) (stands : l.rest = (Lexeme.illegal c).text ++ rest) :
    l.step = .passed (l.behind (.illegal c) rest) := by
  obtain ⟨noBlank, noDigit, noStart, noQuote, unspelled, longer⟩ := fits
  have noMark := mark?_of_unspelled unspelled longer
  -- A slash spells a mark, and a line end is a blank.
  have slash : c ≠ '/' := by
    rintro rfl
    exact unspelled .divide ⟨rfl, "/", rfl, rfl⟩
  have step := step_ordinary normal stands noQuote (fun same => absurd same slash)
  rw [← isBlank_iff, Bool.not_eq_true] at noBlank
  rw [← isWordStart_iff, Bool.not_eq_true] at noStart
  simp only [noBlank, noDigit, noStart, stepMark, stands, Lexeme.text, List.cons_append,
    List.nil_append, noMark, Bool.false_eq_true, ↓reduceIte] at step
  rw [step]
  have oneLine : c ≠ '\n' := by rintro rfl; exact absurd noBlank (by decide)
  simp [behind, Lexeme.defect?, Lexeme.text, lineEnds_cons_of_ne oneLine,
    show lineEnds [] = 0 from rfl]

/-- A step at a lexeme finds its token, or passes it over when it has none; from inside of a comment
the lexer slides to the place behind it. -/
theorem step_lexeme {lexeme : Lexeme} (fits : lexeme.Fits rest.head?) (normal : l.mode = .normal)
    (stands : l.rest = lexeme.text ++ rest) :
    match lexeme.token? l.line with
    | some token => l.step = .found token (l.behind lexeme rest)
    | none => ∃ after, l.step = .passed after ∧ after.Slides (l.behind lexeme rest) := by
  -- The classes are told apart by their first characters, as the steps of the lexer are.
  cases lexeme with
  | blank c => exact ⟨_, step_blank fits normal stands, .stay _⟩
  | lineComment body => exact ⟨_, step_lineComment fits normal stands, .stay _⟩
  | blockComment body => exact step_blockComment fits normal stands
  | openComment body => exact step_openComment fits normal stands
  | word spelling => exact step_word fits normal stands
  | number whole fraction => exact step_number fits normal stands
  | string payload => exact step_string fits normal stands
  | openString payload => exact ⟨_, step_openString fits normal stands, .stay _⟩
  | mark kind => exact step_mark fits normal stands
  | illegal c => exact ⟨_, step_illegal fits normal stands, .stay _⟩

/-- Reading at a lexeme gives its token, or goes on behind it when it has none. -/
theorem next_lexeme {lexeme : Lexeme} (fits : lexeme.Fits rest.head?) (normal : l.mode = .normal)
    (stands : l.rest = lexeme.text ++ rest) :
    l.next = match lexeme.token? l.line with
      | some token => (some token, l.behind lexeme rest)
      | none => (l.behind lexeme rest).next := by
  -- One step reads the lexeme, apart from the steps through a comment that follow it.
  have step := step_lexeme fits normal stands
  cases own : lexeme.token? l.line with
  | some token =>
    rw [own] at step
    exact next_of_found step
  | none =>
    rw [own] at step
    obtain ⟨after, passed, slides⟩ := step
    rw [next_of_passed passed, slides.next_eq]

end Classes

end Lexer

end Scriptlet
