import Scriptlet.Proofs.Token.Scan

/-! Every source falls into lexemes, and its tokens and defects are theirs, each with its line. -/

namespace Scriptlet

namespace Lexeme

/-- A lexeme that fits has at least one character. -/
theorem text_ne_nil {lexeme : Lexeme} {next : Option Char} (fits : lexeme.Fits next) :
    lexeme.text ≠ [] := by
  -- Only the classes without fixed characters need a look at their conditions.
  cases lexeme with
  | word spelling =>
    obtain ⟨⟨first, more, rfl, -, -⟩, -⟩ := fits
    simp [text]
  | number whole fraction =>
    obtain ⟨⟨c, more, front, -⟩, -⟩ := Lexer.first_of_number fits
    simp [front]
  | mark kind =>
    obtain ⟨c, more, front, -⟩ := Lexer.first_of_spells fits.1
    simp [front]
  | _ => simp [text]

/-- A comment is closed by its first closing mark, or by none. -/
theorem exists_closing (source : List Char) :
    (∃ body rest, source = body ++ '*' :: '/' :: rest ∧ ¬ ['*', '/'] <:+: body ++ ['*']) ∨
      ¬ ['*', '/'] <:+: source := by
  -- The first closing mark stands at the front or behind the first character.
  induction source with
  | nil => exact .inr (by simp)
  | cons c source ih =>
    by_cases front : ∃ rest, c :: source = '*' :: '/' :: rest
    · obtain ⟨rest, front⟩ := front
      exact .inl ⟨[], rest, front, by decide⟩
    · rcases ih with ⟨body, rest, rfl, first⟩ | unclosed
      · refine .inl ⟨c :: body, rest, rfl, fun closing => ?_⟩
        rcases List.infix_cons_iff.mp closing with ⟨rest', same⟩ | closing
        · cases body with
          | nil => simp at same
          | cons d body =>
            obtain ⟨rfl, behindStar⟩ := List.cons.inj same
            obtain ⟨rfl, -⟩ := List.cons.inj behindStar
            exact front ⟨body ++ '*' :: '/' :: rest, rfl⟩
        · exact first closing
      · refine .inr fun closing => ?_
        rcases List.infix_cons_iff.mp closing with ⟨rest, same⟩ | closing
        · exact front ⟨rest, same.symm⟩
        · exact unclosed closing

/-- Behind an opening quote the string is closed, or it is open up to the end. -/
theorem exists_payload (source : List Char) :
    (∃ payload rest, source = payload ++ '"' :: rest ∧ Escaped payload) ∨
      Escaped source ∨ ∃ closed, source = closed ++ ['\\'] ∧ Escaped closed := by
  -- The cases are those of the reader of payloads.
  induction source using Lexer.payload?.induct with
  | case1 => exact .inr (.inl .nil)
  | case2 rest => exact .inl ⟨[], rest, rfl, .nil⟩
  | case3 => exact .inr (.inr ⟨[], rfl, .nil⟩)
  | case4 escaped tail ih =>
    rcases ih with ⟨payload, rest, rfl, more⟩ | more | ⟨closed, rfl, more⟩
    · exact .inl ⟨'\\' :: escaped :: payload, rest, rfl, .pair escaped more⟩
    · exact .inr (.inl (.pair escaped more))
    · exact .inr (.inr ⟨'\\' :: escaped :: closed, rfl, .pair escaped more⟩)
  | case5 c tail noQuote lone pair ih =>
    have noBackslash : c ≠ '\\' := by
      rintro rfl
      cases tail with
      | nil => exact lone rfl rfl
      | cons escaped rest => exact pair escaped rest rfl rfl
    rcases ih with ⟨payload, rest, rfl, more⟩ | more | ⟨closed, rfl, more⟩
    · exact .inl ⟨c :: payload, rest, rfl, .plain noQuote noBackslash more⟩
    · exact .inr (.inl (.plain noQuote noBackslash more))
    · exact .inr (.inr ⟨c :: closed, rfl, .plain noQuote noBackslash more⟩)

/-- Behind the run of matching characters at the front, the next one does not match. -/
theorem stop_dropWhile (test : Char → Bool) (source : List Char) :
    ∀ c, (source.dropWhile test).head? = some c → test c = false := by
  -- The run would have gone on otherwise.
  intro c front
  have stop := List.head?_dropWhile_not test source
  simpa [front] using stop

/-- Every character of the run of matching characters at the front matches. -/
theorem all_takeWhile (test : Char → Bool) (source : List Char) :
    ∀ c ∈ source.takeWhile test, test c = true :=
  -- The run ends where a character does not match.
  fun _ member => List.all_eq_true.mp List.all_takeWhile _ member

/-- A digit begins a number that fits. -/
theorem exists_number {c : Char} (digit : c.isDigit = true) (source : List Char) :
    ∃ (lexeme : Lexeme) (rest : List Char),
      c :: source = lexeme.text ++ rest ∧ lexeme.Fits rest.head? := by
  -- A point behind the whole digits takes the digits behind it along.
  have whole := List.takeWhile_append_dropWhile (p := Char.isDigit) (l := c :: source)
  have nonempty : (c :: source).takeWhile Char.isDigit ≠ [] := by simp [digit]
  have digits := all_takeWhile Char.isDigit (c :: source)
  have stop := stop_dropWhile Char.isDigit (c :: source)
  by_cases point : ((c :: source).dropWhile Char.isDigit).head? = some '.'
  · obtain ⟨behind, pointed⟩ := List.head?_eq_some_iff.mp point
    refine ⟨.number ((c :: source).takeWhile Char.isDigit) (some (behind.takeWhile Char.isDigit)),
      behind.dropWhile Char.isDigit, ?_, nonempty, digits, all_takeWhile Char.isDigit behind,
      stop_dropWhile Char.isDigit behind⟩
    simp only [text, List.append_assoc, List.cons_append, List.takeWhile_append_dropWhile]
    rw [← pointed, whole]
  · exact ⟨.number ((c :: source).takeWhile Char.isDigit) none,
      (c :: source).dropWhile Char.isDigit, whole.symm, nonempty, digits, point, stop⟩

/-- A character that begins words begins one that fits. -/
theorem exists_word {c : Char} (start : Lexer.isWordStart c = true) (source : List Char) :
    ∃ (lexeme : Lexeme) (rest : List Char),
      c :: source = lexeme.text ++ rest ∧ lexeme.Fits rest.head? := by
  -- The word is as long as its characters go.
  have parts : ∀ d ∈ source.takeWhile Lexer.isWordPart, WordPart d := fun d member =>
    Lexer.isWordPart_iff.mp (all_takeWhile Lexer.isWordPart source d member)
  have stop : ∀ d, (source.dropWhile Lexer.isWordPart).head? = some d → ¬ WordPart d := by
    intro d front part
    have other := stop_dropWhile Lexer.isWordPart source d front
    rw [Lexer.isWordPart_iff.mpr part] at other
    exact absurd other (by decide)
  refine ⟨.word (c :: source.takeWhile Lexer.isWordPart), source.dropWhile Lexer.isWordPart, ?_,
    ⟨c, source.takeWhile Lexer.isWordPart, rfl, Lexer.isWordStart_iff.mp start, parts⟩, stop⟩
  simp only [text, List.cons_append, List.takeWhile_append_dropWhile]

/-- The text of a mark is its spelling. -/
theorem text_mark {kind : TokenKind} {spelling : List Char} (spells : kind.Spells spelling) :
    text (.mark kind) = spelling := by
  -- A kind has one spelling only.
  obtain ⟨-, written, spelled, rfl⟩ := spells
  simp [text, spelled]

/-- A character of no other class is a mark, begins one of two characters, or is illegal. -/
theorem exists_mark {c : Char} {source : List Char} (noBlank : c ∉ [' ', '\t', '\x0b', '\r', '\n'])
    (noDigit : c.isDigit = false) (noStart : ¬ WordStart c) (noQuote : c ≠ '"')
    (slash : c = '/' → source.head? ≠ some '/' ∧ source.head? ≠ some '*') :
    ∃ (lexeme : Lexeme) (rest : List Char),
      c :: source = lexeme.text ++ rest ∧ lexeme.Fits rest.head? := by
  by_cases pair : ∃ d kind, source.head? = some d ∧ TokenKind.Spells kind [c, d]
  -- No mark has three characters, and none of two begins with a slash.
  · obtain ⟨d, kind, front, spells⟩ := pair
    obtain ⟨rest, rfl⟩ := List.head?_eq_some_iff.mp front
    have spelled := text_mark spells
    refine ⟨.mark kind, rest, by rw [spelled]; rfl, spelled ▸ spells, ?_, ?_⟩
    · intro e longer _ spells
      have short := (Lexer.spells_length spells).2
      simp [spelled] at short
    · rintro rfl
      simp [TokenKind.Spells, TokenKind.spelling?] at spells
  by_cases single : ∃ kind, TokenKind.Spells kind [c]
  · obtain ⟨kind, spells⟩ := single
    have spelled := text_mark spells
    refine ⟨.mark kind, source, by rw [spelled]; rfl, spelled ▸ spells, ?_, ?_⟩
    · intro d longer front spells
      exact pair ⟨d, longer, front, by simpa [spelled] using spells⟩
    · rintro rfl
      exact slash (by simpa [TokenKind.Spells, TokenKind.spelling?, eq_comm] using spells.2)
  · refine ⟨.illegal c, source, rfl, noBlank, noDigit, noStart, noQuote, ?_, ?_⟩
    · exact fun kind spells => single ⟨kind, spells⟩
    · exact fun d kind front spells => pair ⟨d, kind, front, spells⟩

/-- Some lexeme fits at the front of every source that has characters left. -/
theorem exists_lexeme (c : Char) (source : List Char) :
    ∃ (lexeme : Lexeme) (rest : List Char),
      c :: source = lexeme.text ++ rest ∧ lexeme.Fits rest.head? := by
  by_cases blank : c ∈ [' ', '\t', '\x0b', '\r', '\n']
  · exact ⟨.blank c, source, rfl, blank⟩
  by_cases quote : c = '"'
  · subst quote
    rcases exists_payload source with ⟨payload, rest, rfl, escaped⟩ | open_
    · exact ⟨.string payload, rest, by simp [text], escaped⟩
    · exact ⟨.openString source, [], by simp [text], rfl, open_⟩
  by_cases digit : c.isDigit = true
  · exact exists_number digit source
  by_cases start : Lexer.isWordStart c = true
  · exact exists_word start source
  -- A slash may begin a comment of either sort, and is a mark otherwise.
  by_cases line : c = '/' ∧ source.head? = some '/'
  · obtain ⟨rfl, front⟩ := line
    obtain ⟨rest, rfl⟩ := List.head?_eq_some_iff.mp front
    have inLine := all_takeWhile (· != '\n') rest
    have lineEnd := stop_dropWhile (· != '\n') rest
    refine ⟨.lineComment (rest.takeWhile (· != '\n')), rest.dropWhile (· != '\n'), ?_, ?_, ?_⟩
    · simp only [text, List.cons_append, List.takeWhile_append_dropWhile]
    · exact fun member => absurd (inLine _ member) (by decide)
    · cases front : (rest.dropWhile (· != '\n')).head? with
      | none => exact .inl rfl
      | some c => exact .inr (by simpa using lineEnd c front)
  by_cases block : c = '/' ∧ source.head? = some '*'
  · obtain ⟨rfl, front⟩ := block
    obtain ⟨rest, rfl⟩ := List.head?_eq_some_iff.mp front
    rcases exists_closing rest with ⟨body, rest, rfl, first⟩ | unclosed
    · exact ⟨.blockComment body, rest, by simp [text], first⟩
    · exact ⟨.openComment rest, [], by simp [text], unclosed, rfl⟩
  exact exists_mark blank (by simpa using digit) (mt Lexer.isWordStart_iff.mpr start) quote
    fun same => ⟨fun front => line ⟨same, front⟩, fun front => block ⟨same, front⟩⟩

/-- Every source falls into lexemes that fit. -/
theorem exists_fitting (source : List Char) :
    ∃ lexemes, Fitting lexemes ∧ joined lexemes = source := by
  -- Each lexeme takes at least one character, so the induction is on what is left.
  induction length : source.length using Nat.strongRecOn generalizing source with
  | _ size ih =>
    cases source with
    | nil => exact ⟨[], trivial, rfl⟩
    | cons c source =>
      obtain ⟨lexeme, rest, front, fits⟩ := exists_lexeme c source
      have nonempty := List.length_pos_iff.mpr (text_ne_nil fits)
      have shorter : rest.length < size := by
        rw [← length, front, List.length_append]
        omega
      obtain ⟨lexemes, fitting, rfl⟩ := ih _ shorter rest rfl
      exact ⟨lexeme :: lexemes, ⟨fits, fitting⟩, front.symm⟩

/-- The characters of lexemes in front of others come first. -/
theorem joined_append (front back : List Lexeme) :
    joined (front ++ back) = joined front ++ joined back :=
  -- The texts of the lexemes are put in a row.
  List.flatMap_append

/-- The first character of some lexemes is that of the first lexeme, whatever stands behind. -/
theorem head?_joined_append {lexeme : Lexeme} {next : Option Char} (rest more : List Lexeme)
    (fits : lexeme.Fits next) :
    (joined ((lexeme :: rest) ++ more)).head? = (joined (lexeme :: rest)).head? := by
  -- A lexeme that fits has a character.
  obtain ⟨c, text, front⟩ := List.exists_cons_of_ne_nil (text_ne_nil fits)
  simp [joined, front]

/-- What fits in front of something fits at the end. -/
theorem Fits.last {lexeme : Lexeme} {next : Option Char} (fits : lexeme.Fits next) :
    lexeme.Fits none := by
  -- Nothing that stands behind is asked for, and nothing can extend the lexeme there.
  cases lexeme with
  | blank c | blockComment body | string payload => exact fits
  | lineComment body => exact ⟨fits.1, .inl rfl⟩
  | openComment body => exact ⟨fits.1, rfl⟩
  | word spelling => exact ⟨fits.1, nofun⟩
  | number whole fraction =>
    cases fraction with
    | none => exact ⟨fits.1, fits.2.1, nofun, nofun⟩
    | some fraction => exact ⟨fits.1, fits.2.1, fits.2.2.1, nofun⟩
  | openString payload => exact ⟨rfl, fits.2⟩
  | mark kind => exact ⟨fits.1, nofun, fun _ => ⟨nofun, nofun⟩⟩
  | illegal c =>
    obtain ⟨noBlank, noDigit, noStart, noQuote, alone, -⟩ := fits
    exact ⟨noBlank, noDigit, noStart, noQuote, alone, nofun⟩

/-- Lexemes in front of others fit without them. -/
theorem fitting_front {front back : List Lexeme} (fitting : Fitting (front ++ back)) :
    Fitting front := by
  -- Only the last of them gets another neighbour, which is the end of the source.
  induction front with
  | nil => trivial
  | cons lexeme front ih =>
    refine ⟨?_, ih fitting.2⟩
    cases front with
    | nil => exact fitting.1.last
    | cons second front =>
      exact head?_joined_append front back fitting.2.1 ▸ fitting.1

/-- Lexemes behind others fit. -/
theorem fitting_behind {front back : List Lexeme} (fitting : Fitting (front ++ back)) :
    Fitting back := by
  -- What a lexeme fits in front of does not depend on what comes before it.
  induction front with
  | nil => exact fitting
  | cons lexeme front ih => exact ih fitting.2

/-- The tokens of a lexeme in front of others are its own, and then theirs. -/
theorem tokens_cons (line : Nat) (lexeme : Lexeme) (more : List Lexeme) :
    tokens line (lexeme :: more) =
      (lexeme.token? line).toList ++ tokens (line + Lexer.lineEnds lexeme.text) more := by
  -- A lexeme has one token at most.
  cases own : lexeme.token? line <;> simp [tokens, placed, own]

/-- The defects of a lexeme in front of others are its own, and then theirs. -/
theorem defects_cons (line : Nat) (lexeme : Lexeme) (more : List Lexeme) :
    defects line (lexeme :: more) =
      (lexeme.defect? line).toList ++ defects (line + Lexer.lineEnds lexeme.text) more := by
  -- A lexeme has one defect at most.
  cases own : lexeme.defect? line <;> simp [defects, placed, own]

/-- Lexemes in front of others have the tokens that they have alone, and the others follow. -/
theorem tokens_append (front back : List Lexeme) (line : Nat) :
    tokens line (front ++ back) =
      tokens line front ++ tokens (line + Lexer.lineEnds (joined front)) back := by
  -- The lines of the others are counted from the end of those in front.
  induction front generalizing line with
  | nil => rfl
  | cons lexeme front ih =>
    rw [List.cons_append, tokens_cons, tokens_cons, ih, List.append_assoc, Nat.add_assoc,
      ← Lexer.lineEnds_append]
    rfl

/-- Lexemes in front of others have the defects that they have alone, and the others follow. -/
theorem defects_append (front back : List Lexeme) (line : Nat) :
    defects line (front ++ back) =
      defects line front ++ defects (line + Lexer.lineEnds (joined front)) back := by
  -- As with tokens, the lines of the others are counted from the end of those in front.
  induction front generalizing line with
  | nil => rfl
  | cons lexeme front ih =>
    rw [List.cons_append, defects_cons, defects_cons, ih, List.append_assoc, Nat.add_assoc,
      ← Lexer.lineEnds_append]
    rfl

end Lexeme

namespace Lexer

variable (l : Lexer) (lexeme : Lexeme) (rest : List Char)

/-- Behind a lexeme stands what follows it. -/
@[simp] theorem behind_rest : (l.behind lexeme rest).rest = rest := by
  -- Reporting a defect moves nothing.
  unfold behind
  split <;> rfl

/-- Behind a lexeme its line ends are counted. -/
@[simp] theorem behind_line :
    (l.behind lexeme rest).line = l.line + lineEnds lexeme.text := by
  -- Reporting a defect counts nothing.
  unfold behind
  split <;> rfl

/-- Behind a lexeme the mode is the one in front of it. -/
@[simp] theorem behind_mode : (l.behind lexeme rest).mode = l.mode := by
  -- Comments are entered and left within their lexeme.
  unfold behind
  split <;> rfl

/-- Behind a lexeme its defect is held in addition. -/
@[simp] theorem behind_errors :
    (l.behind lexeme rest).errors.toList = l.errors.toList ++ (lexeme.defect? l.line).toList := by
  -- At most one defect is reported.
  unfold behind
  split <;> simp_all [report]

/-- What can be read depends on nothing but what the next reading gives. -/
theorem drain_congr {l other : Lexer} (same : l.next = other.next) : l.drain = other.drain := by
  -- Draining begins with the next reading.
  rw [drain, drain, same]

/-- Draining takes the next token first. -/
theorem drain_of_some {l after : Lexer} {token : Token} (read : l.next = (some token, after)) :
    l.drain = (token :: after.drain.1, after.drain.2) := by
  -- The rest is drained behind it.
  rw [drain]
  split
  · simp_all
  · simp_all

/-- Draining ends where no token is left. -/
theorem drain_of_none {l after : Lexer} (read : l.next = (none, after)) :
    l.drain = ([], after) := by
  -- Nothing is read behind the end.
  rw [drain]
  split
  · simp_all
  · simp_all

/-- A lexer between lexemes reads the tokens and defects of all lexemes that are left. -/
theorem drain_fitting {lexemes : List Lexeme} (fitting : Lexeme.Fitting lexemes) {l : Lexer}
    (normal : l.mode = .normal) (stands : l.rest = Lexeme.joined lexemes) :
    l.drain.1 = Lexeme.tokens l.line lexemes ∧
      l.drain.2.errors.toList = l.errors.toList ++ Lexeme.defects l.line lexemes ∧
      l.drain.2.rest = [] ∧ l.drain.2.mode = .normal ∧
      l.drain.2.line = l.line + lineEnds l.rest := by
  -- The induction moves the lexer over one lexeme after another.
  induction lexemes generalizing l with
  | nil =>
    rw [drain_of_none (next_of_nil normal stands), stands]
    simp [Lexeme.tokens, Lexeme.defects, Lexeme.placed, Lexeme.joined, lineEnds, normal]
  | cons lexeme more ih =>
    have front : l.rest = lexeme.text ++ Lexeme.joined more := stands
    have read := next_lexeme fitting.1 normal front
    obtain ⟨tokens, errors, rest, mode, line⟩ := ih fitting.2
      (show (l.behind lexeme (Lexeme.joined more)).mode = .normal by simpa using normal)
      (by simp)
    simp only [behind_errors, behind_line, behind_rest] at tokens errors line
    -- The lines and defects of this lexeme come before those of the others.
    have last : l.line + lineEnds lexeme.text + lineEnds (Lexeme.joined more) =
        l.line + lineEnds l.rest := by
      rw [front, lineEnds_append, Nat.add_assoc]
    rw [Lexeme.tokens_cons, Lexeme.defects_cons, ← List.append_assoc, ← errors, ← tokens, ← last,
      ← line]
    cases own : lexeme.token? l.line with
    | none =>
      simp only [own] at read
      rw [drain_congr read]
      simp [rest, mode]
    | some token =>
      simp only [own] at read
      rw [drain_of_some read]
      simp [rest, mode]

end Lexer

/-- The tokens and the defects of a source are those of any lexemes that it falls into. -/
theorem tokenizeWithErrors_of_fitting {lexemes : List Lexeme} (fitting : Lexeme.Fitting lexemes)
    {source : String} (joined : Lexeme.joined lexemes = source.toList) :
    tokenizeWithErrors source = (Lexeme.tokens 1 lexemes, Lexeme.defects 1 lexemes) := by
  -- The lexer starts on the first line and holds nothing, so that all it reports is theirs.
  obtain ⟨tokens, defects, -⟩ :=
    Lexer.drain_fitting fitting (l := Lexer.ofSource source) rfl joined.symm
  exact Prod.ext tokens defects

/-- A source is exactly its lexemes in a row, and scanning it gives their tokens and defects. -/
theorem tokenizeWithErrors_lossless (source : String) :
    ∃ lexemes, Lexeme.joined lexemes = source.toList ∧ Lexeme.Fitting lexemes ∧
      tokenizeWithErrors source = (Lexeme.tokens 1 lexemes, Lexeme.defects 1 lexemes) := by
  -- The lexer starts between lexemes, on the first line and without defects.
  obtain ⟨lexemes, fitting, joined⟩ := Lexeme.exists_fitting source.toList
  obtain ⟨tokens, errors, -⟩ :=
    Lexer.drain_fitting fitting (l := Lexer.ofSource source) rfl joined.symm
  exact ⟨lexemes, joined, fitting, Prod.ext tokens
    (errors.trans (by simp [Lexer.ofSource, Lexer.ofChars]))⟩

end Scriptlet
