import Scriptlet.Proofs.Token.Apart
import Scriptlet.Proofs.Writing.Lexemes

/-! Which trees can be written, and that what is written falls into the lexemes that were meant. -/

namespace Scriptlet

/-- A name that is a word and no keyword. -/
structure IsName (name : String) : Prop where
  word : ∃ first more, name.toList = first :: more ∧ Lexeme.WordStart first ∧
    ∀ c ∈ more, Lexeme.WordPart c
  free : TokenKind.keyword? name = none

section Writable

variable (decimals : Decimals)

/-- A whole number that is not negative and fits into 64 bits with a sign, or the value of the
literal with a point that is written for it. -/
def Number.Writable : Number → Prop
  | .int value => 0 ≤ value ∧ value < Number.intBound
  | .float value => (decimals value).1 ≠ [] ∧ (decimals value).2 ≠ [] ∧
    (∀ c ∈ (decimals value).1 ++ (decimals value).2, c.isDigit = true) ∧
    Number.ofDigits (decimals value).1 (some (decimals value).2) = .float value

mutual

/-- An expression of names, escaped payloads and numbers that can be written. -/
def Expr.Writable : Expr → Prop
  | .identifier name => IsName name
  | .number value => value.Writable decimals
  | .string payload => Escaped payload.toList
  | .boolean _ => True
  | .unary _ operand => operand.Writable
  | .binary _ left right => left.Writable ∧ right.Writable
  | .call callee arguments => IsName callee ∧ Expr.AllWritable arguments

/-- Expressions that can all be written. -/
def Expr.AllWritable : List Expr → Prop
  | [] => True
  | e :: more => e.Writable ∧ Expr.AllWritable more

end

mutual

/-- An item of names and expressions that can be written. -/
def Item.Writable : Item → Prop
  | .ifThen _ condition consequent => condition.Writable decimals ∧ Item.AllWritable consequent
  | .ifThenElse _ condition consequent alternative =>
    condition.Writable decimals ∧ Item.AllWritable consequent ∧ Item.AllWritable alternative
  | .assignment _ name value | .declaration _ name value => IsName name ∧ value.Writable decimals
  | .returned _ value | .expression _ value => value.Writable decimals
  | .function _ name parameters body =>
    (∀ own, name = some own → IsName own) ∧ (∀ parameter ∈ parameters, IsName parameter) ∧
      Item.AllWritable body

/-- Items that can all be written. -/
def Item.AllWritable : List Item → Prop
  | [] => True
  | item :: items => item.Writable ∧ Item.AllWritable items

end

end Writable

namespace Lexeme

/-- What the token of a lexeme is, on whatever line. -/
def content? (lexeme : Lexeme) : Option (TokenKind × TokenValue) :=
  (lexeme.token? 0).map Token.content

/-- What the tokens of some lexemes are. -/
def contents (lexemes : List Lexeme) : List (TokenKind × TokenValue) :=
  lexemes.filterMap content?

/-- The tokens of some lexemes are what these lexemes mean, on whatever lines they start. -/
theorem content_tokens (line : Nat) (lexemes : List Lexeme) :
    (tokens line lexemes).map Token.content = contents lexemes := by
  -- A lexeme means the same on every line, so that its token does too.
  induction lexemes generalizing line with
  | nil => rfl
  | cons lexeme more ih =>
    have own : (lexeme.token? line).toList.map Token.content = lexeme.content?.toList := by
      cases lexeme <;> rfl
    rw [tokens_cons, List.map_append, ih, own, contents, contents, List.filterMap_cons]
    cases lexeme.content? <;> rfl

/-- A lexeme that has a token, and fits at the end of a source. -/
structure Solid (lexeme : Lexeme) : Prop where
  fits : lexeme.Fits none
  meant : lexeme.content?.isSome

variable {lexeme : Lexeme} {lexemes : List Lexeme}

/-- A solid lexeme has a token wherever it starts. -/
theorem Solid.exists_token (solid : lexeme.Solid) (line : Nat) :
    ∃ token, lexeme.token? line = some token := by
  -- What a lexeme means is that of its token on line zero; further down it is the same token.
  obtain ⟨content, own⟩ := Option.isSome_iff_exists.mp solid.meant
  obtain ⟨token, own, -⟩ := Option.map_eq_some_iff.mp own
  rw [← Nat.zero_add line, token?_add, own]
  exact ⟨_, rfl⟩

/-- In front of a blank a solid lexeme fits as well. -/
theorem Solid.fits_blank (solid : lexeme.Solid) {c : Char} (blank : Lexer.isBlank c = true) :
    lexeme.Fits (some c) := by
  -- A lexeme with a token is closed, and a blank goes on with nothing that is closed.
  obtain ⟨token, own⟩ := solid.exists_token 0
  exact fits_of_blank solid.fits (isOpen_of_token? own) blank

/-- A solid lexeme has no defect. -/
theorem Solid.no_defect (solid : lexeme.Solid) (line : Nat) : lexeme.defect? line = none := by
  -- No sort of lexeme has both a meaning and a defect.
  have meant := solid.meant
  cases lexeme <;> simp_all [content?, token?, defect?]

/-- Solid lexemes with spaces between them fall into these lexemes again. -/
theorem fitting_spaced (solid : ∀ lexeme ∈ lexemes, lexeme.Solid) : Fitting (spaced lexemes) := by
  induction lexemes with
  | nil => trivial
  | cons first more ih =>
    have later := ih fun lexeme member => solid lexeme (List.mem_cons_of_mem _ member)
    cases more with
    | nil => exact ⟨(solid first (by simp)).fits, trivial⟩
    | cons second more =>
      -- Behind the first lexeme stands a space.
      exact ⟨(solid first (by simp)).fits_blank rfl, by simp [Fits], later⟩

/-- Spaces mean nothing. -/
theorem contents_spaced (lexemes : List Lexeme) : contents (spaced lexemes) = contents lexemes := by
  -- Each space is dropped again, and what is left are the lexemes that it stood between.
  induction lexemes with
  | nil => rfl
  | cons first more ih =>
    cases more with
    | nil => rfl
    | cons second more =>
      show contents (first :: .blank ' ' :: spaced (second :: more)) = _
      have space : content? (.blank ' ') = none := rfl
      rw [contents, List.filterMap_cons, List.filterMap_cons_none space, contents,
        List.filterMap_cons]
      rw [contents, contents] at ih
      rw [ih]

/-- Solid lexemes with spaces between them have no defect. -/
theorem defects_spaced (solid : ∀ lexeme ∈ lexemes, lexeme.Solid) (line : Nat) :
    defects line (spaced lexemes) = [] := by
  -- Neither the solid lexemes nor the spaces have one.
  induction lexemes generalizing line with
  | nil => rfl
  | cons first more ih =>
    have own := (solid first (by simp)).no_defect
    have later := ih fun lexeme member => solid lexeme (List.mem_cons_of_mem _ member)
    cases more with
    | nil =>
      show defects line [first] = []
      rw [defects_cons, own]
      rfl
    | cons second more =>
      show defects line (first :: .blank ' ' :: spaced (second :: more)) = []
      rw [defects_cons, defects_cons, own, later]
      rfl

section Solid

/-- The mark of a kind that is written as one is solid. -/
theorem solid_mark {kind : TokenKind} (noKeyword : kind.isKeyword = false)
    (spelled : kind.spelling?.isSome) : (mark kind).Solid := by
  -- At the end of a source no character could go on with the mark.
  obtain ⟨spelling, same⟩ := Option.isSome_iff_exists.mp spelled
  refine ⟨⟨⟨noKeyword, spelling, same, by simp [text, same]⟩, ?_, ?_⟩, rfl⟩
  · intro c longer none
    cases none
  · intro
    simp

/-- The word of a keyword is solid. -/
theorem solid_keyword {kind : TokenKind} (keyword : kind ∈ TokenKind.keywords) :
    (Lexeme.keyword kind).Solid := by
  -- Each keyword is a letter with letters behind it.
  have word : ∃ first more, (kind.spelling?.getD "").toList = first :: more ∧
      Lexer.isWordStart first = true ∧ more.all Lexer.isWordPart = true := by
    simp only [TokenKind.keywords, List.mem_cons, List.not_mem_nil, or_false] at keyword
    rcases keyword with rfl | rfl | rfl | rfl | rfl | rfl | rfl <;>
      exact ⟨_, _, String.toList_ofList, by decide, by decide⟩
  obtain ⟨first, more, spelled, start, parts⟩ := word
  refine ⟨⟨⟨first, more, spelled, Lexer.isWordStart_iff.mp start, fun c member => ?_⟩,
    fun c none => by cases none⟩, rfl⟩
  exact Lexer.isWordPart_iff.mp (List.all_eq_true.mp parts c member)

/-- The word of a name is solid. -/
theorem solid_name {name : String} (isName : IsName name) : (word name.toList).Solid :=
  -- A name is a word, and at its end no letter follows.
  ⟨⟨isName.word, fun c none => by cases none⟩, rfl⟩

/-- The lexeme of a number that can be written is solid. -/
theorem solid_number {decimals : Decimals} {value : Number} (writable : value.Writable decimals) :
    (value.lexeme decimals).Solid := by
  -- Whole numbers are written in digits, and the others in digits around a point.
  cases value with
  | int value =>
    exact ⟨⟨Nat.toDigits_ne_nil, fun c => Nat.isDigit_of_mem_toDigits (by decide) (by decide),
      by simp, fun c none => by cases none⟩, rfl⟩
  | float value =>
    obtain ⟨whole, -, digits, -⟩ := writable
    refine ⟨⟨whole, fun c member => digits c (List.mem_append_left _ member),
      fun c member => digits c (List.mem_append_right _ member), fun c none => by cases none⟩, rfl⟩

/-- The lexeme of a number that can be written means this number. -/
theorem content?_number {decimals : Decimals} {value : Number}
    (writable : value.Writable decimals) :
    (value.lexeme decimals).content? = some (.number, .number value) := by
  cases value with
  | int value =>
    -- The digits of a whole number have its value.
    obtain ⟨positive, small⟩ := writable
    have digits : Number.ofDigits (Nat.toDigits 10 value.toNat) none = .int value := by
      rw [Number.ofDigits, Nat.ofDigitChars_ten_toDigits, if_pos (by omega),
        Int.toNat_of_nonneg positive]
    rw [Number.lexeme, content?, token?, digits]
    rfl
  | float value =>
    obtain ⟨-, -, -, same⟩ := writable
    rw [Number.lexeme, content?, token?, same]
    rfl

/-- Lexemes that are all solid. -/
def AllSolid (lexemes : List Lexeme) : Prop :=
  ∀ lexeme ∈ lexemes, lexeme.Solid

/-- Some lexemes are solid if the first one and the others are. -/
@[simp] theorem allSolid_cons : AllSolid (lexeme :: lexemes) ↔ lexeme.Solid ∧ AllSolid lexemes :=
  -- To be solid is asked of each lexeme on its own.
  List.forall_mem_cons

/-- No lexemes are all solid. -/
@[simp] theorem allSolid_nil : AllSolid [] := by
  -- There is no lexeme that it could be asked of.
  simp [AllSolid]

/-- Lexemes in a row are solid if both parts are. -/
@[simp] theorem allSolid_append {more : List Lexeme} :
    AllSolid (lexemes ++ more) ↔ AllSolid lexemes ∧ AllSolid more :=
  -- Every lexeme stands in one of the two parts.
  List.forall_mem_append

/-- Parentheses and braces, commas and semicolons are solid. -/
@[simp] theorem solid_punctuation : (mark .leftParen).Solid ∧ (mark .rightParen).Solid ∧
    (mark .leftBrace).Solid ∧ (mark .rightBrace).Solid ∧ (mark .comma).Solid ∧
    (mark .semicolon).Solid ∧ (mark .assign).Solid :=
  -- Each of them is written as a mark.
  ⟨solid_mark rfl rfl, solid_mark rfl rfl, solid_mark rfl rfl, solid_mark rfl rfl,
    solid_mark rfl rfl, solid_mark rfl rfl, solid_mark rfl rfl⟩

/-- Keywords are solid. -/
@[simp] theorem solid_words : (keyword .ifWord).Solid ∧ (keyword .elseWord).Solid ∧
    (keyword .trueWord).Solid ∧ (keyword .falseWord).Solid ∧ (keyword .returnWord).Solid ∧
    (keyword .functionWord).Solid ∧ (keyword .varWord).Solid := by
  -- They are found among the keywords.
  refine ⟨?_, ?_, ?_, ?_, ?_, ?_, ?_⟩ <;> exact solid_keyword (by decide)

/-- The marks of operators in front of an operand are solid. -/
@[simp] theorem solid_sign (operator : UnaryOperator) : (mark operator.kind).Solid := by
  -- Each of these operators is written as a mark.
  cases operator <;> exact solid_mark rfl rfl

/-- The marks of operators between operands are solid. -/
@[simp] theorem solid_joint (operator : BinaryOperator) : (mark operator.kind).Solid := by
  -- So is each of those.
  cases operator <;> exact solid_mark rfl rfl

/-- Parentheses keep lexemes solid. -/
@[simp] theorem allSolid_enclosedBelow {minimum strength : Nat} :
    AllSolid (enclosedBelow minimum strength lexemes) ↔ AllSolid lexemes := by
  -- With parentheses or without them, the lexemes between are the same.
  rw [enclosedBelow]
  split <;> simp

/-- Braces keep lexemes solid. -/
@[simp] theorem allSolid_braced : AllSolid (braced lexemes) ↔ AllSolid lexemes := by
  -- Both braces are solid.
  simp [braced]

/-- Names with commas between them are solid. -/
theorem allSolid_names {parameters : List String}
    (areNames : ∀ parameter ∈ parameters, IsName parameter) : AllSolid (names parameters) := by
  -- A comma stands behind each name but the last one.
  induction parameters with
  | nil => exact allSolid_nil
  | cons first more ih =>
    have later := ih fun parameter member => areNames parameter (List.mem_cons_of_mem _ member)
    have own := solid_name (areNames first (by simp))
    cases more with
    | nil => simp [names, own]
    | cons second more => simp [names, own, later]

end Solid

end Lexeme

open Lexeme

variable {decimals : Decimals}

mutual

/-- What is written for an expression is solid. -/
theorem Expr.allSolid_lexemes : ∀ e : Expr, e.Writable decimals → AllSolid (e.lexemes decimals)
  -- The parts of an expression are written as it can be; what is put
  -- around them is marks and words.
  | .identifier name, writable => by simpa [lexemes] using solid_name writable
  | .number value, writable => by simpa [lexemes] using solid_number writable
  | .string payload, writable => by
    have solid : (Lexeme.string payload.toList).Solid := ⟨writable, rfl⟩
    simpa [lexemes] using solid
  | .boolean true, _ => by simp [lexemes]
  | .boolean false, _ => by simp [lexemes]
  | .unary operator operand, writable => by
    simpa [lexemes] using operand.allSolid_lexemes writable
  | .binary operator left right, writable => by
    simpa [lexemes] using ⟨left.allSolid_lexemes writable.1, right.allSolid_lexemes writable.2⟩
  | .call callee arguments, writable => by
    simpa [lexemes] using ⟨solid_name writable.1, allSolid_allLexemes arguments writable.2⟩

/-- What is written for expressions with commas between them is solid. -/
theorem Expr.allSolid_allLexemes : ∀ arguments : List Expr, Expr.AllWritable decimals arguments →
    AllSolid (Expr.allLexemes decimals arguments)
  -- The induction follows the commas, one of which stands behind each expression but the last.
  | [], _ => allSolid_nil
  | [e], writable => e.allSolid_lexemes writable.1
  | e :: second :: more, writable => by
    simpa [allLexemes] using ⟨e.allSolid_lexemes writable.1,
      allSolid_allLexemes (second :: more) writable.2⟩

end

mutual

/-- What is written for an item is solid. -/
theorem Item.allSolid_lexemes : ∀ item : Item, item.Writable decimals →
    AllSolid (item.lexemes decimals)
  -- An item is a keyword or a name, and then parts that are solid with marks between them.
  | .ifThen _ condition consequent, writable => by
    simpa [lexemes] using ⟨condition.allSolid_lexemes writable.1,
      allSolid_allLexemes consequent writable.2⟩
  | .ifThenElse _ condition consequent alternative, writable => by
    simpa [lexemes] using ⟨condition.allSolid_lexemes writable.1,
      allSolid_allLexemes consequent writable.2.1, allSolid_allLexemes alternative writable.2.2⟩
  | .assignment _ name value, writable => by
    simpa [lexemes] using ⟨solid_name writable.1, value.allSolid_lexemes writable.2⟩
  | .returned _ value, writable => by simpa [lexemes] using value.allSolid_lexemes writable
  | .declaration _ name value, writable => by
    simpa [lexemes] using ⟨solid_name writable.1, value.allSolid_lexemes writable.2⟩
  | .expression _ value, writable => by simpa [lexemes] using value.allSolid_lexemes writable
  | .function _ (some name) parameters body, writable => by
    simpa [lexemes] using ⟨solid_name (writable.1 name rfl), allSolid_names writable.2.1,
      allSolid_allLexemes body writable.2.2⟩
  | .function _ none parameters body, writable => by
    simpa [lexemes] using ⟨allSolid_names writable.2.1, allSolid_allLexemes body writable.2.2⟩

/-- What is written for items one after another is solid. -/
theorem Item.allSolid_allLexemes : ∀ items : List Item, Item.AllWritable decimals items →
    AllSolid (Item.allLexemes decimals items)
  -- Nothing stands between two items.
  | [], _ => allSolid_nil
  | item :: items, writable => by
    simpa [allLexemes] using ⟨item.allSolid_lexemes writable.1,
      allSolid_allLexemes items writable.2⟩

end

end Scriptlet
