import Scriptlet.Token.Stream

/-! Lexemes are the pieces that a source falls into, each as long as its class allows. -/

namespace Scriptlet

/-- Text between the quotes of a string, where a backslash takes the next character with it. -/
inductive Escaped : List Char → Prop where
  /-- Nothing stands between the quotes. -/
  | nil : Escaped []
  /-- A backslash and any character behind it. -/
  | pair (c : Char) {rest : List Char} (more : Escaped rest) : Escaped ('\\' :: c :: rest)
  /-- A character that is neither a quote nor a backslash. -/
  | plain {c : Char} {rest : List Char} (noQuote : c ≠ '"') (noBackslash : c ≠ '\\')
      (more : Escaped rest) : Escaped (c :: rest)

/-- A kind of mark or operator is spelled in one way, and that spelling is no word. -/
def TokenKind.Spells (kind : TokenKind) (text : List Char) : Prop :=
  kind.isKeyword = false ∧ ∃ spelling, kind.spelling? = some spelling ∧ spelling.toList = text

/-- A piece of a source, by the class it belongs to. -/
inductive Lexeme where
  /-- A character that separates others. -/
  | blank (c : Char)
  /-- A comment up to the end of its line. -/
  | lineComment (body : List Char)
  /-- A comment between its two marks. -/
  | blockComment (body : List Char)
  /-- A comment whose closing mark is missing. -/
  | openComment (body : List Char)
  /-- A keyword or an identifier. -/
  | word (spelling : List Char)
  /-- A numeric literal; the point comes with the digits behind it. -/
  | number (whole : List Char) (fraction : Option (List Char))
  /-- A string between its quotes. -/
  | string (payload : List Char)
  /-- A string whose closing quote is missing. -/
  | openString (payload : List Char)
  /-- A mark or an operator. -/
  | mark (kind : TokenKind)
  /-- A character that begins nothing. -/
  | illegal (c : Char)

namespace Lexeme

/-- A letter of `A` to `Z` or `a` to `z`, or the underscore, which begin words. -/
def WordStart (c : Char) : Prop :=
  c.isAlpha = true ∨ c = '_'

/-- A character that begins words, or a digit. -/
def WordPart (c : Char) : Prop :=
  c.isAlphanum = true ∨ c = '_'

/-- The characters of a lexeme. -/
def text : Lexeme → List Char
  | .blank c | .illegal c => [c]
  | .lineComment body => '/' :: '/' :: body
  | .blockComment body => '/' :: '*' :: (body ++ ['*', '/'])
  | .openComment body => '/' :: '*' :: body
  | .word spelling => spelling
  | .number whole none => whole
  | .number whole (some fraction) => whole ++ '.' :: fraction
  | .string payload => '"' :: (payload ++ ['"'])
  | .openString payload => '"' :: payload
  | .mark kind => (kind.spelling?.getD "").toList

/-- A lexeme is of its class, and the character behind it, if there is one, cannot extend it. -/
def Fits (next : Option Char) : Lexeme → Prop
  | .blank c => c ∈ [' ', '\t', '\x0b', '\r', '\n']
  | .lineComment body => '\n' ∉ body ∧ (next = none ∨ next = some '\n')
  -- The closing mark is the first one behind the opening mark.
  | .blockComment body => ¬ ['*', '/'] <:+: body ++ ['*']
  | .openComment body => ¬ ['*', '/'] <:+: body ∧ next = none
  | .word spelling =>
    (∃ first more, spelling = first :: more ∧ WordStart first ∧ ∀ c ∈ more, WordPart c) ∧
      ∀ c, next = some c → ¬ WordPart c
  | .number whole none =>
    whole ≠ [] ∧ (∀ c ∈ whole, c.isDigit = true) ∧ next ≠ some '.' ∧
      ∀ c, next = some c → c.isDigit = false
  | .number whole (some fraction) =>
    whole ≠ [] ∧ (∀ c ∈ whole, c.isDigit = true) ∧ (∀ c ∈ fraction, c.isDigit = true) ∧
      ∀ c, next = some c → c.isDigit = false
  | .string payload => Escaped payload
  -- The source may also end behind a backslash that has nothing to take with it.
  | .openString payload =>
    next = none ∧ (Escaped payload ∨ ∃ closed, payload = closed ++ ['\\'] ∧ Escaped closed)
  | .mark kind =>
    kind.Spells (text (.mark kind)) ∧
      (∀ c longer, next = some c → ¬ TokenKind.Spells longer (text (.mark kind) ++ [c])) ∧
      (kind = .divide → next ≠ some '/' ∧ next ≠ some '*')
  | .illegal c =>
    c ∉ [' ', '\t', '\x0b', '\r', '\n'] ∧ c.isDigit = false ∧ ¬ WordStart c ∧
      c ≠ '"' ∧ (∀ kind, ¬ TokenKind.Spells kind [c]) ∧
      ∀ d kind, next = some d → ¬ TokenKind.Spells kind [c, d]

/-- The token of a lexeme that starts on a given line. -/
def token? (line : Nat) : Lexeme → Option Token
  | .word spelling => some (.word (String.ofList spelling) line)
  | .number whole fraction => some ⟨.number, .number (.ofDigits whole fraction), line⟩
  | .string payload => some ⟨.string, .text (String.ofList payload), line⟩
  | .mark kind => some (.fixed kind line)
  | .blank _ | .lineComment _ | .blockComment _ | .openComment _ | .openString _
  | .illegal _ => none

/-- The defect of a lexeme that starts on a given line. -/
def defect? (line : Nat) : Lexeme → Option LexicalError
  | .openComment _ => some (.unterminatedComment line)
  | .openString _ => some (.unterminatedString line)
  | .illegal c => some (.illegalCharacter c line)
  | .blank _ | .lineComment _ | .blockComment _ | .word _ | .number _ _ | .string _
  | .mark _ => none

/-- More text behind a lexeme may belong to it, whatever that text begins with. -/
def isOpen : Lexeme → Bool
  | .lineComment _ | .openComment _ | .openString _ => true
  | .blank _ | .blockComment _ | .word _ | .number _ _ | .string _ | .mark _ | .illegal _ => false

/-- The characters of some lexemes one after another. -/
def joined (lexemes : List Lexeme) : List Char :=
  lexemes.flatMap text

/-- Each lexeme fits in front of the ones behind it. -/
def Fitting : List Lexeme → Prop
  | [] => True
  | lexeme :: more => lexeme.Fits (joined more).head? ∧ Fitting more

/-- Each lexeme with the line where it starts, when the first one starts on a given line. -/
def placed (line : Nat) : List Lexeme → List (Nat × Lexeme)
  | [] => []
  | lexeme :: more => (line, lexeme) :: placed (line + Lexer.lineEnds lexeme.text) more

/-- The tokens of some lexemes, when the first one starts on a given line. -/
def tokens (line : Nat) (lexemes : List Lexeme) : List Token :=
  (placed line lexemes).filterMap fun (start, lexeme) => lexeme.token? start

/-- The defects of some lexemes, when the first one starts on a given line. -/
def defects (line : Nat) (lexemes : List Lexeme) : List LexicalError :=
  (placed line lexemes).filterMap fun (start, lexeme) => lexeme.defect? start

end Lexeme

end Scriptlet
