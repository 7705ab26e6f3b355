import Scriptlet.Journal

/-! Reading a source token by token; a defect is reported and reading goes on behind it. -/

namespace Scriptlet

/-- What a lexer is in the middle of. -/
inductive LexerMode where
  /-- Between lexemes. -/
  | normal
  /-- Inside a block comment that was opened on a given line. -/
  | blockComment (openedAt : Nat)
deriving DecidableEq, Repr

/-- A place in a source, with what has been reported on the way there. -/
structure Lexer where
  /-- The characters that are still unread. -/
  rest : List Char
  /-- The line of the next character, counted from one. -/
  line : Nat
  /-- What the lexer is in the middle of. -/
  mode : LexerMode
  /-- The defects that nobody has taken yet, in the order they were met. -/
  errors : Array LexicalError
  /-- Everything worth logging so far, in the order it happened. -/
  journal : Array Event
deriving DecidableEq, Repr

/-- What one step of a lexer comes to. -/
inductive LexerStep where
  /-- The source has ended, and the lexer stays where it is. -/
  | exhausted (final : Lexer)
  /-- Something that is no token was passed over. -/
  | passed (next : Lexer)
  /-- A token was read. -/
  | found (token : Token) (next : Lexer)

/-- Where a step leaves the lexer, unless the source has ended. -/
def LexerStep.next? : LexerStep → Option Lexer
  | .exhausted _ => none
  | .passed next => some next
  | .found _ next => some next

namespace Lexer

/-- A lexer in front of the first of some characters. -/
def ofChars (source : List Char) : Lexer where
  rest := source
  line := 1
  mode := .normal
  errors := #[]
  journal := #[]

/-- A lexer in front of a source. -/
def ofSource (source : String) : Lexer :=
  ofChars source.toList

/-- The characters that separate lexemes: space, tab, vertical tab, carriage return, line feed. -/
def isBlank (c : Char) : Bool :=
  c == ' ' || c == '\t' || c == '\x0b' || c == '\r' || c == '\n'

/-- The characters that begin a word. -/
def isWordStart (c : Char) : Bool :=
  c.isAlpha || c == '_'

/-- The characters that continue a word. -/
def isWordPart (c : Char) : Bool :=
  c.isAlphanum || c == '_'

/-- The number of line ends in some characters. -/
def lineEnds (read : List Char) : Nat :=
  read.count '\n'

/-- The mark or operator at the front of some characters, the longer one first. -/
def mark? : List Char → Option (TokenKind × List Char)
  | '&' :: '&' :: rest => some (.and, rest)
  | '|' :: '|' :: rest => some (.or, rest)
  | '=' :: '=' :: rest => some (.equal, rest)
  | '!' :: '=' :: rest => some (.notEqual, rest)
  | '<' :: '=' :: rest => some (.lessEqual, rest)
  | '>' :: '=' :: rest => some (.greaterEqual, rest)
  | '=' :: rest => some (.assign, rest)
  | '!' :: rest => some (.not, rest)
  | '<' :: rest => some (.less, rest)
  | '>' :: rest => some (.greater, rest)
  | '+' :: rest => some (.plus, rest)
  | '-' :: rest => some (.minus, rest)
  | '*' :: rest => some (.times, rest)
  | '/' :: rest => some (.divide, rest)
  | ',' :: rest => some (.comma, rest)
  | ';' :: rest => some (.semicolon, rest)
  | '(' :: rest => some (.leftParen, rest)
  | ')' :: rest => some (.rightParen, rest)
  | '\x7b' :: rest => some (.leftBrace, rest)
  | '\x7d' :: rest => some (.rightBrace, rest)
  | _ => none

/-- The payload of a string and what follows its closing quote; a backslash keeps the character
after it from closing the string, and both stay in the payload. -/
def payload? : List Char → Option (List Char × List Char)
  | [] => none
  | '"' :: rest => some ([], rest)
  | ['\\'] => none
  | '\\' :: escaped :: rest =>
    (payload? rest).map fun (payload, rest) => ('\\' :: escaped :: payload, rest)
  | c :: rest => (payload? rest).map fun (payload, rest) => (c :: payload, rest)

/-- The value of the number at the front of some characters, and what follows it. -/
def number (source : List Char) : Number × List Char :=
  -- A point belongs to the number whether or not a digit follows it.
  let whole := source.takeWhile Char.isDigit
  match source.dropWhile Char.isDigit with
  | '.' :: rest =>
    (.ofDigits whole (some (rest.takeWhile Char.isDigit)), rest.dropWhile Char.isDigit)
  | rest => (.ofDigits whole none, rest)

/-- Reports a defect: it is held until taken, and logged at once. -/
def report (l : Lexer) (error : LexicalError) : Lexer :=
  { l with errors := l.errors.push error, journal := l.journal.push (.lexicalError error) }

/-- Writes an event into the log. -/
def note (l : Lexer) (event : Event) : Lexer :=
  { l with journal := l.journal.push event }

/-- One step inside a block comment, where only its end and line ends matter. -/
def stepComment (l : Lexer) (openedAt : Nat) : LexerStep :=
  match l.rest with
  | [] => .passed ({ l with mode := .normal }.report (.unterminatedComment openedAt))
  | '*' :: '/' :: rest => .passed { l with rest, mode := .normal }
  | c :: rest => .passed { l with rest, line := l.line + lineEnds [c] }

/-- One step behind the opening quote of a string. -/
def stepString (l : Lexer) (source : List Char) : LexerStep :=
  match payload? source with
  | some (payload, rest) =>
    .found ⟨.string, .text (String.ofList payload), l.line⟩
      { l with rest, line := l.line + lineEnds payload }
  | none =>
    -- The rest of the source belongs to the open string.
    .passed ({ l with rest := [], line := l.line + lineEnds source }.report
      (.unterminatedString l.line))

/-- One step at a number. -/
def stepNumber (l : Lexer) : LexerStep :=
  let (value, rest) := number l.rest
  .found ⟨.number, .number value, l.line⟩ { l with rest }

/-- One step at a word. -/
def stepWord (l : Lexer) : LexerStep :=
  .found (.word (String.ofList (l.rest.takeWhile isWordPart)) l.line)
    { l with rest := l.rest.dropWhile isWordPart }

/-- One step at a mark, an operator or a character that starts no lexeme. -/
def stepMark (l : Lexer) (c : Char) (behind : List Char) : LexerStep :=
  match mark? l.rest with
  | some (kind, rest) => .found (.fixed kind l.line) { l with rest }
  | none => .passed ({ l with rest := behind }.report (.illegalCharacter c l.line))

/-- One step between lexemes. -/
def stepNormal (l : Lexer) : LexerStep :=
  match l.rest with
  | [] => .exhausted l
  | '/' :: '/' :: rest => .passed { l with rest := rest.dropWhile (· != '\n') }
  | '/' :: '*' :: rest => .passed { l with rest, mode := .blockComment l.line }
  | '"' :: rest => l.stepString rest
  | c :: rest =>
    if isBlank c then .passed { l with rest, line := l.line + lineEnds [c] }
    else if c.isDigit then l.stepNumber
    else if isWordStart c then l.stepWord
    else l.stepMark c rest

/-- Reads one lexeme, or one character of a block comment. -/
def step (l : Lexer) : LexerStep :=
  match l.mode with
  | .normal => l.stepNormal
  | .blockComment openedAt => l.stepComment openedAt

/-- How much is left to do: the unread characters, and one more inside a block comment. -/
def pending (l : Lexer) : Nat :=
  l.rest.length + if l.mode = .normal then 0 else 1

end Lexer

end Scriptlet
