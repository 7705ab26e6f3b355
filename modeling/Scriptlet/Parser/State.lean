import Scriptlet.Token.Stream

/-! A parser holds one token of lookahead, how deep it is, and what was wrong so far. -/

namespace Scriptlet

/-- A place between the tokens of a source. -/
structure Parser where
  /-- Where the tokens behind the lookahead come from. -/
  lexer : Lexer
  /-- The next token, unless the source has ended. -/
  lookahead : Option Token
  /-- The line of the next token, or the last one of the source. -/
  lastLine : Nat
  /-- How many expressions, operands and blocks are being read inside each other. -/
  depth : Nat
  /-- How deep they may lie. -/
  limit : Nat
  /-- What was wrong so far, in the order it was recorded. -/
  diagnostics : Array Diagnostic
deriving DecidableEq, Repr

/-- Reading part of a tree; a syntax defect stops it, and leaves the parser where it was met. -/
abbrev Parse := EStateM SyntaxError Parser

namespace Parser

/-- The nesting limit unless another one is asked for. -/
def defaultLimit : Nat :=
  64

/-- Moves on to the next token, and records the lexical defects in front of it. -/
def pull (p : Parser) : Parser :=
  let (token, lexer) := p.lexer.next
  let (errors, lexer) := lexer.takeErrors
  -- What the lexer held is recorded here, and is held no longer.
  let recorded := p.diagnostics ++ errors.map Diagnostic.lexical
  let lastLine :=
    match token with
    | some token => token.line
    | none => lexer.line
  { p with lexer, lookahead := token, lastLine, diagnostics := recorded }

/-- A parser that has not moved on to the first token of its lexer yet. -/
def unmoved (lexer : Lexer) (limit : Nat) : Parser :=
  { lexer, lookahead := none, lastLine := 1, depth := 0, limit, diagnostics := #[] }

/-- A parser in front of the first token that a lexer reads. -/
def ofLexer (lexer : Lexer) (limit : Nat) : Parser :=
  (unmoved lexer limit).pull

/-- A parser in front of the first token of a source. -/
def ofSource (source : String) (limit : Nat) : Parser :=
  ofLexer (.ofSource source) limit

/-- The line of the lookahead, or the last line of the source. -/
def currentLine (p : Parser) : Nat :=
  p.lastLine

/-- The kind of the lookahead. -/
def kind? (p : Parser) : Option TokenKind :=
  p.lookahead.map Token.kind

/-- A bound on the tokens that are left: the unread characters, and one for the lookahead. -/
def unread (p : Parser) : Nat :=
  p.lexer.rest.length + if p.lookahead.isSome then 1 else 0

/-- Everything worth logging so far, in the order it happened. -/
def journal (p : Parser) : Array Event :=
  p.lexer.journal

/-- Writes an event into the log. -/
def note (p : Parser) (event : Event) : Parser :=
  { p with lexer := p.lexer.note event }

/-- Records a syntax defect, and logs it. -/
def record (p : Parser) (error : SyntaxError) : Parser :=
  { p.note (.syntaxError error) with diagnostics := p.diagnostics.push (.syntactic error) }

/-- Takes the lookahead, if there is one. -/
def advance : Parse (Option Token) := fun p =>
  match p.lookahead with
  | some token => .ok (some token) p.pull
  | none => .ok none p

/-- Passes over the lookahead. -/
def skip : Parse Unit :=
  discard advance

/-- The kind of the lookahead, which stays. -/
def peek : Parse (Option TokenKind) := fun p =>
  .ok p.kind? p

/-- Takes the lookahead if it is of a given kind, and tells whether it was. -/
def accept (kind : TokenKind) : Parse Bool := fun p =>
  if p.kind? = some kind then .ok true p.pull else .ok false p

/-- Stops at the lookahead, or at the end of the source. -/
def unexpected {α : Type} (expected : String) : Parse α := fun p =>
  match p.lookahead with
  | some token => .error (.unexpectedToken token expected token.line) p
  | none => .error (.unexpectedEnd expected p.currentLine) p

/-- How a diagnostic names a kind of token that a context asks for. -/
def expectation (kind : TokenKind) (context : String) : String :=
  s!"{kind.description} {context}"

/-- Takes the lookahead, which has to be of a given kind. -/
def take (kind : TokenKind) (context : String) : Parse Token := fun p =>
  match p.lookahead with
  | some token =>
    if token.kind = kind then .ok token p.pull else unexpected (expectation kind context) p
  | none => unexpected (expectation kind context) p

/-- Passes over the lookahead, which has to be of a given kind. -/
def expect (kind : TokenKind) (context : String) : Parse Unit :=
  discard (take kind context)

/-- Takes an identifier, and gives its name. -/
def name (context : String) : Parse String := do
  let token ← take .identifier context
  match token.value with
  | .text content => return content
  | .number _ =>
    throw (.unexpectedToken token (expectation .identifier context) token.line)

/-- Reads something one level deeper, unless that exceeds the limit. -/
def nested {α : Type} (body : Parse α) : Parse α := fun p =>
  if p.limit ≤ p.depth then .error (.nestingTooDeep p.limit p.currentLine) p
  else
    -- The level is left again whether or not the body succeeds.
    match body { p with depth := p.depth + 1 } with
    | .ok result q => .ok result { q with depth := q.depth - 1 }
    | .error error q => .error error { q with depth := q.depth - 1 }

/-- Reads something, and hands a defect back instead of stopping. -/
def attempt {α : Type} (body : Parse α) : StateM Parser (Except SyntaxError α) := fun p =>
  match body p with
  | .ok result q => (.ok result, q)
  | .error error q => (.error error, q)

/-- Reads something that never stops at a defect. -/
def always {α : Type} (body : StateM Parser α) : Parse α := fun p =>
  let (result, q) := body p
  .ok result q

/-- Gives a reader a bound that the unread tokens cannot exceed. -/
def bounded {α : Type} (body : Nat → Parse α) : Parse α := fun p =>
  body p.unread p

end Parser

end Scriptlet
