/-! The closed set of token kinds, with their names and fixed spellings. -/

namespace Scriptlet

/-- What sort of word, literal or mark a token is. -/
inductive TokenKind where
  /-- The operator `&&`. -/
  | and
  /-- The operator `||`. -/
  | or
  /-- The operator `==`. -/
  | equal
  /-- The operator `!=`. -/
  | notEqual
  /-- The operator `<`. -/
  | less
  /-- The operator `>`. -/
  | greater
  /-- The operator `<=`. -/
  | lessEqual
  /-- The operator `>=`. -/
  | greaterEqual
  /-- The operator `+`. -/
  | plus
  /-- The operator `-`, before one operand or between two. -/
  | minus
  /-- The operator `*`. -/
  | times
  /-- The operator `/`. -/
  | divide
  /-- The operator `!`. -/
  | not
  /-- The mark `=` of assignments and declarations. -/
  | assign
  /-- The mark `,`. -/
  | comma
  /-- The mark `;`. -/
  | semicolon
  /-- The mark `(`. -/
  | leftParen
  /-- The mark `)`. -/
  | rightParen
  /-- The mark that opens a block. -/
  | leftBrace
  /-- The mark that closes a block. -/
  | rightBrace
  /-- A word that is no keyword. -/
  | identifier
  /-- A numeric literal. -/
  | number
  /-- A string literal. -/
  | string
  /-- The keyword `if`. -/
  | ifWord
  /-- The keyword `else`. -/
  | elseWord
  /-- The keyword `true`. -/
  | trueWord
  /-- The keyword `false`. -/
  | falseWord
  /-- The keyword `return`. -/
  | returnWord
  /-- The keyword `function`. -/
  | functionWord
  /-- The keyword `var`. -/
  | varWord
deriving DecidableEq, Repr

namespace TokenKind

/-- Every kind, operators first and keywords last. -/
def all : List TokenKind :=
  [.and, .or, .equal, .notEqual, .less, .greater, .lessEqual, .greaterEqual, .plus, .minus,
    .times, .divide, .not, .assign, .comma, .semicolon, .leftParen, .rightParen, .leftBrace,
    .rightBrace, .identifier, .number, .string, .ifWord, .elseWord, .trueWord, .falseWord,
    .returnWord, .functionWord, .varWord]

/-- The name under which listings show a kind. -/
def name : TokenKind → String
  | .and => "ANDAND"
  | .or => "OROR"
  | .equal => "EQUALEQUAL"
  | .notEqual => "NOTEQUAL"
  | .less => "LT"
  | .greater => "GT"
  | .lessEqual => "LE"
  | .greaterEqual => "GE"
  | .plus => "PLUS"
  | .minus => "MINUS"
  | .times => "TIMES"
  | .divide => "DIVIDE"
  | .not => "NOT"
  | .assign => "EQUAL"
  | .comma => "COMMA"
  | .semicolon => "SEMICOLON"
  | .leftParen => "LPAREN"
  | .rightParen => "RPAREN"
  | .leftBrace => "LBRACE"
  | .rightBrace => "RBRACE"
  | .identifier => "IDENTIFIER"
  | .number => "NUMBER"
  | .string => "STRING"
  | .ifWord => "IF"
  | .elseWord => "ELSE"
  | .trueWord => "TRUE"
  | .falseWord => "FALSE"
  | .returnWord => "RETURN"
  | .functionWord => "FUNCTION"
  | .varWord => "VAR"

/-- The kind with a given listing name. -/
def ofName? (name : String) : Option TokenKind :=
  all.find? fun kind => kind.name == name

/-- How every token of a kind is spelled; words and literals that vary have no such spelling. -/
def spelling? : TokenKind → Option String
  | .and => some "&&"
  | .or => some "||"
  | .equal => some "=="
  | .notEqual => some "!="
  | .less => some "<"
  | .greater => some ">"
  | .lessEqual => some "<="
  | .greaterEqual => some ">="
  | .plus => some "+"
  | .minus => some "-"
  | .times => some "*"
  | .divide => some "/"
  | .not => some "!"
  | .assign => some "="
  | .comma => some ","
  | .semicolon => some ";"
  | .leftParen => some "("
  | .rightParen => some ")"
  | .leftBrace => some "\x7b"
  | .rightBrace => some "\x7d"
  | .identifier | .number | .string => none
  | .ifWord => some "if"
  | .elseWord => some "else"
  | .trueWord => some "true"
  | .falseWord => some "false"
  | .returnWord => some "return"
  | .functionWord => some "function"
  | .varWord => some "var"

/-- How diagnostics speak of a kind they expected: its spelling in quotes, or what it is. -/
def description (kind : TokenKind) : String :=
  match kind.spelling? with
  | some spelling => s!"'{spelling}'"
  | none => match kind with
    | .number => "number"
    | .string => "string"
    | _ => "identifier"

/-- The kinds of words that cannot be identifiers. -/
def keywords : List TokenKind :=
  [.ifWord, .elseWord, .falseWord, .trueWord, .returnWord, .functionWord, .varWord]

/-- The kind is that of a keyword. -/
def isKeyword (kind : TokenKind) : Bool :=
  keywords.contains kind

/-- The keyword that a word spells. -/
def keyword? (word : String) : Option TokenKind :=
  keywords.find? fun kind => kind.spelling? == some word

/-- The kind of a word: a keyword where it spells one, an identifier otherwise. -/
def ofWord (word : String) : TokenKind :=
  (keyword? word).getD .identifier

end TokenKind

instance : ToString TokenKind where
  toString := TokenKind.name

end Scriptlet
