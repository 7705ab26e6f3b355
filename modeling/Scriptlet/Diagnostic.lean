import Scriptlet.Token.Basic

/-! What can be wrong with a source, by cause, and the wording of each cause. -/

namespace Scriptlet

/-- A defect met while tokens are read; reading goes on after it. -/
inductive LexicalError where
  /-- A character that starts no lexeme. -/
  | illegalCharacter (character : Char) (line : Nat)
  /-- A string that is still open at the end of the source. -/
  | unterminatedString (line : Nat)
  /-- A block comment that is still open at the end of the source. -/
  | unterminatedComment (line : Nat)
deriving DecidableEq, Repr

namespace LexicalError

/-- The line that is blamed: where the character, the string or the comment starts. -/
def line : LexicalError → Nat
  | .illegalCharacter _ line | .unterminatedString line | .unterminatedComment line => line

/-- The wording of a lexical defect. -/
def message : LexicalError → String
  | .illegalCharacter character line => s!"illegal character '{character}' at line {line}"
  | .unterminatedString line => s!"unterminated string literal starting at line {line}"
  | .unterminatedComment line => s!"unterminated block comment starting at line {line}"

end LexicalError

instance : ToString LexicalError where
  toString := LexicalError.message

/-- A defect met while the tree is built. -/
inductive SyntaxError where
  /-- A token that cannot stand where it stands. -/
  | unexpectedToken (found : Token) (expected : String) (line : Nat)
  /-- The source ends where more is needed. -/
  | unexpectedEnd (expected : String) (line : Nat)
  /-- An expression or a block lies deeper than the limit allows. -/
  | nestingTooDeep (limit line : Nat)
deriving DecidableEq, Repr

namespace SyntaxError

/-- The line that is blamed. -/
def line : SyntaxError → Nat
  | .unexpectedToken _ _ line | .unexpectedEnd _ line | .nestingTooDeep _ line => line

/-- The wording of a syntax defect after its line. -/
def detail : SyntaxError → String
  | .unexpectedToken found expected _ => s!"unexpected {found}, expected {expected}"
  | .unexpectedEnd expected _ => s!"unexpected end of input, expected {expected}"
  | .nestingTooDeep limit _ => s!"nesting exceeds {limit} levels"

/-- The wording of a syntax defect. -/
def message (error : SyntaxError) : String :=
  s!"syntax error at line {error.line}: {error.detail}"

end SyntaxError

instance : ToString SyntaxError where
  toString := SyntaxError.message

/-- A defect of either sort; only syntax defects make a source fail. -/
inductive Diagnostic where
  /-- A defect of the tokens. -/
  | lexical (error : LexicalError)
  /-- A defect of the tree. -/
  | syntactic (error : SyntaxError)
deriving DecidableEq, Repr

namespace Diagnostic

/-- The line that is blamed. -/
def line : Diagnostic → Nat
  | .lexical error => error.line
  | .syntactic error => error.line

/-- The wording of a defect. -/
def message : Diagnostic → String
  | .lexical error => error.message
  | .syntactic error => error.message

/-- The defect is one of the tree. -/
def isSyntactic : Diagnostic → Bool
  | .lexical _ => false
  | .syntactic _ => true

/-- The syntax defect, if it is one. -/
def syntactic? : Diagnostic → Option SyntaxError
  | .lexical _ => none
  | .syntactic error => some error

/-- The lexical defect, if it is one. -/
def lexical? : Diagnostic → Option LexicalError
  | .lexical error => some error
  | .syntactic _ => none

/-- The line of a report that shows a defect. -/
def report (diagnostic : Diagnostic) : String :=
  s!"line {diagnostic.line}: {diagnostic.message}"

end Diagnostic

instance : ToString Diagnostic where
  toString := Diagnostic.message

end Scriptlet
