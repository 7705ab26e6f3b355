import Scriptlet.Token.Stream

/-! Asking one lexer for tokens and defects in any order. -/

namespace Scriptlet

/-- What can be asked of a lexer. -/
inductive LexerRequest where
  /-- The next token. -/
  | next
  /-- How many tokens are left, which reads them. -/
  | count
  /-- All tokens that are left. -/
  | remaining
  /-- The defects that are held, which stay held. -/
  | errors
  /-- The defects that are held, which are then held no longer. -/
  | takeErrors
deriving DecidableEq, Repr

/-- What a lexer answers. -/
inductive LexerReply where
  /-- The next token, if there is one. -/
  | token (token : Option Token)
  /-- A number of tokens. -/
  | count (tokens : Nat)
  /-- Some tokens. -/
  | tokens (tokens : List Token)
  /-- Some defects. -/
  | errors (errors : List LexicalError)
deriving DecidableEq, Repr

namespace Lexer

/-- Answers one request. -/
def answer (l : Lexer) : LexerRequest → LexerReply × Lexer
  | .next =>
    let (token, after) := l.next
    (.token token, after)
  | .count =>
    let (tokens, after) := l.drain
    (.count tokens.length, after)
  | .remaining =>
    let (tokens, after) := l.drain
    (.tokens tokens, after)
  | .errors => (.errors l.errors.toList, l)
  | .takeErrors =>
    let (errors, after) := l.takeErrors
    (.errors errors, after)

/-- Answers requests one after another; each answer comes with the lexer that it leaves. -/
def answers (l : Lexer) : List LexerRequest → List (LexerReply × Lexer)
  | [] => []
  | request :: later =>
    let (reply, after) := l.answer request
    (reply, after) :: after.answers later

end Lexer

end Scriptlet
