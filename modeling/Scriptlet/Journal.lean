import Scriptlet.Diagnostic

/-! The events of a run that are worth a line in its log. -/

namespace Scriptlet

/-- How much an event matters, from the most to the least. -/
inductive Level where
  /-- Something is wrong with the source. -/
  | warn
  /-- A run went well. -/
  | info
  /-- A stage was entered or left. -/
  | debug
  /-- The finest detail. -/
  | trace
deriving DecidableEq, Repr

namespace Level

/-- The place of a level, the most important first. -/
def rank : Level → Nat
  | .warn => 0
  | .info => 1
  | .debug => 2
  | .trace => 3

/-- The least important level that a log shows, by how often more detail was asked for. -/
def ofVerbosity : Nat → Level
  | 0 => .warn
  | 1 => .debug
  | _ => .trace

/-- The name of a level in a log, five characters wide. -/
def label : Level → String
  | .warn => " WARN"
  | .info => " INFO"
  | .debug => "DEBUG"
  | .trace => "TRACE"

end Level

/-- Something that happened during a run. -/
inductive Event where
  /-- A source of so many bytes was read. -/
  | sourceRead (file : String) (bytes : Nat)
  /-- A lexical defect was met. -/
  | lexicalError (error : LexicalError)
  /-- The building of the tree began. -/
  | parsingStarted
  /-- A syntax defect was met. -/
  | syntaxError (error : SyntaxError)
  /-- The building of the tree ended, with so many items and defects so far. -/
  | parsingFinished (items errors : Nat)
  /-- A program of so many items was accepted. -/
  | programAccepted (items : Nat)
deriving DecidableEq, Repr

namespace Event

/-- How much an event matters. -/
def level : Event → Level
  | .lexicalError _ | .syntaxError _ => .warn
  | .programAccepted _ => .info
  | .sourceRead _ _ | .parsingStarted | .parsingFinished _ _ => .debug

/-- The defect that an event warns of. -/
def diagnostic? : Event → Option Diagnostic
  | .lexicalError error => some (.lexical error)
  | .syntaxError error => some (.syntactic error)
  | .sourceRead _ _ | .parsingStarted | .parsingFinished _ _ | .programAccepted _ => none

end Event

end Scriptlet
