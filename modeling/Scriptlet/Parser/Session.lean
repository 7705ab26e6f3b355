import Scriptlet.Parser.Item
import Scriptlet.Tree.Equality

/-! What reading a source comes to: a program, and everything that was wrong. One parser may be
asked for programs and diagnostics in any order. -/

namespace Scriptlet

/-- A program as far as it could be read, with all defects in the order they were recorded. -/
structure Output where
  /-- The items that could be read. -/
  program : Program
  /-- What was wrong. -/
  diagnostics : List Diagnostic
deriving DecidableEq, Repr

/-- Why a source is no program. -/
structure Failure where
  /-- What was wrong; at least one defect is one of the tree. -/
  diagnostics : List Diagnostic
  /-- The items that could be read nevertheless. -/
  salvaged : Program
deriving DecidableEq, Repr

namespace Failure

/-- The syntax defects. -/
def syntaxErrors (failure : Failure) : List SyntaxError :=
  failure.diagnostics.filterMap Diagnostic.syntactic?

/-- The wording of a failure: its first syntax defect, and how many more there are. -/
def message (failure : Failure) : String :=
  match failure.syntaxErrors with
  | [] => "parse failed"
  | [only] => only.message
  | first :: more => s!"{first.message} (and {more.length} more)"

end Failure

namespace Output

/-- A syntax defect was recorded. -/
def hasErrors (output : Output) : Bool :=
  output.diagnostics.any Diagnostic.isSyntactic

/-- The output as a failure, whatever it records. -/
def toFailure (output : Output) : Failure where
  diagnostics := output.diagnostics
  salvaged := output.program

/-- The program, unless a syntax defect was recorded. -/
def result (output : Output) : Except Failure Program :=
  if output.hasErrors then .error output.toFailure else .ok output.program

end Output

/-- Reads all items that are left, and hands over what was recorded. -/
def Parser.output (p : Parser) : Output :=
  let (program, after) := p.program
  ⟨program, after.diagnostics.toList⟩

/-- Reads a source with a given nesting limit. -/
def parseWithin (limit : Nat) (source : String) : Output :=
  (Parser.ofSource source limit).output

/-- Reads a source with the usual nesting limit, and goes on behind defects. -/
def parseRecovering (source : String) : Output :=
  parseWithin Parser.defaultLimit source

/-- Reads a source, which fails if it has a syntax defect. -/
def parse (source : String) : Except Failure Program :=
  (parseRecovering source).result

/-- What can be asked of a parser. -/
inductive ParserRequest where
  /-- The diagnostics so far. -/
  | diagnostics
  /-- The program that is left to read. -/
  | program
  /-- The program that is left to read and all diagnostics, after which nothing more is answered. -/
  | output
deriving DecidableEq, Repr

/-- What a parser answers. -/
inductive ParserReply where
  /-- Some diagnostics. -/
  | diagnostics (diagnostics : List Diagnostic)
  /-- A program. -/
  | program (program : Program)
  /-- A program with all diagnostics. -/
  | output (output : Output)
deriving DecidableEq, Repr

namespace Parser

/-- Answers requests one after another, up to the first that asks for the output. -/
def answers (p : Parser) : List ParserRequest → List ParserReply
  | [] => []
  | .diagnostics :: later => .diagnostics p.diagnostics.toList :: p.answers later
  | .program :: later =>
    let (program, after) := p.program
    .program program :: after.answers later
  | .output :: _ => [.output p.output]

end Parser

end Scriptlet
