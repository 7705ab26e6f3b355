import Scriptlet.Log
import Scriptlet.Parser.Session
import Scriptlet.Tree.Outline

/-! One run of the tool: from options and the bytes of a file to what is printed. -/

namespace Scriptlet

/-- What a run is asked to do. -/
structure Options where
  /-- List the tokens instead of showing the tree. -/
  tokens : Bool
  /-- How deep expressions and blocks may lie. -/
  limit : Nat
  /-- The least important level that is logged, if a log is kept. -/
  log : Option Level
deriving DecidableEq, Repr

/-- Why a file gives no source. -/
inductive ReadFailure where
  /-- There is no such file. -/
  | missing
  /-- The bytes are no text. -/
  | notText
  /-- The file cannot be read for another reason. -/
  | refused (reason : String)
deriving DecidableEq, Repr

namespace ReadFailure

/-- The wording of the reason. -/
def message : ReadFailure → String
  | .missing => "No such file or directory (os error 2)"
  | .notText => "stream did not contain valid UTF-8"
  | .refused reason => reason

end ReadFailure

/-- What a run leaves behind. -/
structure Outcome where
  /-- The exit code: zero if the source was good enough for what was asked. -/
  code : Nat
  /-- The lines of the result. -/
  result : List String
  /-- The lines of the log and of the report. -/
  report : List String
deriving DecidableEq, Repr

namespace Outcome

/-- Lines as they are printed, each with a line end. -/
def printed (lines : List String) : String :=
  String.join (lines.map fun line => line ++ "\n")

/-- What is printed as the result. -/
def stdout (outcome : Outcome) : String :=
  printed outcome.result

/-- What is printed beside the result. -/
def stderr (outcome : Outcome) : String :=
  printed outcome.report

end Outcome

/-- The text of some bytes, if they are one. -/
def sourceOf? (bytes : ByteArray) : Except ReadFailure String :=
  match String.fromUTF8? bytes with
  | some source => .ok source
  | none => .error .notText

/-- A run that lists the tokens of a source; lexical defects do not count as a failure. -/
def listTokens (options : Options) (opening : Event) (source : String) : Outcome :=
  let (tokens, after) := (Lexer.ofSource source).drain
  { code := 0
    result := listing tokens
    report := logOf options.log (opening :: after.journal.toList) ++
      after.errors.toList.map fun error => (Diagnostic.lexical error).report }

/-- A run that shows the tree of a source. -/
def showTree (options : Options) (opening : Event) (source : String) : Outcome :=
  let (program, after) := (Parser.ofSource source options.limit).program
  let output : Output := ⟨program, after.diagnostics.toList⟩
  let closing := if output.hasErrors then [] else [Event.programAccepted program.size]
  { code := if output.hasErrors then 1 else 0
    result := program.outline.lines
    -- Defects are reported behind the log of the run, and in front of its last event.
    report := logOf options.log (opening :: after.journal.toList) ++
      output.diagnostics.map Diagnostic.report ++ logOf options.log closing }

/-- A run over a file that could or could not be read. -/
def run (options : Options) (file : String) (contents : Except ReadFailure ByteArray) : Outcome :=
  match contents >>= sourceOf? with
  | .error failure =>
    { code := 1
      result := []
      report := [s!"Error: cannot read '{file}': {failure.message}"] }
  | .ok source =>
    let opening := Event.sourceRead file source.utf8ByteSize
    if options.tokens then listTokens options opening source
    else showTree options opening source

/-- The bytes of a source are its text. -/
@[simp] theorem sourceOf?_toUTF8 (source : String) : sourceOf? source.toUTF8 = .ok source := by
  -- The bytes of a text are valid, so decoding them gives it back.
  have read : String.fromUTF8? source.toUTF8 = some source := dif_pos source.isValidUTF8
  rw [sourceOf?, read]

/-- A run over the bytes of a source lists its tokens or shows its tree. -/
theorem run_toUTF8 (options : Options) (file source : String) :
    run options file (.ok source.toUTF8) =
      if options.tokens then listTokens options (.sourceRead file source.utf8ByteSize) source
      else showTree options (.sourceRead file source.utf8ByteSize) source := by
  -- Nothing fails before the source is read.
  simp only [run, bind, Except.bind, sourceOf?_toUTF8]

end Scriptlet
