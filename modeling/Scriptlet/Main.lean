import Scriptlet.CommandLine

/-! The program: it reads the file that its command line names, and prints what the run leaves. -/

namespace Scriptlet

/-- The bytes of a file, or why there are none. -/
def readContents (file : String) : IO (Except ReadFailure ByteArray) := do
  try
    return .ok (← IO.FS.readBinFile file)
  catch
    | .noFileOrDirectory .. => return .error .missing
    | other => return .error (.refused (toString other))

end Scriptlet

/-- Runs the command that the words give; words that give none are answered with code two. -/
def main (words : List String) : IO UInt32 := do
  match Scriptlet.Command.ofWords words with
  | .error problem =>
    IO.eprintln s!"error: {problem.message}"
    return 2
  | .ok command =>
    let contents ← Scriptlet.readContents command.file
    let outcome := Scriptlet.run command.options command.file contents
    IO.print outcome.stdout
    IO.eprint outcome.stderr
    return outcome.code.toUInt32
