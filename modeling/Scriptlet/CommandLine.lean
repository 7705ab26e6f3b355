import Scriptlet.Run

/-! What the words of a command line ask for. -/

namespace Scriptlet

/-- A file, and what to do with it. -/
structure Command where
  /-- The file to read. -/
  file : String
  /-- What the run is asked to do. -/
  options : Options
deriving DecidableEq, Repr

/-- Why words ask for nothing that can be done. -/
inductive UsageError where
  /-- No file is named. -/
  | noFile
  /-- A second file is named. -/
  | secondFile (word : String)
  /-- A word looks like an option and is none. -/
  | unknownOption (word : String)
  /-- The depth is missing, or is no number of 64 bits. -/
  | badDepth (word : String)
deriving DecidableEq, Repr

namespace UsageError

/-- The wording of a usage error. -/
def message : UsageError → String
  | .noFile => "a file to read is required"
  | .secondFile word => s!"only one file can be read, and '{word}' is another one"
  | .unknownOption word => s!"unknown option '{word}'"
  | .badDepth word => s!"'{word}' is no depth"

end UsageError

/-- What the words read so far ask for. -/
structure CommandDraft where
  /-- The file, if one was named. -/
  file : Option String
  /-- The tokens were asked for. -/
  tokens : Bool
  /-- The depth that was asked for last. -/
  limit : Nat
  /-- How often more detail was asked for. -/
  verbosity : Nat

namespace CommandDraft

/-- What no words ask for. -/
def empty : CommandDraft where
  file := none
  tokens := false
  limit := Parser.defaultLimit
  verbosity := 0

/-- Depths are below 2^64. -/
def depthBound : Nat :=
  0x10000000000000000

/-- Takes a depth. -/
def takeDepth (draft : CommandDraft) (word : String) : Except UsageError CommandDraft :=
  match word.toNat? with
  | some limit => if limit < depthBound then .ok { draft with limit } else .error (.badDepth word)
  | none => .error (.badDepth word)

/-- Takes a word that is neither a spelled-out option nor a depth. -/
def takeWord (draft : CommandDraft) (word : String) : Except UsageError CommandDraft :=
  match word.toList with
  | '-' :: first :: more =>
    -- Several requests for more detail may share one dash.
    if (first :: more).all (· == 'v') then
      .ok { draft with verbosity := draft.verbosity + (first :: more).length }
    else .error (.unknownOption word)
  | _ => match draft.file with
    | none => .ok { draft with file := some word }
    | some _ => .error (.secondFile word)

/-- Takes words one after another. -/
def takeWords (draft : CommandDraft) : List String → Except UsageError CommandDraft
  | [] => .ok draft
  | "--tokens" :: words => { draft with tokens := true }.takeWords words
  | "--verbose" :: words => { draft with verbosity := draft.verbosity + 1 }.takeWords words
  | ["--max-depth"] => .error (.badDepth "")
  | "--max-depth" :: depth :: words => do (← draft.takeDepth depth).takeWords words
  | word :: words => do (← draft.takeWord word).takeWords words

end CommandDraft

/-- The command that some words give. -/
def Command.ofWords (words : List String) : Except UsageError Command := do
  let draft ← CommandDraft.empty.takeWords words
  match draft.file with
  | some file => return ⟨file, ⟨draft.tokens, draft.limit, some (.ofVerbosity draft.verbosity)⟩⟩
  | none => throw .noFile

end Scriptlet
