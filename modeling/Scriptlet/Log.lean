import Scriptlet.Journal

/-! Logs: one line for each event that matters enough, which a terminal shows without obeying it. -/

namespace Scriptlet

namespace Defused

/-- The characters below 128 that a terminal obeys and that are written by two hexadecimal
digits: bell, backspace, form feed, escape and delete. -/
def shortCode? : Char → Option (List Char)
  | '\x07' => some ['0', '7']
  | '\x08' => some ['0', '8']
  | '\x0c' => some ['0', 'c']
  | '\x1b' => some ['1', 'b']
  | '\x7f' => some ['7', 'f']
  | _ => none

/-- A character as a terminal may be shown it; the control characters above 128 are written by
their code points. -/
def encodeChar (c : Char) : List Char :=
  match shortCode? c with
  | some code => ['\\', 'x'] ++ code
  | none =>
    if 0x80 ≤ c.toNat ∧ c.toNat ≤ 0x9F then
      ['\\', 'u', '\x7b'] ++ Nat.toDigits 16 c.toNat ++ ['\x7d']
    else [c]

end Defused

/-- A text in which every control character that a terminal obeys is spelled out. -/
def defused (text : String) : String :=
  String.ofList (text.toList.flatMap Defused.encodeChar)

namespace Event

/-- The part of the program that an event comes from. -/
def origin : Event → String
  | .lexicalError _ => "minijs::parser::lexer"
  | .syntaxError _ | .parsingStarted | .parsingFinished _ _ => "minijs::parser::parse"
  | .sourceRead _ _ | .programAccepted _ => "minijs"

/-- What a log says of an event. -/
def message : Event → String
  | .sourceRead _ _ => "read source"
  | .lexicalError error => error.message
  | .parsingStarted => "parsing program"
  | .syntaxError error => error.message
  | .parsingFinished _ _ => "finished parsing program"
  | .programAccepted _ => "parsed successfully"

/-- The values that a log adds to an event, each with its name. -/
def values : Event → List (String × String)
  | .sourceRead file bytes => [("file", file), ("bytes", toString bytes)]
  | .lexicalError error => [("line", toString error.line)]
  | .parsingStarted => []
  | .syntaxError error => [("line", toString error.line)]
  | .parsingFinished items errors => [("items", toString items), ("errors", toString errors)]
  | .programAccepted items => [("items", toString items)]

/-- The line of an event in a log. -/
def logLine (event : Event) : String :=
  let values := String.join (event.values.map fun (name, value) => s!" {name}={value}")
  s!"{event.level.label} {event.origin}: {defused event.message}{values}"

end Event

/-- A log shows events of a level when events of that level or of less important ones are asked
for. -/
def Level.shows (threshold level : Level) : Bool :=
  decide (level.rank ≤ threshold.rank)

/-- The log of some events down to a level, or nothing if no log is kept. -/
def logOf (threshold : Option Level) (events : List Event) : List String :=
  match threshold with
  | none => []
  | some threshold => (events.filter fun event => threshold.shows event.level).map Event.logLine

end Scriptlet
