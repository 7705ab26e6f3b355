/-! Outlines: nested groups of entries, one entry a line, indented by depth. -/

namespace Scriptlet

/-- A nested arrangement of texts. -/
inductive Outline where
  /-- A single text. -/
  | leaf (text : String)
  /-- Entries between an opening and a closing text. -/
  | group (opening : String) (entries : List Outline) (closing : String)
deriving Repr

namespace Outline

/-- The outline with a label in front. -/
def labelled (label : String) : Outline → Outline
  | .leaf text => .leaf (label ++ text)
  | .group opening entries closing => .group (label ++ opening) entries closing

/-- A record: a name and labelled fields in braces. -/
def record (name : String) (fields : List (String × Outline)) : Outline :=
  .group (name ++ " \x7b") (fields.map fun (label, value) => value.labelled (label ++ ": ")) "\x7d"

/-- A wrapper: a name and one entry in parentheses. -/
def wrapper (name : String) (entry : Outline) : Outline :=
  .group (name ++ "(") [entry] ")"

/-- A list in brackets; an empty one stays on its line. -/
def list : List Outline → Outline
  | [] => .leaf "[]"
  | entries => .group "[" entries "]"

/-- A line at a given depth. -/
def indented (depth : Nat) (text : String) : String :=
  String.ofList (List.replicate (4 * depth) ' ') ++ text

mutual

/-- The lines of an outline at a given depth, the last one with an ending. -/
def linesAt (depth : Nat) (ending : String) : Outline → List String
  | .leaf text => [indented depth (text ++ ending)]
  | .group opening entries closing =>
    indented depth opening :: linesOfAll (depth + 1) entries ++
      [indented depth (closing ++ ending)]

/-- The lines of entries at a given depth, each with a comma behind it. -/
def linesOfAll (depth : Nat) : List Outline → List String
  | [] => []
  | entry :: entries => entry.linesAt depth "," ++ linesOfAll depth entries

end

/-- The lines of an outline. -/
def lines (outline : Outline) : List String :=
  outline.linesAt 0 ""

end Outline

end Scriptlet
