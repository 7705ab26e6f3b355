/-! Fitting a text into a field: cutting what is too long, and filling up what is too short. -/

namespace Scriptlet

/-- Where a text stands in a field that is wider than it. -/
inductive Alignment where
  /-- At the left end. -/
  | left
  /-- In the middle, with the odd filling character on the right. -/
  | center
  /-- At the right end. -/
  | right
deriving DecidableEq, Repr

namespace Alignment

/-- How many of the filling characters stand on the left. -/
def leading (filling : Nat) : Alignment → Nat
  | .left => 0
  | .center => filling / 2
  | .right => filling

end Alignment

/-- A field for a text; widths count characters. -/
structure Field where
  /-- The least number of characters written. -/
  width : Nat
  /-- The greatest number of characters taken from the text, if there is one. -/
  precision : Option Nat
  /-- Where a short text stands. -/
  alignment : Alignment
  /-- What fills up the field. -/
  fill : Char
deriving DecidableEq, Repr

namespace Field

/-- The part of a text that a field shows. -/
def shown (field : Field) (text : String) : List Char :=
  match field.precision with
  | some precision => text.toList.take precision
  | none => text.toList

/-- A text fitted into a field. -/
def fit (field : Field) (text : String) : String :=
  let shown := field.shown text
  let filling := field.width - shown.length
  let before := field.alignment.leading filling
  String.ofList (List.replicate before field.fill ++ shown ++
    List.replicate (filling - before) field.fill)

end Field

end Scriptlet
