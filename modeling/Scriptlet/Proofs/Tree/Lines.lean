import Scriptlet.Parser.Session

/-! The same tokens, defects and trees on other lines. -/

namespace Scriptlet

/-- A token on another line. -/
def Token.mapLine (f : Nat → Nat) (token : Token) : Token :=
  { token with line := f token.line }

/-- What a token is, wherever it stands. -/
def Token.content (token : Token) : TokenKind × TokenValue :=
  (token.kind, token.value)

/-- A lexical defect on another line. -/
def LexicalError.mapLine (f : Nat → Nat) : LexicalError → LexicalError
  | .illegalCharacter character line => .illegalCharacter character (f line)
  | .unterminatedString line => .unterminatedString (f line)
  | .unterminatedComment line => .unterminatedComment (f line)

/-- A syntax defect on another line, with the token that it blames. -/
def SyntaxError.mapLine (f : Nat → Nat) : SyntaxError → SyntaxError
  | .unexpectedToken found expected line => .unexpectedToken (found.mapLine f) expected (f line)
  | .unexpectedEnd expected line => .unexpectedEnd expected (f line)
  | .nestingTooDeep limit line => .nestingTooDeep limit (f line)

/-- A defect of either sort on another line. -/
def Diagnostic.mapLine (f : Nat → Nat) : Diagnostic → Diagnostic
  | .lexical error => .lexical (error.mapLine f)
  | .syntactic error => .syntactic (error.mapLine f)

/-- Going down some lines and then some more is going down all of them. -/
theorem Token.mapLine_add (token : Token) (distance further : Nat) :
    (token.mapLine (· + distance)).mapLine (· + further) =
      token.mapLine (· + (distance + further)) := by
  -- Only the line changes, and it is added to twice.
  simp only [mapLine, Nat.add_assoc]

/-- Going down some lines and then some more is going down all of them. -/
theorem LexicalError.mapLine_add (error : LexicalError) (distance further : Nat) :
    (error.mapLine (· + distance)).mapLine (· + further) =
      error.mapLine (· + (distance + further)) := by
  -- Every sort of defect has one line.
  cases error <;> simp only [mapLine, Nat.add_assoc]

/-- On the line where it stands a lexical defect is the same. -/
@[simp] theorem LexicalError.mapLine_id (error : LexicalError) : error.mapLine id = error := by
  -- The line is put back as it was.
  cases error <;> rfl

/-- On the line where it stands a syntax defect is the same. -/
@[simp] theorem SyntaxError.mapLine_id (error : SyntaxError) : error.mapLine id = error := by
  -- Neither the line nor anything else changes.
  cases error <;> rfl

/-- On the line where it stands a defect of either sort is the same. -/
@[simp] theorem Diagnostic.mapLine_id (diagnostic : Diagnostic) :
    diagnostic.mapLine id = diagnostic := by
  -- Both sorts of defects stay the same.
  cases diagnostic <;> simp [Diagnostic.mapLine]

/-- Going no line further, defects of either sort are the same. -/
theorem Diagnostic.map_mapLine_add_zero (diagnostics : List Diagnostic) :
    diagnostics.map (Diagnostic.mapLine (· + 0)) = diagnostics :=
  -- Adding zero is no change, for each of them.
  (List.map_congr_left fun diagnostic _ => diagnostic.mapLine_id).trans (List.map_id diagnostics)

mutual

/-- An item on other lines, with the items in its blocks. -/
def Item.mapLines (f : Nat → Nat) : Item → Item
  | .ifThen line condition consequent =>
    .ifThen (f line) condition (Item.mapAllLines f consequent)
  | .ifThenElse line condition consequent alternative =>
    .ifThenElse (f line) condition (Item.mapAllLines f consequent) (Item.mapAllLines f alternative)
  | .assignment line name value => .assignment (f line) name value
  | .returned line value => .returned (f line) value
  | .declaration line name value => .declaration (f line) name value
  | .expression line value => .expression (f line) value
  | .function line name parameters body =>
    .function (f line) name parameters (Item.mapAllLines f body)

/-- Items on other lines. -/
def Item.mapAllLines (f : Nat → Nat) : List Item → List Item
  | [] => []
  | item :: items => item.mapLines f :: Item.mapAllLines f items

end

/-- A program on other lines. -/
def Program.mapLines (f : Nat → Nat) (program : Program) : Program :=
  ⟨Item.mapAllLines f program.items⟩

namespace Item

/-- Items keep their order on other lines. -/
theorem mapAllLines_append (f : Nat → Nat) (front back : List Item) :
    mapAllLines f (front ++ back) = mapAllLines f front ++ mapAllLines f back := by
  -- Items are mapped one by one, from the front.
  induction front with
  | nil => rfl
  | cons item front ih => simp only [List.cons_append, mapAllLines, ih]

mutual

/-- On the lines where it stands an item is the same. -/
@[simp] theorem mapLines_id : ∀ item : Item, item.mapLines id = item
  -- Only blocks have lines of their own inside; the induction goes into them.
  | .ifThen line condition consequent => by simp [mapLines, mapAllLines_id consequent]
  | .ifThenElse line condition consequent alternative => by
    simp [mapLines, mapAllLines_id consequent, mapAllLines_id alternative]
  | .assignment line name value => rfl
  | .returned line value => rfl
  | .declaration line name value => rfl
  | .expression line value => rfl
  | .function line name parameters body => by simp [mapLines, mapAllLines_id body]

/-- On the lines where they stand items are the same. -/
@[simp] theorem mapAllLines_id : ∀ items : List Item, mapAllLines id items = items
  -- Each item of the row is on its own line.
  | [] => rfl
  | item :: items => by simp [mapAllLines, mapLines_id item, mapAllLines_id items]

end

end Item

end Scriptlet
