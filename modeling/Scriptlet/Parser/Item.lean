import Scriptlet.Parser.Expression

/-! Reading items and blocks. An item that cannot be read costs one token, and reading goes on with
the next item; each item costs a token, so the unread tokens bound how many there are. -/

namespace Scriptlet

namespace Parser

/-- Reads one or more parameter names separated by commas. -/
def parameterNames : Nat → Parse (List String)
  | 0 => return [← name "in parameter list"]
  | bound + 1 => do
    let first ← name "in parameter list"
    if ← accept .comma then return first :: (← parameterNames bound) else return [first]

/-- Reads a list of parameters in its parentheses. -/
def parametersWithin (bound : Nat) : Parse (List String) := do
  expect .leftParen "before parameters"
  let parameters ← if (← peek) = some .rightParen then pure [] else parameterNames bound
  expect .rightParen "after parameters"
  return parameters

/-- Reads a block in its braces, given the reader of its items. -/
def blockOf (body : StateM Parser (List Item)) (context : String) : Parse (List Item) := do
  expect .leftBrace context
  let items ← nested (always body)
  expect .rightBrace "after block"
  return items

/-- Reads a function behind its keyword; an identifier there is its name. -/
def functionOf (body : StateM Parser (List Item)) (bound line : Nat) : Parse Item := do
  let name ← if (← peek) = some .identifier then some <$> name "after 'function'" else pure none
  let parameters ← parametersWithin bound
  return .function line name parameters (← blockOf body "before function body")

/-- Reads a conditional behind its keyword; an alternative belongs to the nearest conditional. -/
def conditionalOf (body : StateM Parser (List Item)) (bound line : Nat) : Parse Item := do
  expect .leftParen "after 'if'"
  let condition ← expressionWithin bound
  expect .rightParen "after if condition"
  let consequent ← blockOf body "after if condition"
  if ← accept .elseWord then
    return .ifThenElse line condition consequent (← blockOf body "after 'else'")
  else return .ifThen line condition consequent

/-- Reads a return behind its keyword. -/
def returnWithin (bound line : Nat) : Parse Item := do
  let value ← expressionWithin bound
  expect .semicolon "after return value"
  return .returned line value

/-- Reads a declaration behind its keyword. -/
def declarationWithin (bound line : Nat) : Parse Item := do
  let name ← name "after 'var'"
  expect .assign "in variable declaration"
  let value ← expressionWithin bound
  expect .semicolon "after variable declaration"
  return .declaration line name value

/-- Reads an item that begins with an identifier: the next token tells an assignment from an
expression, and the expression adds no level of its own. -/
def identifierLedWithin (bound line : Nat) : Parse Item := do
  let name ← name "at start of statement"
  if ← accept .assign then
    let value ← expressionWithin bound
    expect .semicolon "after assignment"
    return .assignment line name value
  else
    let head ← namedWithin bound name
    let value ← climbWithin bound BinaryOperator.weakest head
    expect .semicolon "after expression"
    return .expression line value

/-- Reads an expression that stands alone. -/
def standaloneWithin (bound line : Nat) : Parse Item := do
  let value ← expressionWithin bound
  expect .semicolon "after expression"
  return .expression line value

/-- Reads an item, given the reader of the items in its blocks; the first token tells its form. -/
def itemOf (body : StateM Parser (List Item)) (bound : Nat) : Parse Item := do
  let line := (← get).currentLine
  match ← peek with
  | some .functionWord =>
    skip
    functionOf body bound line
  | some .ifWord =>
    skip
    conditionalOf body bound line
  | some .returnWord =>
    skip
    returnWithin bound line
  | some .varWord =>
    skip
    declarationWithin bound line
  | some .identifier => identifierLedWithin bound line
  | _ => standaloneWithin bound line

/-- Records a defect and drops the lookahead, except for a brace that closes the block. -/
def recover (error : SyntaxError) (inBlock : Bool) : StateM Parser Unit :=
  modify fun p =>
    let recorded := p.record error
    if p.lookahead.isNone ∨ (inBlock ∧ p.kind? = some .rightBrace) then recorded
    else recorded.pull

/-- No item follows: the source has ended, or the block is about to be closed. -/
def atEnd (p : Parser) (inBlock : Bool) : Bool :=
  match p.kind? with
  | none => true
  | some kind => inBlock && kind == .rightBrace

/-- Reads items up to the end, of at most so many tokens. -/
def itemsWithin : (bound : Nat) → (inBlock : Bool) → StateM Parser (List Item)
  | 0, _ => pure []
  | bound + 1, inBlock => do
    if (← get).atEnd inBlock then return []
    match ← attempt (itemOf (itemsWithin bound true) (bound + 1)) with
    | .ok first => return first :: (← itemsWithin bound inBlock)
    | .error error =>
      recover error inBlock
      itemsWithin bound inBlock

/-- Reads items up to the end of the source or of the block. -/
def items (inBlock : Bool) : StateM Parser (List Item) := fun p =>
  itemsWithin p.unread inBlock p

/-- Reads one item. -/
def item : Parse Item :=
  bounded fun bound => itemOf (itemsWithin bound true) bound

/-- Reads a block in its braces. -/
def block (context : String) : Parse (List Item) :=
  bounded fun bound => blockOf (itemsWithin bound true) context

/-- Reads all items that are left, and logs where it begins and ends. -/
def program : StateM Parser Program := do
  modify fun p => p.note .parsingStarted
  let items ← items false
  modify fun p => p.note (.parsingFinished items.length p.diagnostics.size)
  return ⟨items⟩

end Parser

end Scriptlet
