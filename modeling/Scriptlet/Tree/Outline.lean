import Scriptlet.Text.Outline
import Scriptlet.Text.Quoted
import Scriptlet.Tree.Basic

/-! Trees as outlines, with the names and the order of fields that readers of outlines expect. -/

namespace Scriptlet

/-- The outline of a text. -/
def Outline.text (content : String) : Outline :=
  .leaf (quoted content)

/-- The outline of a list of names. -/
def Outline.names (names : List String) : Outline :=
  .list (names.map Outline.text)

/-- The outline of a line number, as the last field of a record. -/
def Outline.lineField (line : Nat) : String × Outline :=
  ("line", .leaf (toString line))

/-- The outline of a numeric value. -/
def Number.outline (number : Number) : Outline :=
  .wrapper (match number with | .int _ => "Int" | .float _ => "Float") (.leaf number.text)

/-- The name of an operator in outlines. -/
def UnaryOperator.name : UnaryOperator → String
  | .not => "Not"
  | .negate => "Negative"

/-- The name of an operator in outlines. -/
def BinaryOperator.name : BinaryOperator → String
  | .or => "Or"
  | .and => "And"
  | .equal => "Eq"
  | .notEqual => "Ne"
  | .less => "Lt"
  | .greater => "Gt"
  | .lessEqual => "Le"
  | .greaterEqual => "Ge"
  | .add => "Add"
  | .subtract => "Sub"
  | .multiply => "Mul"
  | .divide => "Div"

mutual

/-- The outline of an expression. -/
def Expr.outline : Expr → Outline
  | .identifier name => .wrapper "Identifier" (.text name)
  | .number value => .wrapper "Number" value.outline
  | .string payload => .wrapper "String" (.text payload)
  | .boolean true => .leaf "True"
  | .boolean false => .leaf "False"
  | .unary operator operand => .wrapper operator.name operand.outline
  | .binary operator left right =>
    .record "BinOp" [("left", left.outline), ("op", .leaf operator.name),
      ("right", right.outline)]
  | .call callee arguments =>
    .record "Call" [("callee", .text callee), ("args", .list (Expr.outlines arguments))]

/-- The outlines of some expressions. -/
def Expr.outlines : List Expr → List Outline
  | [] => []
  | expression :: expressions => expression.outline :: Expr.outlines expressions

end

/-- The outline of a statement as an item. -/
def Outline.statement (name : String) (fields : List (String × Outline)) (line : Nat) : Outline :=
  .wrapper "Stmt" (.record name (fields ++ [Outline.lineField line]))

mutual

/-- The outline of an item. -/
def Item.outline : Item → Outline
  | .ifThen line condition consequent =>
    .statement "IfThen" [("cond", condition.outline),
      ("then_branch", .list (Item.outlines consequent))] line
  | .ifThenElse line condition consequent alternative =>
    .statement "IfThenElse" [("cond", condition.outline),
      ("then_branch", .list (Item.outlines consequent)),
      ("else_branch", .list (Item.outlines alternative))] line
  | .assignment line name value =>
    .statement "Assign" [("name", .text name), ("value", value.outline)] line
  | .returned line value => .statement "Return" [("value", value.outline)] line
  | .declaration line name value =>
    .statement "VarDecl" [("name", .text name), ("value", value.outline)] line
  | .expression line value => .statement "Expr" [("value", value.outline)] line
  | .function line (some name) parameters body =>
    .wrapper "Function" (.record "FunctionDecl" [("name", .text name),
      ("params", .names parameters), ("body", .list (Item.outlines body)), Outline.lineField line])
  | .function line none parameters body =>
    .wrapper "Lambda" (.record "Lambda" [("params", .names parameters),
      ("body", .list (Item.outlines body)), Outline.lineField line])

/-- The outlines of some items. -/
def Item.outlines : List Item → List Outline
  | [] => []
  | item :: items => item.outline :: Item.outlines items

end

/-- The outline of a program. -/
def Program.outline (program : Program) : Outline :=
  .record "Program" [("items", .list (Item.outlines program.items))]

end Scriptlet
