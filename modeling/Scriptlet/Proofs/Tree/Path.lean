import Scriptlet.Tree.Basic

/-! Paths through a program from each part to a part of that part, and how deep they lead. -/

namespace Scriptlet

/-- A part of a program. -/
inductive Node where
  /-- The whole. -/
  | program (program : Program)
  /-- An item at the top or in a block. -/
  | item (item : Item)
  /-- An expression. -/
  | expr (e : Expr)

/-- What a part is to the one that it stands in. -/
inductive Edge where
  /-- An item at the top, an operand of an operator between two, or an expression that stands
  alone. -/
  | plain
  /-- An item in the body of a function or in a branch of a conditional. -/
  | body
  /-- The operand behind an operator. -/
  | operand
  /-- An argument of a call. -/
  | argument
  /-- The condition of a conditional, or what is returned, declared or assigned. -/
  | value
deriving DecidableEq

namespace Edge

/-- The edge goes into a block, behind an operator, or between the parentheses of a call. -/
def enters : Edge → Bool
  | .body | .operand | .argument => true
  | .plain | .value => false

/-- How many levels an edge leads down. -/
def levels : Edge → Nat
  | .body | .operand | .argument | .value => 1
  | .plain => 0

/-- How many levels a path leads down: one by each edge that enters something and one by each edge
to a value. -/
def descent (edges : List Edge) : Nat :=
  edges.countP enters + edges.count .value

/-- The way down by an edge and a path below it. -/
theorem descent_cons (edge : Edge) (edges : List Edge) :
    descent (edge :: edges) = edge.levels + descent edges := by
  -- Each edge counts once, as one that enters or as one to a value, or not at all.
  rw [descent, descent, List.countP_cons, List.count_cons]
  cases edge <;> simp [levels, enters] <;> omega

end Edge

namespace Node

/-- The parts that a part falls into, in the order of the source. -/
def parts : Node → List (Edge × Node)
  | .program ⟨items⟩ => items.map fun item => (.plain, .item item)
  | .item (.ifThen _ condition consequent) =>
    (.value, .expr condition) :: consequent.map fun item => (.body, .item item)
  | .item (.ifThenElse _ condition consequent alternative) =>
    (.value, .expr condition) ::
      (consequent ++ alternative).map fun item => (.body, .item item)
  | .item (.assignment _ _ value) | .item (.returned _ value) | .item (.declaration _ _ value) =>
    [(.value, .expr value)]
  | .item (.expression _ value) => [(.plain, .expr value)]
  | .item (.function _ _ _ body) => body.map fun item => (.body, .item item)
  | .expr (.identifier _) | .expr (.number _) | .expr (.string _) | .expr (.boolean _) => []
  | .expr (.unary _ operand) => [(.operand, .expr operand)]
  | .expr (.binary _ left right) => [(.plain, .expr left), (.plain, .expr right)]
  | .expr (.call _ arguments) => arguments.map fun argument => (.argument, .expr argument)

/-- The edges on the way from a part to one that lies somewhere in it. -/
inductive Path : Node → List Edge → Node → Prop where
  /-- Every part lies in itself. -/
  | here (node : Node) : Path node [] node
  /-- What lies in one of the parts of a part lies in this one as well. -/
  | down {node part target : Node} {edge : Edge} {edges : List Edge}
      (first : (edge, part) ∈ node.parts) (rest : Path part edges target) :
      Path node (edge :: edges) target

/-- No path from a part leads down more than so many levels. -/
def Within (n : Nat) (node : Node) : Prop :=
  ∀ edges target, Path node edges target → Edge.descent edges ≤ n

variable {node : Node} {n m : Nat}

/-- What lies within some levels lies within more of them. -/
theorem Within.mono (within : node.Within n) (more : n ≤ m) : node.Within m :=
  -- Every path is bounded by the smaller number.
  fun edges target path => Nat.le_trans (within edges target path) more

/-- A part lies within as many levels as its own parts do below the edges that lead to them. -/
theorem within_of_parts (below : ∀ edge part, (edge, part) ∈ node.parts →
    ∃ m, m + edge.levels ≤ n ∧ part.Within m) : node.Within n := by
  -- A path that goes down begins with an edge to a part and goes on within that part.
  intro edges target path
  cases path with
  | here => exact Nat.zero_le n
  | @down _ part _ edge edges first rest =>
    obtain ⟨m, room, within⟩ := below edge part first
    have deep := within edges target rest
    rw [Edge.descent_cons]
    omega

end Node

end Scriptlet
