import Scriptlet.Proofs.Grammar.Nesting
import Scriptlet.Proofs.Parser.Acceptance

/-! The limit on nesting, seen from the tree: no path through a program leads further down. -/

namespace Scriptlet

open Grammar

namespace Node

variable {n : Nat}

/-- No path through an expression leads further down than the expression nests. -/
theorem building_within : Building fun _ n e => (Node.expr e).Within n where
  atom empty := within_of_parts fun edge part member => by
    rw [empty] at member
    cases member
  sign operand := within_of_parts fun edge part member => by
    cases List.mem_singleton.mp member
    exact ⟨_, Nat.le_refl _, operand⟩
  call inner := within_of_parts fun edge part member => by
    obtain ⟨argument, among, same⟩ := List.mem_map.mp member
    cases same
    exact inner argument among
  enclosed inner := inner.mono (Nat.le_succ _)
  lower whole := whole
  joint _ before behind := within_of_parts fun edge part member => by
    -- Both operands are parts on the level of the operator.
    simp only [Node.parts, List.mem_cons, List.not_mem_nil, or_false] at member
    rcases member with same | same
    · cases same
      exact ⟨_, Nat.le_max_left _ _, before⟩
    · cases same
      exact ⟨_, Nat.le_max_right _ _, behind⟩

/-- No path through an item leads further down than its parts do below their edges. -/
theorem within_item {item : Item}
    (deepens : Deepens (fun n item => (Node.item item).Within n) n item) :
    (Node.item item).Within n := by
  -- A part of an item is an expression, whose height the derivation
  -- bounds, or an item inside a block.
  refine within_of_parts fun edge part member => ?_
  rcases deepens.part_cases member with
    ⟨tokens, e, m, rfl, room, level⟩ | ⟨inner, m, rfl, room, within⟩
  · exact ⟨m, room, level.built building_within⟩
  · exact ⟨m, room, within⟩

/-- No path through a program leads further down than its derivation nests. -/
theorem within_program {tokens : List Token} {program : Program}
    (whole : Source tokens program n) : (Node.program program).Within n := by
  -- The parts of a program are its items, each with a derivation that nests no deeper.
  refine within_of_parts fun edge part member => ?_
  obtain ⟨item, m, rfl, room, within⟩ := whole.holds (fun _ _ => within_item) member
  exact ⟨m, room, within⟩

end Node

/-- Whatever a source holds, and however many defects it has, along every path through the program
that is read at most as many edges as the limit says go into a block, an operand behind an operator
or an argument; and one less if the path goes through a condition or a value that is returned,
declared or assigned. -/
theorem countP_enters_le (limit : Nat) (source : String) (edges : List Edge) (node : Node)
    (path : (Node.program (parseWithin limit source).program).Path edges node) :
    edges.countP Edge.enters ≤ limit ∧
      (.value ∈ edges → edges.countP Edge.enters + 1 ≤ limit) := by
  -- What was read is derived by some of the tokens, within the limit.
  obtain ⟨kept, n, -, whole, room, -⟩ := parseWithin_reads limit source
  have deep := Node.within_program whole edges node path
  rw [Edge.descent] at deep
  refine ⟨by omega, fun value => ?_⟩
  have some : 0 < edges.count .value := List.count_pos_iff.mpr value
  omega

/-- A limit of three levels is used up by a value, an argument and an operand inside each other;
what lies deeper is not in the program. -/
theorem countP_enters_call :
    let program := (parseWithin 3 "return f(!x); return f(!!x);").program
    let edges : List Edge := [.plain, .value, .argument, .operand]
    (Node.program program).Path edges (.expr (.identifier "x")) ∧
      edges.countP Edge.enters ≤ 3 ∧ (.value ∈ edges → edges.countP Edge.enters + 1 ≤ 3) := by
  -- The second statement nests too deep and leaves no trace in the
  -- tree; the first one holds the path.
  intro program edges
  have read : program = ⟨[.returned 1 (.call "f" [.unary .not (.identifier "x")])]⟩ := by
    decide +kernel
  have path : (Node.program program).Path edges (.expr (.identifier "x")) := by
    rw [read]
    exact .down (List.mem_singleton_self _) (.down (List.mem_singleton_self _)
      (.down (List.mem_singleton_self _) (.down (List.mem_singleton_self _) (.here _))))
  exact ⟨path, countP_enters_le 3 _ edges _ path⟩

end Scriptlet
