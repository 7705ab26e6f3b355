import Scriptlet.Proofs.Tree.Path

/-! How high expressions are, with every operator counted, and with one count for each chain of
operators of the same precedence that is folded to the left. -/

namespace Scriptlet

namespace Expr

mutual

/-- The number of expressions on the longest path down an expression. -/
def height : Expr → Nat
  | .identifier _ | .number _ | .string _ | .boolean _ => 1
  | .unary _ operand => operand.height + 1
  | .binary _ left right => max left.height right.height + 1
  | .call _ arguments => heights arguments + 1

/-- The height of the highest one of some expressions. -/
def heights : List Expr → Nat
  | [] => 0
  | e :: more => max e.height (heights more)

end

/-- The expression has an operator of a given precedence at its top. -/
def chains (strength : Nat) : Expr → Bool
  | .binary operator _ _ => operator.precedence == strength
  | .identifier _ | .number _ | .string _ | .boolean _ | .unary _ _ | .call _ _ => false

mutual

/-- The height of an expression, when a left operand with an operator of the same precedence does
not count. -/
def chainHeight : Expr → Nat
  | .identifier _ | .number _ | .string _ | .boolean _ => 1
  | .unary _ operand => operand.chainHeight + 1
  | .binary operator left right =>
    max (if left.chains operator.precedence then left.chainHeight else left.chainHeight + 1)
      (right.chainHeight + 1)
  | .call _ arguments => chainHeights arguments + 1

/-- The height of the highest one of some expressions. -/
def chainHeights : List Expr → Nat
  | [] => 0
  | e :: more => max e.chainHeight (chainHeights more)

end

/-- The height that an operator of a given precedence has with an expression to its left. -/
def standing (strength : Nat) (e : Expr) : Nat :=
  if e.chains strength then e.chainHeight else e.chainHeight + 1

variable {e : Expr} {strength : Nat}

/-- To the left of an operator an expression counts once more at most. -/
theorem standing_le : e.standing strength ≤ e.chainHeight + 1 := by
  -- It counts as high as its chain, or one more.
  unfold standing
  split <;> omega

/-- To the left of an operator an expression is at least as high. -/
theorem le_standing : e.chainHeight ≤ e.standing strength := by
  -- The one more is never taken away.
  unfold standing
  split <;> omega

/-- An operator is as high as its left side makes it, and higher than its right side. -/
theorem chainHeight_binary (operator : BinaryOperator) (left right : Expr) :
    (binary operator left right).chainHeight =
      max (left.standing operator.precedence) (right.chainHeight + 1) :=
  -- This is how the height of an operator is defined.
  rfl

/-- To the left of another operator of the same precedence an operator does not count. -/
theorem standing_binary (operator : BinaryOperator) (left right : Expr) :
    (binary operator left right).standing operator.precedence =
      (binary operator left right).chainHeight :=
  -- The precedences are the same, so that the chain goes on.
  if_pos (beq_self_eq_true _)

/-- Expressions are as high as the highest one of them. -/
theorem chainHeights_le_iff {expressions : List Expr} {n : Nat} :
    chainHeights expressions ≤ n ↔ ∀ e ∈ expressions, e.chainHeight ≤ n := by
  -- Each expression in turn is below the bound, or above it together with the maximum.
  induction expressions with
  | nil => simp [chainHeights]
  | cons e more ih => rw [chainHeights, Nat.max_le, ih, List.forall_mem_cons]

/-- The parts of an expression are expressions, none of which is higher. -/
theorem exists_of_mem_parts {edge : Edge} {part : Node}
    (member : (edge, part) ∈ (Node.expr e).parts) :
    ∃ inner, part = .expr inner ∧ inner.chainHeight ≤ e.chainHeight := by
  -- The left side of an operator counts as it stands there, and all other parts count one less.
  cases e with
  | unary operator operand =>
    cases List.mem_singleton.mp member
    exact ⟨operand, rfl, Nat.le_succ _⟩
  | binary operator left right =>
    rw [chainHeight_binary]
    have own : left.chainHeight ≤ left.standing operator.precedence := le_standing
    simp only [Node.parts, List.mem_cons, List.not_mem_nil, or_false] at member
    rcases member with same | same
    · cases same
      exact ⟨left, rfl, by omega⟩
    · cases same
      exact ⟨right, rfl, by omega⟩
  | call callee arguments =>
    obtain ⟨argument, among, same⟩ := List.mem_map.mp member
    cases same
    have bounded := chainHeights_le_iff.mp (Nat.le_refl (chainHeights arguments)) argument among
    exact ⟨argument, rfl, Nat.le_succ_of_le bounded⟩
  | _ => cases member

/-- No expression inside another one is higher. -/
theorem chainHeight_le_of_path {inner : Expr} {edges : List Edge}
    (path : (Node.expr e).Path edges (.expr inner)) : inner.chainHeight ≤ e.chainHeight := by
  -- The induction is on the path: every step of it leads to a part, which is no higher.
  generalize outer : Node.expr e = node at path
  generalize target : Node.expr inner = found at path
  induction path generalizing e with
  | here =>
    cases outer
    cases target
    exact Nat.le_refl _
  | down first rest ih =>
    subst outer
    obtain ⟨part, rfl, below⟩ := exists_of_mem_parts first
    exact Nat.le_trans (ih rfl target) below

end Expr

end Scriptlet
