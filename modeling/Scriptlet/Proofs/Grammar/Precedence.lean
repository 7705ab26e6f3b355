import Scriptlet.Proofs.Grammar.Productions

/-! The levels of binary operators, seen as one operand with operators behind it that may bind less
strongly from one to the next, each with a right side of stronger ones. -/

namespace Scriptlet

namespace Grammar

/-- The token before an operand is the one that spells the operator. -/
theorem sign_iff {kind : TokenKind} {operator : UnaryOperator} :
    Sign kind operator ↔ kind = operator.kind := by
  -- There is one token for each operator.
  constructor
  · intro sign
    cases sign <;> rfl
  · intro spelled
    subst spelled
    cases operator <;> constructor

/-- The level of an operator is its precedence, and its token is the one that spells it. -/
theorem joint_iff {strength : Nat} {kind : TokenKind} {operator : BinaryOperator} :
    Joint strength kind operator ↔ kind = operator.kind ∧ operator.precedence = strength := by
  -- There is one token and one level for each operator.
  constructor
  · intro joint
    cases joint <;> exact ⟨rfl, rfl⟩
  · intro parts
    obtain ⟨rfl, rfl⟩ := parts
    cases operator <;> constructor

/-- Operators behind an expression that bind at least as strongly as `minimum`, and none of them
more strongly than the one before it, or than `maximum`. -/
inductive Climbs (minimum : Nat) : Nat → Expr → List Token → Expr → Nat → Prop where
  | stop {maximum : Nat} {left : Expr} : Climbs minimum maximum left [] left 0
  | step {maximum : Nat} {left right e : Expr} {operator : BinaryOperator} {mark : Token}
      {front back : List Token} {n m : Nat} (spelled : mark.kind = operator.kind)
      (strong : minimum ≤ operator.precedence) (weak : operator.precedence ≤ maximum)
      (operand : Level (operator.precedence + 1) front right n)
      (rest : Climbs minimum operator.precedence (.binary operator left right) back e m) :
      Climbs minimum maximum left (mark :: (front ++ back)) e (max n m)

section Lift

variable {strength lower : Nat} {tokens : List Token} {e : Expr} {n : Nat}

/-- No level lies above the one of operands. -/
theorem Level.le_operand (whole : Level strength tokens e n) : strength ≤ 7 := by
  -- Chains stand on the levels up to six.
  cases whole with
  | chain weak => omega
  | operand => exact Nat.le_refl 7

/-- What stands on one level stands on every lower one. -/
theorem Level.lift (whole : Level strength tokens e n) (below : lower ≤ strength) :
    Level lower tokens e n := by
  -- From one level to the next lower one, no operator is added.
  induction strength with
  | zero =>
    obtain rfl : lower = 0 := by omega
    exact whole
  | succ strength ih =>
    rcases Nat.eq_or_lt_of_le below with rfl | strictly
    · exact whole
    · refine ih ?_ (by omega)
      have top := whole.le_operand
      have chain := Level.chain (by omega) whole (.done : Tail strength e [] e 0)
      simpa using chain

end Lift

section Append

variable {strength : Nat} {left right e : Expr} {operator : BinaryOperator} {mark : Token}
  {front back : List Token} {n m : Nat}

/-- One more operator of the same precedence goes on with a tail. -/
theorem Tail.snoc (tail : Tail strength left front e n) (joint : Joint strength mark.kind operator)
    (operand : Level (strength + 1) back right m) :
    Tail strength left (front ++ mark :: back) (.binary operator e right) (max n m) := by
  -- Tails are one of several families, so the induction is on how many tokens one has.
  induction bound : front.length using Nat.strongRecOn generalizing front left n with
  | ind bound ih =>
    cases tail with
    | done =>
      have single :=
        Tail.more joint operand (.done : Tail strength (.binary operator e right) _ _ _)
      simpa using single
    | more joint' operand' rest =>
      subst bound
      have longer := ih _ (by simp only [List.length_cons, List.length_append]; omega) rest rfl
      have whole := Tail.more joint' operand' longer
      simpa [Nat.max_assoc] using whole

/-- One more operator of its precedence goes on with a level. -/
theorem Level.snoc (whole : Level operator.precedence front left n)
    (spelled : mark.kind = operator.kind)
    (operand : Level (operator.precedence + 1) back right m) :
    Level operator.precedence (front ++ mark :: back) (.binary operator left right) (max n m) := by
  -- The level is a chain, since operands stand above all operators.
  have weaker := operator.precedence_le_six
  generalize same : operator.precedence = strength at whole weaker operand ⊢
  cases whole with
  | operand => omega
  | chain weak head tail =>
    have longer := tail.snoc (joint_iff.mpr ⟨spelled, same⟩) operand
    have chain := Level.chain weak head longer
    simpa [Nat.max_assoc] using chain

end Append

section Climb

variable {minimum maximum strength : Nat} {left e : Expr} {front back : List Token} {n m : Nat}

/-- Operators of one precedence climb. -/
theorem Climbs.of_tail (tail : Tail minimum left front e n) (weak : minimum ≤ maximum) :
    Climbs minimum maximum left front e n := by
  -- As for tails, the induction is on how many tokens there are.
  induction bound : front.length using Nat.strongRecOn generalizing front left n maximum with
  | ind bound ih =>
    cases tail with
    | done => exact .stop
    | more joint operand rest =>
      obtain ⟨spelled, level⟩ := joint_iff.mp joint
      subst bound level
      exact .step spelled (Nat.le_refl _) weak operand
        (ih _ (by simp only [List.length_cons, List.length_append]; omega) rest (Nat.le_refl _) rfl)

/-- Operators of the next lower precedence go on with those of higher ones. -/
theorem Climbs.append (climbs : Climbs (minimum + 1) maximum left front e n) {e' : Expr}
    (tail : Tail minimum e back e' m) (weak : minimum ≤ maximum) :
    Climbs minimum maximum left (front ++ back) e' (max n m) := by
  -- The operators of the tail come behind the last of the others.
  induction climbs with
  | stop => simpa using Climbs.of_tail tail weak
  | step spelled strong weak' operand rest ih =>
    have later := ih tail (by omega)
    have whole := Climbs.step spelled (by omega) weak' operand later
    simpa [Nat.max_assoc] using whole

/-- Behind something of a level, operators that climb from there make something of a level. -/
theorem Climbs.level (climbs : Climbs minimum maximum left back e m)
    (head : Level strength front left n) (below : maximum ≤ strength)
    (bound : minimum ≤ strength) :
    Level minimum (front ++ back) e (max n m) := by
  -- After each operator the left side stands on the level of this operator.
  induction climbs generalizing strength front n with
  | stop => simpa using head.lift bound
  | step spelled strong weak operand rest ih =>
    have lowered := head.lift (Nat.le_trans weak below)
    have longer := ih (lowered.snoc spelled operand) (Nat.le_refl _) strong
    simpa [Nat.max_assoc] using longer

/-- Something of a level is an operand with operators behind it that climb. -/
theorem Level.exists_climbs (whole : Level minimum front e n) :
    ∃ head tail left k m, front = head ++ tail ∧ n = max k m ∧ Unary head left k ∧
      Climbs minimum 6 left tail e m := by
  -- The induction goes down from the level of operands.
  have top := whole.le_operand
  induction distance : 7 - minimum generalizing minimum front e n with
  | zero =>
    cases whole with
    | operand inner => exact ⟨front, [], e, n, 0, by simp, by simp, inner, .stop⟩
    | chain weak => omega
  | succ distance ih =>
    cases whole with
    | operand => omega
    | chain weak inner tail =>
      obtain ⟨head, middle, left, k, m, rfl, rfl, operand, climbs⟩ :=
        ih inner inner.le_operand (by omega)
      exact ⟨head, _, left, k, _, List.append_assoc .., Nat.max_assoc .., operand,
        climbs.append tail weak⟩

end Climb

end Grammar

end Scriptlet
