import Scriptlet.Tree.Basic

/-! How a chain of operands with operators between them is read: it falls apart at the last of its
weakest operators, and so does what stands on each side. -/

namespace Scriptlet

/-- An operator and the operand behind it. -/
abbrev Link :=
  BinaryOperator × Expr

namespace Link

/-- The last of the weakest operators of a chain, between what stands before it and behind it. -/
def splitWeakest : List Link → Option (List Link × Link × List Link)
  | [] => none
  | link :: links =>
    match splitWeakest links with
    | none => some ([], link, [])
    | some (before, weakest, behind) =>
      if link.1.precedence < weakest.1.precedence then some ([], link, links)
      else some (link :: before, weakest, behind)

/-- No operator is weaker than that of a given link. -/
def AllFrom (weakest : Link) (links : List Link) : Prop :=
  ∀ link ∈ links, weakest.1.precedence ≤ link.1.precedence

/-- Every operator is stronger than that of a given link. -/
def AllAbove (weakest : Link) (links : List Link) : Prop :=
  ∀ link ∈ links, weakest.1.precedence < link.1.precedence

variable {links before behind : List Link} {link weakest : Link}

/-- A chain with an operator is split. -/
theorem exists_splitWeakest (link : Link) (links : List Link) :
    ∃ before weakest behind, splitWeakest (link :: links) = some (before, weakest, behind) := by
  -- At the first operator if there is no other.
  rw [splitWeakest]
  split
  · exact ⟨_, _, _, rfl⟩
  · split <;> exact ⟨_, _, _, rfl⟩

/-- A chain is split at the last of its weakest operators. -/
theorem splitWeakest_eq_some (split : splitWeakest links = some (before, weakest, behind)) :
    links = before ++ weakest :: behind ∧ AllFrom weakest before ∧ AllAbove weakest behind := by
  induction links generalizing before weakest behind with
  | nil => cases split
  | cons link links ih =>
    cases links with
    | nil =>
      cases split
      exact ⟨rfl, by simp [AllFrom], by simp [AllAbove]⟩
    | cons other links =>
      obtain ⟨front, least, back, rest⟩ := exists_splitWeakest other links
      obtain ⟨stands, least', above⟩ := ih rest
      rw [splitWeakest, rest] at split
      simp only at split
      split at split
      next weaker =>
        -- The first operator is weaker than all others.
        cases split
        refine ⟨rfl, by simp [AllFrom], fun later member => ?_⟩
        rw [stands] at member
        rcases List.mem_append.mp member with before | member
        · exact Nat.lt_of_lt_of_le weaker (least' later before)
        · rcases List.mem_cons.mp member with rfl | behind
          · exact weaker
          · exact Nat.lt_trans weaker (above later behind)
      next strong =>
        cases split
        exact ⟨congrArg (link :: ·) stands,
          List.forall_mem_cons.mpr ⟨Nat.le_of_not_lt strong, least'⟩, above⟩

/-- Only the last of the weakest operators has none before it that is weaker, and behind it stronger
ones only. -/
theorem splitWeakest_append (least : AllFrom weakest before) (above : AllAbove weakest behind) :
    splitWeakest (before ++ weakest :: behind) = some (before, weakest, behind) := by
  induction before with
  | nil =>
    cases behind with
    | nil => rfl
    | cons other links =>
      -- Whatever operator the others would be split at is stronger.
      obtain ⟨front, later, back, rest⟩ := exists_splitWeakest other links
      have member : later ∈ other :: links := (splitWeakest_eq_some rest).1 ▸ by simp
      rw [List.nil_append, splitWeakest, rest]
      exact if_pos (above later member)
  | cons link before ih =>
    obtain ⟨own, least⟩ := List.forall_mem_cons.mp least
    rw [List.cons_append, splitWeakest, ih least]
    exact if_neg (Nat.not_lt_of_le own)

/-- A chain begins with the operators that are stronger than a given one, up to the first that is
not. -/
theorem exists_stronger (weakest : Link) (links : List Link) :
    ∃ inner later, links = inner ++ later ∧ AllAbove weakest inner ∧
      ∀ link, later.head? = some link → link.1.precedence ≤ weakest.1.precedence := by
  -- The first operator that is not stronger begins what comes later.
  induction links with
  | nil => exact ⟨[], [], rfl, by simp [AllAbove], by simp⟩
  | cons link links ih =>
    by_cases stronger : weakest.1.precedence < link.1.precedence
    · obtain ⟨inner, later, rfl, above, stop⟩ := ih
      exact ⟨link :: inner, later, rfl, List.forall_mem_cons.mpr ⟨stronger, above⟩, stop⟩
    · refine ⟨[], link :: links, rfl, by simp [AllAbove], fun other same => ?_⟩
      exact Option.some.inj same ▸ Nat.le_of_not_lt stronger

end Link

namespace Expr

open Link

/-- The tree of a chain: the last of its weakest operators, between the trees of both sides. -/
def ofChain (first : Expr) (links : List Link) : Expr :=
  match _ : splitWeakest links with
  | none => first
  | some (before, weakest, behind) =>
    .binary weakest.1 (ofChain first before) (ofChain weakest.2 behind)
termination_by links.length
decreasing_by
  all_goals
    have whole := congrArg List.length (splitWeakest_eq_some ‹_›).1
    simp only [List.length_append, List.length_cons] at whole
    omega

/-- A single operand is its own tree. -/
@[simp] theorem ofChain_nil (first : Expr) : ofChain first [] = first := by
  -- There is no operator to split at.
  rw [ofChain]
  rfl

/-- A chain falls apart at the last of its weakest operators. -/
theorem ofChain_append {before behind : List Link} {weakest : Link} (first : Expr)
    (least : AllFrom weakest before) (above : AllAbove weakest behind) :
    ofChain first (before ++ weakest :: behind) =
      .binary weakest.1 (ofChain first before) (ofChain weakest.2 behind) := by
  -- There is no other place at which it could be split.
  have found := splitWeakest_append least above
  rw [ofChain]
  split
  next none => exact absurd (none.symm.trans found) (by simp)
  next split =>
    obtain ⟨rfl, rfl, rfl⟩ : _ ∧ _ ∧ _ := by simpa using split.symm.trans found
    rfl

/-- Stronger operators behind the first one belong to its right side, if a weaker or an equally
strong one stops them, or nothing does. -/
theorem ofChain_cons {operator : BinaryOperator} {operand : Expr} {inner later : List Link}
    (first : Expr) (above : AllAbove (operator, operand) inner)
    (weaker : ∀ link, later.head? = some link → link.1.precedence ≤ operator.precedence) :
    ofChain first ((operator, operand) :: (inner ++ later)) =
      ofChain (.binary operator first (ofChain operand inner)) later := by
  -- The chain falls apart inside of what comes later, so the induction is on how long that is.
  induction same : later.length using Nat.strongRecOn generalizing later with
  | ind size ih =>
    cases later with
    | nil =>
      have alone : AllFrom (operator, operand) [] := by simp [AllFrom]
      simpa using ofChain_append first alone above
    | cons next later =>
      obtain ⟨before, weakest, behind, split⟩ := exists_splitWeakest next later
      obtain ⟨stands, least, strong⟩ := splitWeakest_eq_some split
      have stop := weaker next rfl
      have least' : weakest.1.precedence ≤ operator.precedence := by
        refine Nat.le_trans ?_ stop
        cases before with
        | nil => exact Nat.le_of_eq (congrArg (·.1.precedence) (List.cons.inj stands).1.symm)
        | cons other before => exact (List.cons.inj stands).1 ▸ least other (by simp)
      -- What the chain falls apart at is no stronger than the first operator and its right side.
      have all : AllFrom weakest ((operator, operand) :: (inner ++ before)) := by
        refine List.forall_mem_cons.mpr ⟨least', fun link member => ?_⟩
        rcases List.mem_append.mp member with inside | outside
        · exact Nat.le_trans least' (Nat.le_of_lt (above link inside))
        · exact least link outside
      have shorter : before.length < size := by
        rw [← same, stands, List.length_append, List.length_cons]
        omega
      have stops : ∀ link, before.head? = some link →
          link.1.precedence ≤ operator.precedence := by
        intro link front
        refine weaker link ?_
        rw [stands, List.head?_append, front]
        rfl
      rw [stands, ofChain_append _ least strong, ← ih _ shorter stops rfl,
        ← ofChain_append first all strong]
      simp

/-- In its order, an expression is a first operand with operators and operands behind it. -/
inductive InOrder : Expr → Expr → List Link → Prop where
  /-- A single operand. -/
  | operand (e : Expr) : InOrder e e []
  /-- An operator stands between what is in order on both of its sides. -/
  | binary {operator : BinaryOperator} {left right first operand : Expr} {before behind : List Link}
      (front : InOrder left first before) (back : InOrder right operand behind) :
      InOrder (.binary operator left right) first (before ++ (operator, operand) :: behind)

/-- The tree of a chain has its operands and operators in their order. -/
theorem inOrder_ofChain (first : Expr) (links : List Link) :
    (ofChain first links).InOrder first links := by
  induction same : links.length using Nat.strongRecOn generalizing first links with
  | ind size ih =>
    cases links with
    | nil =>
      rw [ofChain_nil]
      exact .operand first
    | cons link links =>
      -- Both sides of the operator in the middle are shorter.
      obtain ⟨before, weakest, behind, split⟩ := exists_splitWeakest link links
      obtain ⟨stands, least, above⟩ := splitWeakest_eq_some split
      rw [stands, List.length_append, List.length_cons] at same
      rw [stands, ofChain_append first least above]
      exact .binary (ih _ (by omega) _ _ rfl) (ih _ (by omega) _ _ rfl)

end Expr

end Scriptlet
