import Scriptlet.Proofs.Grammar.Precedence
import Scriptlet.Proofs.Tree.Path

/-! What builds up along the grammar: laws for the productions of expressions and for items, from
which it follows for all that the grammar derives. -/

namespace Scriptlet

namespace Grammar

/-- Something that builds up along the productions of expressions, by the level where an expression
stands and how deep it nests. -/
structure Building (built : Nat → Nat → Expr → Prop) : Prop where
  /-- Variables and literals have no parts. -/
  atom {e : Expr} (empty : (Node.expr e).parts = []) : built 7 0 e
  /-- An operator takes its operand one level down. -/
  sign {operator : UnaryOperator} {e : Expr} {n : Nat} (operand : built 7 n e) :
    built 7 (n + 1) (.unary operator e)
  /-- A call takes each of its arguments one level down. -/
  call {callee : String} {arguments : List Expr} {n : Nat}
    (inner : ∀ e ∈ arguments, ∃ m, m + 1 ≤ n ∧ built 1 m e) : built 7 n (.call callee arguments)
  /-- Parentheses take what is between them one level down. -/
  enclosed {e : Expr} {n : Nat} (inner : built 1 n e) : built 7 (n + 1) e
  /-- What stands on one level stands on the next lower one. -/
  lower {strength : Nat} {e : Expr} {n : Nat} (whole : built (strength + 1) n e) :
    built strength n e
  /-- An operator between two operands goes on with the left one on its own level. -/
  joint {strength : Nat} {kind : TokenKind} {operator : BinaryOperator} {left right : Expr}
    {n m : Nat} (mark : Joint strength kind operator) (before : built strength n left)
    (behind : built (strength + 1) m right) :
    built strength (max n m) (.binary operator left right)

section Expressions

variable {built : Nat → Nat → Expr → Prop}

mutual

/-- An expression is built one level down. -/
theorem Expression.built (laws : Building built) :
    ∀ {tokens : List Token} {e : Expr} {n : Nat}, Expression tokens e n →
      ∃ m, m + 1 = n ∧ built 1 m e
  -- The level of an expression is the one that its inner levels leave over.
  | _, _, _, .intro inner => ⟨_, rfl, inner.built laws⟩

/-- What stands on a level is built there. -/
theorem Level.built (laws : Building built) :
    ∀ {strength : Nat} {tokens : List Token} {e : Expr} {n : Nat}, Level strength tokens e n →
      built strength n e
  -- A chain begins with a level above and goes on with its operators; other
  -- levels pass on what they hold.
  | _, _, _, _, .chain _ head tail => tail.built laws (laws.lower (head.built laws))
  | _, _, _, _, .operand inner => inner.built laws

/-- Operators go on with what is built on their level. -/
theorem Tail.built (laws : Building built) :
    ∀ {strength : Nat} {left : Expr} {tokens : List Token} {e : Expr} {n m : Nat},
      Tail strength left tokens e m → built strength n left → built strength (max n m) e
  -- The induction is on the operators: each joins an operand to all that is built so far.
  | _, _, _, _, _, _, .done, front => by rwa [Nat.max_zero]
  | _, _, _, _, _, _, .more joint operand rest, front => by
    have longer := rest.built laws (laws.joint joint front (operand.built laws))
    rwa [Nat.max_assoc] at longer

/-- Operands are built on the highest level. -/
theorem Unary.built (laws : Building built) :
    ∀ {tokens : List Token} {e : Expr} {n : Nat}, Unary tokens e n → built 7 n e
  -- A sign binds what is built on the same level, and without one there is a primary expression.
  | _, _, _, .operator _ inner => laws.sign (inner.built laws)
  | _, _, _, .primary inner => inner.built laws

/-- Primary expressions are built on the highest level. -/
theorem Primary.built (laws : Building built) :
    ∀ {tokens : List Token} {e : Expr} {n : Nat}, Primary tokens e n → built 7 n e
  -- Only calls and parentheses have parts; names and literals have none.
  | _, _, _, .identifier _ _ | _, _, _, .number _ _ | _, _, _, .string _ _
  | _, _, _, .trueWord _ | _, _, _, .falseWord _ => laws.atom rfl
  | _, _, _, .call _ _ _ inner _ => laws.call (inner.built laws)
  | _, _, _, .parenthesized _ inner _ => by
    obtain ⟨m, rfl, inside⟩ := inner.built laws
    exact laws.enclosed inside

/-- Arguments are built one level down. -/
theorem Arguments.built (laws : Building built) :
    ∀ {tokens : List Token} {arguments : List Expr} {n : Nat}, Arguments tokens arguments n →
      ∀ e ∈ arguments, ∃ m, m + 1 ≤ n ∧ built 1 m e
  -- Without arguments there is nothing to build.
  | _, _, _, .none => nofun
  | _, _, _, .some inner => inner.built laws

/-- Each of some expressions is built one level down. -/
theorem Expressions.built (laws : Building built) :
    ∀ {tokens : List Token} {expressions : List Expr} {n : Nat}, Expressions tokens expressions n →
      ∀ e ∈ expressions, ∃ m, m + 1 ≤ n ∧ built 1 m e
  -- The induction is on the commas; each expression keeps below the deepest of them.
  | _, _, _, .last only => by
    obtain ⟨m, rfl, own⟩ := only.built laws
    intro e member
    obtain rfl := List.mem_singleton.mp member
    exact ⟨m, Nat.le_refl _, own⟩
  | _, _, _, .more first _ rest => by
    obtain ⟨m, rfl, own⟩ := first.built laws
    have others := rest.built laws
    intro e member
    rcases List.mem_cons.mp member with rfl | later
    · exact ⟨m, Nat.le_max_left _ _, own⟩
    · obtain ⟨k, room, inner⟩ := others e later
      exact ⟨k, Nat.le_trans room (Nat.le_max_right _ _), inner⟩

end

end Expressions

/-- The parts of an item, as deep as an item may nest: its expressions are derived, and something
holds of its items. -/
structure Deepens (fact : Nat → Item → Prop) (n : Nat) (item : Item) : Prop where
  expressions : ∀ edge e, (edge, .expr e) ∈ (Node.item item).parts →
    ∃ tokens m, m + edge.levels ≤ n ∧ Level 1 tokens e m
  items : ∀ edge part, (edge, .item part) ∈ (Node.item item).parts →
    ∃ m, m + edge.levels ≤ n ∧ fact m part

section Items

variable {fact : Nat → Item → Prop}

/-- The parts of most items are values and the items of blocks, which all lie one level down. -/
theorem Deepens.of_parts {n : Nat} {item : Item} (values : List Expr) (items : List Item)
    (same : (Node.item item).parts =
      (values.map fun e => (.value, .expr e)) ++ items.map fun part => (.body, .item part))
    (expressions : ∀ e ∈ values, ∃ tokens m, m + 1 ≤ n ∧ Level 1 tokens e m)
    (blocks : ∀ part ∈ items, ∃ m, m + 1 ≤ n ∧ fact m part) : Deepens fact n item := by
  -- The parts are listed twice, as the item has them and sorted into values and blocks.
  constructor
  · intro edge e member
    rw [same, List.mem_append, List.mem_map, List.mem_map] at member
    rcases member with ⟨value, member, same⟩ | ⟨part, member, same⟩
    · cases same
      exact expressions e member
    · cases same
  · intro edge part member
    rw [same, List.mem_append, List.mem_map, List.mem_map] at member
    rcases member with ⟨value, member, same⟩ | ⟨item, member, same⟩
    · cases same
    · cases same
      exact blocks part member

/-- The parts of an item are expressions that are derived, and items of which something holds. -/
theorem Deepens.part_cases {n : Nat} {item : Item} (deepens : Deepens fact n item) {edge : Edge}
    {part : Node} (member : (edge, part) ∈ (Node.item item).parts) :
    (∃ tokens e m, part = .expr e ∧ m + edge.levels ≤ n ∧ Level 1 tokens e m) ∨
      ∃ inner m, part = .item inner ∧ m + edge.levels ≤ n ∧ fact m inner := by
  -- No part of an item is a program.
  cases part with
  | program whole => cases item <;> simp [Node.parts] at member
  | item inner =>
    obtain ⟨m, room, own⟩ := deepens.items edge inner member
    exact .inr ⟨inner, m, rfl, room, own⟩
  | expr e =>
    obtain ⟨tokens, m, room, level⟩ := deepens.expressions edge e member
    exact .inl ⟨tokens, e, m, rfl, room, level⟩

/-- An expression that stands in an item lies one level down. -/
theorem Expression.exists_level {tokens : List Token} {e : Expr} {n : Nat}
    (whole : Expression tokens e n) : ∃ tokens m, m + 1 = n ∧ Level 1 tokens e m := by
  -- An expression is derived from what stands on the weakest level.
  cases whole with
  | intro inner => exact ⟨_, _, rfl, inner⟩

/-- A value may take fewer levels than its item. -/
theorem Expression.exists_level_below {tokens : List Token} {e : Expr} {n m : Nat}
    (whole : Expression tokens e n) (room : n ≤ m) :
    ∀ value ∈ [e], ∃ tokens k, k + 1 ≤ m ∧ Level 1 tokens value k := by
  -- There is one such value, and its item has at least as many levels as it needs.
  intro value member
  obtain rfl := List.mem_singleton.mp member
  obtain ⟨tokens, k, deeper, level⟩ := whole.exists_level
  exact ⟨tokens, k, by omega, level⟩

mutual

/-- What items keep building up holds of all items in a row. -/
theorem Items.holds (law : ∀ n item, Deepens fact n item → fact n item) :
    ∀ {tokens : List Token} {items : List Item} {n : Nat}, Items tokens items n →
      ∀ item ∈ items, ∃ m ≤ n, fact m item
  -- The induction is on the row; each item keeps below the deepest of them.
  | _, _, _, .none => nofun
  | _, _, _, .more first rest => by
    have own := first.holds law
    have others := rest.holds law
    intro item member
    rcases List.mem_cons.mp member with rfl | later
    · exact ⟨_, Nat.le_max_left _ _, own⟩
    · obtain ⟨m, room, inner⟩ := others item later
      exact ⟨m, Nat.le_trans room (Nat.le_max_right _ _), inner⟩

/-- What items keep building up holds of every item. -/
theorem TopStatement.holds (law : ∀ n item, Deepens fact n item → fact n item) :
    ∀ {tokens : List Token} {item : Item} {n : Nat}, TopStatement tokens item n → fact n item
  -- Each sort of item has its own lemma below.
  | _, _, _, .statement inner => inner.holds law
  | _, _, _, .function inner => inner.holds law
  | _, _, _, .lambda inner => inner.holds law

/-- What items keep building up holds of every function with a name. -/
theorem Function.holds (law : ∀ n item, Deepens fact n item → fact n item) :
    ∀ {tokens : List Token} {item : Item} {n : Nat}, Function tokens item n → fact n item
  -- A function has no values, and the items of its body lie one level down.
  | _, _, _, .intro (n := n) (m := m) _ _ _ _ _ _ body => by
    have inner := body.holds law (Nat.le_max_right n m)
    exact law _ _ (.of_parts [] _ rfl nofun inner)

/-- What items keep building up holds of every function without a name. -/
theorem Lambda.holds (law : ∀ n item, Deepens fact n item → fact n item) :
    ∀ {tokens : List Token} {item : Item} {n : Nat}, Lambda tokens item n → fact n item
  -- As with a name, all parts are in the body.
  | _, _, _, .intro (n := n) (m := m) _ _ _ _ body => by
    have inner := body.holds law (Nat.le_max_right n m)
    exact law _ _ (.of_parts [] _ rfl nofun inner)

/-- What items keep building up holds of the items of a block, one level down. -/
theorem Block.holds (law : ∀ n item, Deepens fact n item → fact n item) :
    ∀ {tokens : List Token} {items : List Item} {n m : Nat}, Block tokens items n → n ≤ m →
      ∀ item ∈ items, ∃ k, k + 1 ≤ m ∧ fact k item
  -- The braces of the block are what the level is entered for.
  | _, _, _, _, .intro _ inner _, room => by
    have inside := inner.holds law
    intro item member
    obtain ⟨k, shallow, whole⟩ := inside item member
    exact ⟨k, by omega, whole⟩

/-- What items keep building up holds of every statement. -/
theorem Statement.holds (law : ∀ n item, Deepens fact n item → fact n item) :
    ∀ {tokens : List Token} {item : Item} {n : Nat}, Statement tokens item n → fact n item
  -- Conditionals have a value and blocks, and the others a value alone; an expression may be
  -- one that begins with its operand.
  | _, _, _, .ifThen (n := n) (m := m) _ _ test _ body => by
    have inner := body.holds law (Nat.le_max_right n m)
    exact law _ _ (.of_parts [_] _ rfl (test.exists_level_below (Nat.le_max_left _ _)) inner)
  | _, _, _, .ifThenElse (n := n) (m := m) (k := k) _ _ test _ body _ other => by
    have inner := body.holds law (show m ≤ max n (max m k) by omega)
    have inner' := other.holds law (show k ≤ max n (max m k) by omega)
    refine law _ _ (.of_parts [_] (_ ++ _) rfl (test.exists_level_below (Nat.le_max_left _ _)) ?_)
    exact List.forall_mem_append.mpr ⟨inner, inner'⟩
  | _, _, _, .assignment _ _ _ inner _ | _, _, _, .returned _ inner _
  | _, _, _, .declaration _ _ _ _ inner _ =>
    law _ _ (.of_parts [_] [] rfl (inner.exists_level_below (Nat.le_refl _)) nofun)
  | _, _, _, .expression (n := n) inner _ => by
    obtain ⟨tokens, m, rfl, level⟩ := inner.exists_level
    refine law _ _ ⟨fun edge e member => ?_, fun edge part member => ?_⟩
    · cases List.mem_singleton.mp member
      refine ⟨tokens, m, ?_, level⟩
      split <;> simp [Edge.levels]
    · cases List.mem_singleton.mp member

end

/-- What items keep building up holds of the parts of a program, which are items. -/
theorem Source.holds (law : ∀ n item, Deepens fact n item → fact n item) {tokens : List Token}
    {program : Program} {n : Nat} (whole : Source tokens program n) {edge : Edge} {part : Node}
    (member : (edge, part) ∈ (Node.program program).parts) :
    ∃ item m, part = .item item ∧ m + edge.levels ≤ n ∧ fact m item := by
  -- A program is a row of items, and they lie on no level.
  cases whole with
  | intro inner =>
    obtain ⟨item, among, same⟩ := List.mem_map.mp member
    cases same
    obtain ⟨m, room, own⟩ := inner.holds law item among
    exact ⟨item, m, rfl, room, own⟩

end Items

end Grammar

end Scriptlet
