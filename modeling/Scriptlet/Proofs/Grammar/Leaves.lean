import Scriptlet.Proofs.Grammar.Productions
import Scriptlet.Proofs.Tree.Lines
import Scriptlet.Proofs.Tree.Path

/-! The names and literals of a tree, each of which some token brings along. -/

namespace Scriptlet

/-- What the parts of a tree hold of the source, besides their form. -/
inductive Leaf where
  /-- The name of a variable, a function or a parameter. -/
  | name (spelling : String)
  /-- The value of a numeric literal. -/
  | number (value : Number)
  /-- The payload of a string literal. -/
  | string (payload : String)

/-- What a token is that brings a leaf along. -/
def Leaf.content : Leaf → TokenKind × TokenValue
  | .name spelling => (.identifier, .text spelling)
  | .number value => (.number, .number value)
  | .string payload => (.string, .text payload)

/-- Some token among others is what brings a leaf along. -/
def Leaf.From (tokens : List Token) (leaf : Leaf) : Prop :=
  ∃ token ∈ tokens, token.content = leaf.content

namespace Node

/-- The names and literals that a part holds itself, in the order of the source. -/
def leaves : Node → List Leaf
  | .expr (.identifier name) | .expr (.call name _) => [.name name]
  | .expr (.number value) => [.number value]
  | .expr (.string payload) => [.string payload]
  | .item (.assignment _ name _) | .item (.declaration _ name _) => [.name name]
  | .item (.function _ name parameters _) => (name.toList ++ parameters).map .name
  | .program _ | .item (.ifThen ..) | .item (.ifThenElse ..) | .item (.returned ..)
  | .item (.expression ..) | .expr (.boolean _) | .expr (.unary ..) | .expr (.binary ..) => []

/-- All names and literals in a part come from certain tokens. -/
def Drawn (tokens : List Token) (node : Node) : Prop :=
  ∀ edges target, Path node edges target → ∀ leaf ∈ target.leaves, leaf.From tokens

variable {tokens : List Token} {node : Node}

/-- What a part holds comes from certain tokens if that of its own parts does, and its own. -/
theorem drawn_of_parts (own : ∀ leaf ∈ node.leaves, leaf.From tokens)
    (below : ∀ edge part, (edge, part) ∈ node.parts → part.Drawn tokens) :
    node.Drawn tokens := by
  -- A path leads nowhere, or to one of the parts first.
  intro edges target path
  cases path with
  | here => exact own
  | @down _ part _ edge edges first rest => exact below edge part first edges target rest

end Node

namespace Grammar

variable {source : List Token}

open Node

/-- A token with a name brings it along. -/
theorem from_identifier {token : Token} {name : String} (kind : token.kind = .identifier)
    (value : token.value = .text name) (member : token ∈ source) :
    (Leaf.name name).From source :=
  -- The leaf is the name that the token shows.
  ⟨token, member, Prod.ext kind value⟩

/-- The names of parameters come from the tokens. -/
theorem Names.drawn : ∀ {tokens : List Token} {names : List String} {n : Nat},
    Names tokens names n → tokens ⊆ source → ∀ name ∈ names, (Leaf.name name).From source
  -- The induction is on the commas: each name is that of its own token.
  | _, _, _, .last kind value, among => by
    rw [List.forall_mem_singleton]
    exact from_identifier kind value (among (List.mem_singleton_self _))
  | _, _, _, .more kind value _ rest, among => by
    simp only [List.cons_subset] at among
    obtain ⟨first, -, behind⟩ := among
    exact List.forall_mem_cons.mpr ⟨from_identifier kind value first, rest.drawn behind⟩

/-- Parameters come from the tokens, if there are any. -/
theorem Parameters.drawn {tokens : List Token} {names : List String} {n : Nat}
    (parameters : Parameters tokens names n) (among : tokens ⊆ source) :
    ∀ name ∈ names, (Leaf.name name).From source := by
  -- Without parameters there is no name.
  cases parameters with
  | none => nofun
  | some inner => exact inner.drawn among

mutual

/-- What an expression holds comes from its tokens. -/
theorem Expression.drawn : ∀ {tokens : List Token} {e : Expr} {n : Nat}, Expression tokens e n →
    tokens ⊆ source → (Node.expr e).Drawn source
  -- An expression is what stands on its weakest level.
  | _, _, _, .intro inner, among => inner.drawn among

/-- What an operand with operators behind it holds comes from its tokens. -/
theorem Level.drawn : ∀ {strength : Nat} {tokens : List Token} {e : Expr} {n : Nat},
    Level strength tokens e n → tokens ⊆ source → (Node.expr e).Drawn source
  -- The tokens of the operators come behind those of the first operand.
  | _, _, _, _, .chain _ head tail, among => by
    rw [List.append_subset] at among
    exact tail.drawn among.2 (head.drawn among.1)
  | _, _, _, _, .operand inner, among => inner.drawn among

/-- Operators keep what is to their left, and add what their right sides hold. -/
theorem Tail.drawn : ∀ {strength : Nat} {left : Expr} {tokens : List Token} {e : Expr} {n : Nat},
    Tail strength left tokens e n → tokens ⊆ source → (Node.expr left).Drawn source →
      (Node.expr e).Drawn source
  | _, _, _, _, _, .done, _, before => before
  | _, _, _, _, _, .more _ operand rest, among, before => by
    simp only [List.cons_subset, List.append_subset] at among
    obtain ⟨-, front, back⟩ := among
    have behind := operand.drawn front
    -- The tree to the left takes in the operand before the rest of the operators.
    refine rest.drawn back (drawn_of_parts nofun fun edge part member => ?_)
    simp only [parts, List.mem_cons, List.not_mem_nil, or_false] at member
    rcases member with same | same
    · cases same
      exact before
    · cases same
      exact behind

/-- What an operand with a sign holds comes from its tokens. -/
theorem Unary.drawn : ∀ {tokens : List Token} {e : Expr} {n : Nat}, Unary tokens e n →
    tokens ⊆ source → (Node.expr e).Drawn source
  -- The sign is no leaf, so that everything comes from the tokens behind it.
  | _, _, _, .operator _ inner, among => by
    rw [List.cons_subset] at among
    have inside := inner.drawn among.2
    refine drawn_of_parts nofun fun edge part member => ?_
    cases List.mem_singleton.mp member
    exact inside
  | _, _, _, .primary inner, among => inner.drawn among

/-- A name or a literal comes from its own token. -/
theorem Primary.drawn : ∀ {tokens : List Token} {e : Expr} {n : Nat}, Primary tokens e n →
    tokens ⊆ source → (Node.expr e).Drawn source
  | _, _, _, .identifier kind value, among => by
    refine drawn_of_parts (List.forall_mem_singleton.mpr ?_) nofun
    exact from_identifier kind value (among (List.mem_singleton_self _))
  | _, _, _, .call kind value _ inner _, among => by
    simp only [List.cons_subset, List.append_subset] at among
    obtain ⟨first, -, middle, -⟩ := among
    have inside := inner.drawn middle
    -- The callee is in front of the parenthesis, and the arguments are behind it.
    refine drawn_of_parts (List.forall_mem_singleton.mpr (from_identifier kind value first)) ?_
    intro edge part member
    obtain ⟨argument, own, same⟩ := List.mem_map.mp member
    cases same
    exact inside argument own
  | _, _, _, .number kind value, among | _, _, _, .string kind value, among => by
    refine drawn_of_parts (List.forall_mem_singleton.mpr ?_) nofun
    exact ⟨_, among (List.mem_singleton_self _), Prod.ext kind value⟩
  | _, _, _, .trueWord _, _ | _, _, _, .falseWord _, _ => drawn_of_parts nofun nofun
  | _, _, _, .parenthesized _ inner _, among => by
    simp only [List.cons_subset, List.append_subset] at among
    exact inner.drawn among.2.1

/-- What arguments hold comes from their tokens. -/
theorem Arguments.drawn : ∀ {tokens : List Token} {arguments : List Expr} {n : Nat},
    Arguments tokens arguments n → tokens ⊆ source →
      ∀ e ∈ arguments, (Node.expr e).Drawn source
  -- Without arguments there is nothing to hold.
  | _, _, _, .none, _ => nofun
  | _, _, _, .some inner, among => inner.drawn among

/-- What each of some expressions holds comes from the tokens of all. -/
theorem Expressions.drawn : ∀ {tokens : List Token} {expressions : List Expr} {n : Nat},
    Expressions tokens expressions n → tokens ⊆ source →
      ∀ e ∈ expressions, (Node.expr e).Drawn source
  -- The induction is on the commas: each expression keeps to its own tokens.
  | _, _, _, .last only, among => List.forall_mem_singleton.mpr (only.drawn among)
  | _, _, _, .more first _ rest, among => by
    simp only [List.cons_subset, List.append_subset] at among
    obtain ⟨front, -, back⟩ := among
    exact List.forall_mem_cons.mpr ⟨first.drawn front, rest.drawn back⟩

end

/-- What an item holds comes from certain tokens if its own names do, and what its values and the
items of its blocks hold. -/
theorem drawn_item {item : Item} (edge : Edge) (values : List Expr) (items : List Item)
    (same : (Node.item item).parts =
      (values.map fun e => (edge, .expr e)) ++ items.map fun part => (.body, .item part))
    (own : ∀ leaf ∈ (Node.item item).leaves, leaf.From source)
    (expressions : ∀ e ∈ values, (Node.expr e).Drawn source)
    (blocks : ∀ part ∈ items, (Node.item part).Drawn source) : (Node.item item).Drawn source := by
  -- The parts are the values, and behind them the items of all blocks.
  refine drawn_of_parts own fun edge' part member => ?_
  rw [same, List.mem_append, List.mem_map, List.mem_map] at member
  rcases member with ⟨value, among, same⟩ | ⟨inner, among, same⟩
  · cases same
    exact expressions value among
  · cases same
    exact blocks inner among

/-- What an item without blocks holds comes from certain tokens if its own name does, and what its
value holds. -/
theorem drawn_valued {item : Item} {e : Expr} (edge : Edge)
    (same : (Node.item item).parts = [(edge, .expr e)])
    (own : ∀ leaf ∈ (Node.item item).leaves, leaf.From source)
    (value : (Node.expr e).Drawn source) : (Node.item item).Drawn source :=
  -- It is an item with one value, and without any items inside.
  drawn_item edge [e] [] same own (List.forall_mem_singleton.mpr value) nofun

/-- What a function holds comes from certain tokens if its name and parameters do, and its body. -/
theorem drawn_function {line : Nat} {name : Option String} {parameters : List String}
    {body : List Item} (named : ∀ own ∈ name.toList, (Leaf.name own).From source)
    (listed : ∀ parameter ∈ parameters, (Leaf.name parameter).From source)
    (inner : ∀ part ∈ body, (Node.item part).Drawn source) :
    (Node.item (.function line name parameters body)).Drawn source := by
  -- A function without a name has its parameters only.
  refine drawn_item .value [] body rfl (fun leaf member => ?_) nofun inner
  obtain ⟨own, among, rfl⟩ := List.mem_map.mp member
  exact (List.mem_append.mp among).elim (named own) (listed own)

mutual

/-- What items hold comes from their tokens. -/
theorem Items.drawn : ∀ {tokens : List Token} {items : List Item} {n : Nat}, Items tokens items n →
    tokens ⊆ source → ∀ item ∈ items, (Node.item item).Drawn source
  -- The induction is on the row: each item keeps to its own tokens.
  | _, _, _, .none, _ => nofun
  | _, _, _, .more first rest, among => by
    rw [List.append_subset] at among
    exact List.forall_mem_cons.mpr ⟨first.drawn among.1, rest.drawn among.2⟩

/-- What an item holds comes from its tokens. -/
theorem TopStatement.drawn : ∀ {tokens : List Token} {item : Item} {n : Nat},
    TopStatement tokens item n → tokens ⊆ source → (Node.item item).Drawn source
  -- Each sort of item has its own lemma below.
  | _, _, _, .statement inner, among | _, _, _, .function inner, among
  | _, _, _, .lambda inner, among => inner.drawn among

/-- What a function with a name holds comes from its tokens. -/
theorem Function.drawn : ∀ {tokens : List Token} {item : Item} {n : Nat}, Function tokens item n →
    tokens ⊆ source → (Node.item item).Drawn source
  -- Its own name is the second token, and its parameters and its body stand further behind.
  | _, _, _, .intro _ kind value _ parameters _ body, among => by
    simp only [List.cons_subset, List.append_subset] at among
    obtain ⟨-, second, -, front, -, back⟩ := among
    refine drawn_function ?_ (parameters.drawn front) (body.drawn back)
    exact List.forall_mem_singleton.mpr (from_identifier kind value second)

/-- What a function without a name holds comes from its tokens. -/
theorem Lambda.drawn : ∀ {tokens : List Token} {item : Item} {n : Nat}, Lambda tokens item n →
    tokens ⊆ source → (Node.item item).Drawn source
  -- It has no name of its own.
  | _, _, _, .intro _ _ parameters _ body, among => by
    simp only [List.cons_subset, List.append_subset] at among
    obtain ⟨-, -, front, -, back⟩ := among
    exact drawn_function nofun (parameters.drawn front) (body.drawn back)

/-- What the items of a block hold comes from the tokens between its braces. -/
theorem Block.drawn : ∀ {tokens : List Token} {items : List Item} {n : Nat}, Block tokens items n →
    tokens ⊆ source → ∀ item ∈ items, (Node.item item).Drawn source
  -- The braces around the items hold nothing.
  | _, _, _, .intro _ inner _, among => by
    simp only [List.cons_subset, List.append_subset] at among
    exact inner.drawn among.2.1

/-- What a statement holds comes from its tokens. -/
theorem Statement.drawn : ∀ {tokens : List Token} {item : Item} {n : Nat}, Statement tokens item n →
    tokens ⊆ source → (Node.item item).Drawn source
  | _, _, _, .ifThen _ _ test _ body, among => by
    simp only [List.cons_subset, List.append_subset] at among
    obtain ⟨-, -, front, -, back⟩ := among
    have condition := test.drawn front
    exact drawn_item .value [_] _ rfl nofun (List.forall_mem_singleton.mpr condition)
      (body.drawn back)
  | _, _, _, .ifThenElse _ _ test _ body _ other, among => by
    simp only [List.cons_subset, List.append_subset] at among
    obtain ⟨-, -, front, -, middle, -, back⟩ := among
    have condition := test.drawn front
    exact drawn_item .value [_] (_ ++ _) rfl nofun (List.forall_mem_singleton.mpr condition)
      (List.forall_mem_append.mpr ⟨body.drawn middle, other.drawn back⟩)
  | _, _, _, .assignment kind value _ inner _, among => by
    simp only [List.cons_subset, List.append_subset] at among
    obtain ⟨first, -, middle, -⟩ := among
    have name := List.forall_mem_singleton.mpr (from_identifier kind value first)
    exact drawn_valued .value rfl name (inner.drawn middle)
  | _, _, _, .declaration _ kind value _ inner _, among => by
    simp only [List.cons_subset, List.append_subset] at among
    obtain ⟨-, second, -, middle, -⟩ := among
    have name := List.forall_mem_singleton.mpr (from_identifier kind value second)
    exact drawn_valued .value rfl name (inner.drawn middle)
  | _, _, _, .returned _ inner _, among => by
    simp only [List.cons_subset, List.append_subset] at among
    exact drawn_valued .value rfl nofun (inner.drawn among.2.1)
  -- An expression that stands alone is on the line of its first token, which is part of it.
  | _, _, _, .expression inner _, among => by
    simp only [List.cons_subset, List.append_subset] at among
    have value := inner.drawn (List.cons_subset.mpr ⟨among.1, among.2.1⟩)
    exact drawn_valued .plain rfl nofun value

end

/-- What a program holds comes from its tokens. -/
theorem Source.drawn {tokens : List Token} {program : Program} {n : Nat}
    (whole : Source tokens program n) (among : tokens ⊆ source) :
    (Node.program program).Drawn source := by
  -- A program has no leaves of its own; its parts are the items.
  cases whole with
  | intro inner =>
    refine drawn_of_parts nofun fun edge part member => ?_
    obtain ⟨item, own, same⟩ := List.mem_map.mp member
    cases same
    exact inner.drawn among item own

end Grammar

end Scriptlet
