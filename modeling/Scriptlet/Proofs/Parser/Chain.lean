import Scriptlet.Proofs.Parser.Detached
import Scriptlet.Proofs.Tree.Reading

/-! Operator chains are read as they fall apart at the last of their weakest operators, whatever the
operands between the operators are. -/

namespace Scriptlet

namespace Parser

variable {depth limit bound top minimum : Nat} {p : Parser} {tokens front back rest : List Token}
  {e : Expr}

/-- Some tokens in front of others are read as an operand, which stops exactly behind them. -/
def Spans (depth limit : Nat) (tokens behind : List Token) (e : Expr) : Prop :=
  ∃ p q : Parser, p.Ready ∧ p.depth = depth ∧ p.limit = limit ∧ p.upcoming = tokens ++ behind ∧
    operand p = .ok e q ∧ q.upcoming = behind

/-- Operators and operands one behind another, up to what is left. -/
inductive Linked (depth limit : Nat) : List Token → List Link → List Token → Prop where
  /-- There are no more of them. -/
  | done {rest : List Token} : Linked depth limit rest [] rest
  /-- The mark of an operator, and the tokens of an operand behind it. -/
  | more {mark : Token} {operator : BinaryOperator} {operand : Expr}
      {front back rest : List Token} {links : List Link} (spelled : mark.kind = operator.kind)
      (spans : Spans depth limit front back operand) (later : Linked depth limit back links rest) :
      Linked depth limit (mark :: (front ++ back)) ((operator, operand) :: links) rest

/-- A parser is ready in front of some tokens, on a given level. -/
structure Stands (depth limit : Nat) (tokens : List Token) (p : Parser) : Prop where
  ready : p.Ready
  upcoming : p.upcoming = tokens
  depth : p.depth = depth
  limit : p.limit = limit

/-- What is read as an operand from somewhere is read so from wherever its tokens come next. -/
theorem Spans.reads (spans : Spans depth limit front back e)
    (stands : Stands depth limit (front ++ back) p) (fits : p.upcoming.length ≤ bound) :
    ∃ q, operandWithin bound p = .ok e q ∧ Stands depth limit back q := by
  obtain ⟨p₀, q₀, ready₀, depth₀, limit₀, tokens₀, read, left⟩ := spans
  have same : p.upcoming = p₀.upcoming := stands.upcoming.trans tokens₀.symm
  have detached : p₀.Detached id id p := ⟨ready₀, stands.ready, by rw [same],
    stands.depth.trans depth₀.symm, stands.limit.trans limit₀.symm⟩
  -- The operand is the same with the smallest bound, and so it is for both parsers.
  have least : operandWithin p₀.upcoming.length p₀ = .ok e q₀ :=
    (ready₀.operandWithin_eq ready₀.length_upcoming_le (Nat.le_refl _)).trans read
  have follows : (Tandem.detached id id Tandem.covers_id).Follows .inside .inside Tandem.anywhere
      p₀.upcoming.length 0 (· = ·) (operandWithin p₀.upcoming.length) (operandWithin bound) :=
    Tandem.follows_operandWithin (same ▸ fits)
  have agrees := follows.agrees Tandem.faithful_detached detached trivial (Nat.le_refl _)
  rw [least] at agrees
  obtain ⟨_, q, got, rfl, still, -⟩ := agrees
  have moves := reads_operandWithin bound p stands.ready fits trivial
  rw [got] at moves
  obtain ⟨⟨_, _, _, _, moves, -⟩, -⟩ := moves
  exact ⟨q, got, moves.ready, (Detached.upcoming_eq still).trans left,
    moves.depth.trans stands.depth, moves.limit.trans stands.limit⟩

/-- Two parts of a chain stand one behind the other. -/
theorem Linked.split {links : List Link} (before : List Link)
    (linked : Linked depth limit tokens (before ++ links) rest) :
    ∃ between, Linked depth limit tokens before between ∧
      Linked depth limit between links rest := by
  -- By induction on the first part: each of its links reads on from where the one before it stops.
  induction before generalizing tokens with
  | nil => exact ⟨tokens, .done, linked⟩
  | cons link before ih =>
    cases linked with
    | more spelled spans later =>
      obtain ⟨between, first, second⟩ := ih later
      exact ⟨between, .more spelled spans first, second⟩

/-- Whatever stands behind a chain is no longer than what begins with it. -/
theorem Linked.length_le {links : List Link} (linked : Linked depth limit tokens links rest) :
    rest.length ≤ tokens.length := by
  -- Each operator takes a token at least.
  induction linked with
  | done => exact Nat.le_refl _
  | more spelled spans later ih =>
    simp only [List.length_cons, List.length_append]
    omega

/-- A chain begins with the mark of its first operator. -/
theorem Linked.stops {links : List Link} (linked : Linked depth limit tokens links rest)
    (stops : Below minimum rest.head?)
    (weaker : ∀ link, links.head? = some link → link.1.precedence < minimum) :
    Below minimum tokens.head? := by
  -- Without an operator it is what is left that stops the chain.
  cases linked with
  | done => exact stops
  | more spelled spans later =>
    refine below_of_some ?_ (weaker _ rfl)
    rw [spelled, BinaryOperator.ofKind?_kind]

section Steps

variable {operand : Parse Expr}

/-- Where no operator that is strong enough comes next, none is read. -/
theorem climb_of_below (ready : p.Ready) (below : Below minimum p.upcoming.head?) (left : Expr) :
    climb operand bound minimum left p = .ok left p := by
  cases bound with
  | zero => rfl
  | succ bound =>
    rw [climb, bind_apply, peek, ready.kind?_eq]
    cases found : (p.upcoming.head?.map Token.kind).bind BinaryOperator.ofKind? with
    | none => simp only [found]; rfl
    | some operator =>
      -- The operator that comes next is too weak.
      obtain ⟨kind, seen, spells⟩ := Option.bind_eq_some_iff.mp found
      obtain ⟨token, front, rfl⟩ := Option.map_eq_some_iff.mp seen
      simp only [found, below token operator front spells, ↓reduceIte]
      rfl

/-- An operator that is strong enough is read with its right side, and the loop goes on behind
it. -/
theorem climb_of_operator {mark : Token} {operator : BinaryOperator} {first right left : Expr}
    {q r : Parser} (front : p.lookahead = some mark) (spelled : mark.kind = operator.kind)
    (strong : minimum ≤ operator.precedence) (read : operand p.pull = .ok first q)
    (side : climb operand bound (operator.precedence + 1) first q = .ok right r) :
    climb operand (bound + 1) minimum left p =
      climb operand bound minimum (.binary operator left right) r := by
  -- The mark is passed over in front of the right side.
  have found : p.kind?.bind BinaryOperator.ofKind? = some operator := by
    rw [kind?, front, Option.map_some, spelled]
    exact BinaryOperator.ofKind?_kind operator
  rw [climb, bind_apply, peek]
  simp only [found, Nat.not_lt_of_le strong, ↓reduceIte]
  rw [bind_apply, skip_apply p front]
  simp only [bind_apply, read, side]

end Steps

/-- Behind an operand, the operators that are strong enough are read as they fall apart. -/
theorem Linked.climb {links : List Link} (linked : Linked depth limit tokens links rest)
    (stands : Stands depth limit tokens p) (fits : p.upcoming.length ≤ bound) (within : bound ≤ top)
    (strong : ∀ link ∈ links, minimum ≤ link.1.precedence) (stops : Below minimum rest.head?)
    (left : Expr) :
    ∃ q, climb (operandWithin top) bound minimum left p = .ok (left.ofChain links) q ∧
      Stands depth limit rest q := by
  -- Both the right side of the first operator and what comes later have fewer operators.
  induction count : links.length using Nat.strongRecOn
    generalizing links tokens rest p bound minimum left with
  | ind count ih =>
    cases linked with
    | done =>
      refine ⟨p, ?_, stands⟩
      rw [Expr.ofChain_nil]
      exact climb_of_below stands.ready (stands.upcoming ▸ stops) left
    | @more mark operator e front back _ links spelled spans linked =>
      obtain ⟨own, strong⟩ := List.forall_mem_cons.mp strong
      obtain ⟨look, ready, after⟩ := stands.ready.pull_of_cons stands.upcoming
      have behind : Stands depth limit (front ++ back) p.pull :=
        ⟨ready, after, stands.depth, stands.limit⟩
      rw [stands.upcoming, List.length_cons, List.length_append] at fits
      obtain ⟨bound, rfl⟩ : ∃ n, bound = n + 1 := ⟨bound - 1, by omega⟩
      have room : p.pull.upcoming.length ≤ top := by
        rw [behind.upcoming, List.length_append]
        omega
      obtain ⟨q, read, atBack⟩ := spans.reads behind room
      -- The right side takes the stronger operators that follow.
      obtain ⟨inner, later, rfl, above, weaker⟩ := Link.exists_stronger (operator, e) links
      obtain ⟨between, first, second⟩ := linked.split inner
      have shorter := second.length_le
      have shorter' := first.length_le
      rw [List.length_cons, List.length_append] at count
      have stops' : Below (operator.precedence + 1) between.head? :=
        second.stops (stops.mono (Nat.le_succ_of_le own)) fun link front =>
          Nat.lt_succ_of_le (weaker link front)
      have fits' : q.upcoming.length ≤ bound := by rw [atBack.upcoming]; omega
      obtain ⟨r, side, atBetween⟩ := ih inner.length (by omega) first atBack fits' (by omega) above
        stops' e rfl
      -- What comes later goes on behind the operator with its right side.
      have fits'' : r.upcoming.length ≤ bound := by rw [atBetween.upcoming]; omega
      obtain ⟨t, done, atRest⟩ := ih later.length (by omega) second atBetween fits'' (by omega)
        (fun link member => strong link (List.mem_append_right inner member)) stops
        (.binary operator left (e.ofChain inner)) rfl
      refine ⟨t, ?_, atRest⟩
      rw [climb_of_operator look spelled own read side, done, Expr.ofChain_cons left above weaker]

/-- A chain of operands is read as it falls apart at the last of its weakest operators, each side in
the same way, up to the first operator that is not strong enough; and in its order the tree is that
chain. -/
theorem chain_eq_ofChain (minimum : Nat) {links : List Link} {first : Expr} (ready : p.Ready)
    (stands : p.upcoming = front ++ back) (operand : Spans p.depth p.limit front back first)
    (linked : Linked p.depth p.limit back links rest)
    (strong : ∀ link ∈ links, minimum ≤ link.1.precedence) (stops : Below minimum rest.head?) :
    (∃ q, chain minimum p = .ok (first.ofChain links) q ∧ q.upcoming = rest ∧
      q.depth = p.depth ∧ q.limit = p.limit) ∧ (first.ofChain links).InOrder first links := by
  -- The bound that the parser gives its readers covers the chain.
  have fits := ready.length_upcoming_le
  obtain ⟨q, read, atBack⟩ := operand.reads ⟨ready, stands, rfl, rfl⟩ fits
  have fits' : q.upcoming.length ≤ p.unread := by
    refine Nat.le_trans ?_ fits
    rw [atBack.upcoming, stands, List.length_append]
    omega
  obtain ⟨r, climbs, atRest⟩ := linked.climb atBack fits' (Nat.le_refl _) strong stops first
  refine ⟨⟨r, ?_, atRest.upcoming, atRest.depth, atRest.limit⟩, first.inOrder_ofChain links⟩
  show chainOf (operandWithin p.unread) p.unread minimum p = _
  rw [chainOf, bind_apply, read]
  exact climbs

/-- What a source begins with is an operand if one is read there. -/
theorem spans_ofSource (source : String) (stands : tokenize source = front ++ back)
    (read : (match operand (ofSource source limit) with
      | .ok value q => some (value, q.upcoming)
      | .error _ _ => none) = some (e, back)) : Spans 0 limit front back e := by
  -- The parser of the source is in front of the tokens that are asked for.
  obtain ⟨ready, upcoming, depth, same, -⟩ := ofSource_view source limit
  cases got : operand (ofSource source limit) with
  | error error q =>
    rw [got] at read
    cases read
  | ok value q =>
    rw [got] at read
    obtain ⟨rfl, left⟩ := Prod.mk.inj (Option.some.inj read)
    exact ⟨_, q, ready, depth, same, upcoming.trans stands, got, left⟩

/-- The last of two signs of subtraction stands at the top, over a product behind the first one, and
a comparison is left. -/
theorem chain_eq_ofChain_subtract :
    ∃ q, chain 5 (ofSource "a - b * c - d < e" 3) = .ok (.binary .subtract (.binary .subtract
        (.identifier "a") (.binary .multiply (.identifier "b") (.identifier "c")))
        (.identifier "d")) q ∧
      q.upcoming = [.fixed .less 1, .word "e" 1] := by
  -- The four operands are read one by one, and the links put them in a chain.
  obtain ⟨ready, upcoming, depth, limit, -⟩ := ofSource_view "a - b * c - d < e" 3
  have a : Spans 0 3 [.word "a" 1] [.fixed .minus 1, .word "b" 1, .fixed .times 1, .word "c" 1,
      .fixed .minus 1, .word "d" 1, .fixed .less 1, .word "e" 1] (.identifier "a") :=
    spans_ofSource "a - b * c - d < e" (by decide +kernel) (by decide +kernel)
  have b : Spans 0 3 [.word "b" 1] [.fixed .times 1, .word "c" 1, .fixed .minus 1, .word "d" 1,
      .fixed .less 1, .word "e" 1] (.identifier "b") :=
    spans_ofSource "b * c - d < e" (by decide +kernel) (by decide +kernel)
  have c : Spans 0 3 [.word "c" 1] [.fixed .minus 1, .word "d" 1, .fixed .less 1, .word "e" 1]
      (.identifier "c") :=
    spans_ofSource "c - d < e" (by decide +kernel) (by decide +kernel)
  have d : Spans 0 3 [.word "d" 1] [.fixed .less 1, .word "e" 1] (.identifier "d") :=
    spans_ofSource "d < e" (by decide +kernel) (by decide +kernel)
  have linked : Linked 0 3 _
      [(.subtract, .identifier "b"), (.multiply, .identifier "c"), (.subtract, .identifier "d")]
      [.fixed .less 1, .word "e" 1] :=
    @Linked.more _ _ (.fixed .minus 1) _ _ _ _ _ _ rfl b
      (@Linked.more _ _ (.fixed .times 1) _ _ _ _ _ _ rfl c
        (@Linked.more _ _ (.fixed .minus 1) _ _ _ _ _ _ rfl d .done))
  obtain ⟨⟨q, read, left, -⟩, -⟩ := chain_eq_ofChain 5 ready (upcoming.trans (by decide +kernel))
    a linked (by decide) (below_of_some rfl (by decide))
  refine ⟨q, read.trans ?_, left⟩
  simp [Expr.ofChain, Link.splitWeakest, BinaryOperator.precedence]

end Parser

end Scriptlet
