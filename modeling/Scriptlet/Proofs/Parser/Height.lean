import Scriptlet.Proofs.Grammar.Nesting
import Scriptlet.Proofs.Tree.Height
import Scriptlet.Proofs.Writing.RoundTrip

/-! The limit on nesting bounds how high expressions are only as far as each chain of operators of
the same precedence counts once: such chains are read by going on, and not by going down. -/

namespace Scriptlet

open Grammar Lexeme

namespace Node

variable {n : Nat}

/-- Each of the six precedences and the operand itself count at most once on every level. -/
theorem building_standing :
    Building fun strength n e => e.standing strength + strength ≤ 8 * n + 9 where
  atom {e} empty := by
    -- Without parts an expression is a leaf, or a call without arguments.
    have low : e.chainHeight ≤ 1 := by
      cases e with
      | unary | binary => cases empty
      | call callee arguments =>
        obtain rfl := List.map_eq_nil_iff.mp empty
        exact Nat.le_refl 1
      | _ => exact Nat.le_refl 1
    have bound : e.standing 7 ≤ e.chainHeight + 1 := Expr.standing_le
    omega
  sign {operator e n} operand := by
    have own : e.chainHeight ≤ e.standing 7 := Expr.le_standing
    have bound : (Expr.unary operator e).standing 7 ≤ e.chainHeight + 1 + 1 := Expr.standing_le
    omega
  call {callee arguments n} inner := by
    -- Without arguments a call is a leaf, and otherwise its arguments lie one level down.
    have bound : (Expr.call callee arguments).standing 7 ≤ Expr.chainHeights arguments + 1 + 1 :=
      Expr.standing_le
    have low : Expr.chainHeights arguments ≤ 8 * n := by
      refine Expr.chainHeights_le_iff.mpr fun e member => ?_
      obtain ⟨m, room, built⟩ := inner e member
      have own : e.chainHeight ≤ e.standing 1 := Expr.le_standing
      omega
    omega
  enclosed {e n} inner := by
    have own : e.chainHeight ≤ e.standing 1 := Expr.le_standing
    have bound : e.standing 7 ≤ e.chainHeight + 1 := Expr.standing_le
    omega
  lower {strength e n} whole := by
    have own : e.chainHeight ≤ e.standing (strength + 1) := Expr.le_standing
    have bound : e.standing strength ≤ e.chainHeight + 1 := Expr.standing_le
    omega
  joint {strength kind operator left right n m} joint before behind := by
    -- The chain to the left goes on, and the operand to the right begins one level higher.
    obtain ⟨-, rfl⟩ := joint_iff.mp joint
    have own : right.chainHeight ≤ right.standing (operator.precedence + 1) := Expr.le_standing
    rw [Expr.standing_binary, Expr.chainHeight_binary]
    omega

/-- No expression in a part is higher than eight for each of so many levels and the one above. -/
def Low (n : Nat) (node : Node) : Prop :=
  ∀ edges e, node.Path edges (.expr e) → e.chainHeight ≤ 8 * (n + 1)

/-- An expression that nests no deeper than so many levels is low. -/
theorem low_of_level {tokens : List Token} {e : Expr} (level : Grammar.Level 1 tokens e n) :
    (Node.expr e).Low n := by
  -- An expression inside is no higher than the whole one, whose height its derivation bounds.
  intro edges inner path
  have below := Expr.chainHeight_le_of_path path
  have built : e.standing 1 + 1 ≤ 8 * n + 9 := level.built building_standing
  have own : e.chainHeight ≤ e.standing 1 := Expr.le_standing
  omega

/-- A part that is no expression is low if its own parts are. -/
theorem low_of_parts {node : Node} (noExpr : ∀ e, node ≠ .expr e)
    (below : ∀ edge part, (edge, part) ∈ node.parts → ∃ m ≤ n, part.Low m) : node.Low n := by
  -- A path to an expression goes through one of the parts.
  intro edges e path
  cases path with
  | here => exact absurd rfl (noExpr e)
  | @down _ part _ edge edges first rest =>
    obtain ⟨m, room, low⟩ := below edge part first
    have own := low edges e rest
    omega

/-- An item is low as its parts are. -/
theorem low_item {item : Item} (deepens : Deepens (fun n item => (Node.item item).Low n) n item) :
    (Node.item item).Low n := by
  -- Its values are derived one level further down, and so are the items of its blocks.
  refine low_of_parts (fun _ same => by cases same) fun edge part member => ?_
  rcases deepens.part_cases member with
    ⟨tokens, e, m, rfl, room, level⟩ | ⟨inner, m, rfl, room, low⟩
  · exact ⟨m, by omega, low_of_level level⟩
  · exact ⟨m, by omega, low⟩

/-- A program is low as its derivation nests. -/
theorem low_program {tokens : List Token} {program : Program} (whole : Source tokens program n) :
    (Node.program program).Low n := by
  -- Every item is low, as the derivation of the items keeps them.
  refine low_of_parts (fun _ same => by cases same) fun edge part member => ?_
  obtain ⟨item, m, rfl, room, low⟩ := whole.holds (fun _ _ => low_item) member
  exact ⟨m, by omega, low⟩

end Node

namespace Expr

/-- A variable with itself added to it so many times. -/
def repeated : Nat → Expr
  | 0 => .identifier "x"
  | n + 1 => .binary .add (repeated n) (.identifier "x")

/-- Every addition is one higher than the one before it. -/
theorem height_repeated (n : Nat) : (repeated n).height = n + 1 := by
  -- The right operand is a name, so that the left one counts.
  induction n with
  | zero => rfl
  | succ n ih =>
    rw [repeated, height, ih, height]
    omega

/-- Every addition can be written. -/
theorem writable_repeated (decimals : Decimals) (n : Nat) : (repeated n).Writable decimals := by
  -- All operands are the same name.
  have isName : IsName "x" := ⟨⟨'x', [], rfl, .inl rfl, by simp⟩, by decide⟩
  induction n with
  | zero => exact isName
  | succ n ih => exact ⟨ih, isName⟩

/-- No addition needs parentheses. -/
theorem lexemes_repeated (decimals : Decimals) (n : Nat) : (repeated (n + 1)).lexemes decimals =
    (repeated n).lexemes decimals ++ [.mark .plus, .word "x".toList] := by
  -- The left operand is an addition too, which binds as strongly, or a name.
  have strong : ¬ (repeated n).strength < BinaryOperator.add.precedence := by
    cases n <;> exact of_decide_eq_false rfl
  rw [repeated, lexemes, enclosedBelow, if_neg strong]
  rfl

/-- However many additions there are, what is written for them derives them without nesting. -/
theorem level_repeated {decimals : Decimals} (n : Nat) {tokens : List Token}
    (spell : Spell ((repeated n).lexemes decimals) tokens) :
    Grammar.Level BinaryOperator.add.precedence tokens (repeated n) 0 ∧
      ∃ first more, tokens = first :: more ∧ first.kind = .identifier := by
  -- One operator more goes on with the chain on the same level, and enters none.
  have isName : IsName "x" := writable_repeated decimals 0
  induction n generalizing tokens with
  | zero =>
    obtain ⟨token, later, rfl, kind, value, rest⟩ := Spell.name spell isName
    obtain rfl := spell_nil_iff.mp rest
    exact ⟨(Primary.identifier kind value).level.lift (by decide), token, [], rfl, kind⟩
  | succ n ih =>
    rw [lexemes_repeated] at spell
    obtain ⟨front, back, rfl, written, spell⟩ := spell_append_iff.mp spell
    obtain ⟨mark, later, rfl, spelled, spell⟩ := spell.mark
    obtain ⟨token, later, rfl, kind, value, rest⟩ := spell.name isName
    obtain rfl := spell_nil_iff.mp rest
    obtain ⟨level, first, more, rfl, leading⟩ := ih written
    have operand : Grammar.Level (BinaryOperator.add.precedence + 1) [token] (.identifier "x") 0 :=
      (Primary.identifier kind value).level.lift (by decide)
    exact ⟨level.snoc spelled operand, first, _, rfl, leading⟩

/-- However many additions there are, they are read without a defect, whatever the limit. -/
theorem parseWithin_repeated (decimals : Decimals) (limit n : Nat) :
    let source := Program.written decimals ⟨[.expression 1 (repeated n)]⟩
    (parseWithin limit source).diagnostics = [] ∧
      ∃ line, (parseWithin limit source).program = ⟨[.expression line (repeated n)]⟩ := by
  intro source
  have writable : Program.Writable decimals ⟨[.expression 1 (repeated n)]⟩ :=
    ⟨writable_repeated decimals n, trivial⟩
  obtain ⟨spell, clean⟩ := Program.scan_written writable
  rw [Item.allLexemes, Item.allLexemes, List.append_nil, Item.lexemes] at spell
  obtain ⟨front, back, split, written, spell⟩ := spell_append_iff.mp spell
  obtain ⟨semicolon, rfl, ended⟩ := spell.only
  obtain ⟨level, first, more, rfl, leading⟩ := level_repeated n written
  -- In front of a variable, the level of the whole expression does not count.
  have statement := Statement.expression (.intro (level.lift (by decide))) ended
  rw [if_pos leading] at statement
  have whole : Source (tokenize source) ⟨[.expression first.line (repeated n)]⟩ 0 := by
    have items := Items.more (.statement statement) .none
    rw [List.append_nil] at items
    exact split ▸ .intro items
  obtain ⟨accepted, read⟩ := parseWithin_of_source whole (Nat.zero_le limit)
  refine ⟨Output.diagnostics_eq_nil _ accepted ?_, first.line, read⟩
  rw [lexicalErrors_parseWithin, clean]

end Expr

/-- Whatever a source holds, no expression in the program that is read is higher than eight for each
level that the limit allows and the one above, when a chain of operators of the same precedence,
folded to the left, counts once. With each of these operators counted there is no such bound: for
every limit there are sources without a defect that have expressions of any height. -/
theorem chainHeight_le_of_limit :
    (∀ (limit : Nat) (source : String) (edges : List Edge) (e : Expr),
      (Node.program (parseWithin limit source).program).Path edges (.expr e) →
        e.chainHeight ≤ 8 * (limit + 1)) ∧
    ∀ limit height : Nat, ∃ source, (parseWithin limit source).diagnostics = [] ∧
      ∃ edges e, (Node.program (parseWithin limit source).program).Path edges (.expr e) ∧
        height ≤ e.height := by
  -- A program that is read has a derivation within the limit; without the folding, repeated
  -- additions are read at any limit.
  refine ⟨fun limit source edges e path => ?_, fun limit height => ?_⟩
  · obtain ⟨kept, n, -, whole, room, -⟩ := parseWithin_reads limit source
    have low := Node.low_program whole edges e path
    omega
  · obtain ⟨clean, line, read⟩ := Expr.parseWithin_repeated (fun _ => ([], [])) limit height
    refine ⟨_, clean, [.plain, .plain], Expr.repeated height, ?_, ?_⟩
    · rw [read]
      exact .down (List.mem_singleton_self _) (.down (List.mem_singleton_self _) (.here _))
    · rw [Expr.height_repeated]
      exact Nat.le_succ height

/-- Eight additions in a row make an expression higher than eight, though the limit allows no
nesting. -/
theorem height_exceeds_limit :
    ¬ ∀ edges e, (Node.program (parseWithin 0 "x+x+x+x+x+x+x+x+x;").program).Path edges (.expr e) →
      e.height ≤ 8 * (0 + 1) := by
  -- The source is read as eight additions, each one higher than the one before.
  intro bounded
  have read : (parseWithin 0 "x+x+x+x+x+x+x+x+x;").program =
      ⟨[.expression 1 (Expr.repeated 8)]⟩ := by decide +kernel
  have low := bounded [.plain, .plain] (Expr.repeated 8) (by
    rw [read]
    exact .down (List.mem_singleton_self _) (.down (List.mem_singleton_self _) (.here _)))
  exact absurd low (by rw [Expr.height_repeated]; decide)

end Scriptlet
