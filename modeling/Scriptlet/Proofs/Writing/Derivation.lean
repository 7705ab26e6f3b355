import Scriptlet.Proofs.Grammar.Opening
import Scriptlet.Proofs.Writing.Spelling

/-! The grammar derives a tree from what is written for it, and nests it no deeper than there are
tokens. -/

namespace Scriptlet

namespace Lexeme

/-- Tokens that are those of some lexemes, on whatever lines. -/
def Spell (lexemes : List Lexeme) (tokens : List Token) : Prop :=
  tokens.map Token.content = contents lexemes

variable {lexeme : Lexeme} {front back more : List Lexeme} {tokens : List Token}

/-- No tokens are those of no lexemes. -/
theorem spell_nil_iff : Spell [] tokens ↔ tokens = [] :=
  -- Nothing is meant by no lexemes.
  List.map_eq_nil_iff

/-- Tokens of lexemes in a row are those of both parts. -/
theorem spell_append_iff : Spell (front ++ back) tokens ↔
    ∃ first later, tokens = first ++ later ∧ Spell front first ∧ Spell back later := by
  -- What lexemes in a row mean is what both parts mean.
  rw [Spell, contents, List.filterMap_append]
  exact List.map_eq_append_iff

/-- The first token is that of the first lexeme. -/
theorem Spell.cons {kind : TokenKind} {value : TokenValue} (spell : Spell (lexeme :: more) tokens)
    (own : lexeme.content? = some (kind, value)) :
    ∃ token later, tokens = token :: later ∧ token.kind = kind ∧ token.value = value ∧
      Spell more later := by
  -- The first lexeme means something, and that is what the first token tells.
  rw [Spell, contents, List.filterMap_cons_some own] at spell
  obtain ⟨token, later, rfl, content, rest⟩ := List.map_eq_cons_iff.mp spell
  exact ⟨token, later, rfl, congrArg Prod.fst content, congrArg Prod.snd content, rest⟩

/-- The token of a mark is of its kind. -/
theorem Spell.mark {kind : TokenKind} (spell : Spell (.mark kind :: more) tokens) :
    ∃ token later, tokens = token :: later ∧ token.kind = kind ∧ Spell more later := by
  -- A mark means its kind.
  obtain ⟨token, later, rfl, same, -, rest⟩ := spell.cons rfl
  exact ⟨token, later, rfl, same, rest⟩

/-- The token of a mark that stands alone is of its kind. -/
theorem Spell.only {kind : TokenKind} (spell : Spell [.mark kind] tokens) :
    ∃ token, tokens = [token] ∧ token.kind = kind := by
  -- Behind the token of the mark no token is left.
  obtain ⟨token, later, rfl, same, rest⟩ := spell.mark
  obtain rfl := spell_nil_iff.mp rest
  exact ⟨token, rfl, same⟩

/-- The token of a keyword is of its kind. -/
theorem Spell.keyword {kind : TokenKind} (spell : Spell (.keyword kind :: more) tokens)
    (known : kind ∈ TokenKind.keywords) :
    ∃ token later, tokens = token :: later ∧ token.kind = kind ∧ Spell more later := by
  -- The word is looked up, and found to be the keyword that it spells.
  have own : TokenKind.ofWord (kind.spelling?.getD "") = kind := by
    revert known
    cases kind <;> decide
  obtain ⟨token, later, rfl, same, -, rest⟩ := spell.cons rfl
  refine ⟨token, later, rfl, ?_, rest⟩
  rw [same, String.ofList_toList]
  exact own

/-- The token of a name is an identifier. -/
theorem Spell.name {name : String} (spell : Spell (.word name.toList :: more) tokens)
    (isName : IsName name) :
    ∃ token later, tokens = token :: later ∧ token.kind = .identifier ∧
      token.value = .text name ∧ Spell more later := by
  -- A name is none of the keywords.
  have own : TokenKind.ofWord name = .identifier := by
    unfold TokenKind.ofWord
    rw [isName.free]
    rfl
  obtain ⟨token, later, rfl, same, value, rest⟩ := spell.cons rfl
  rw [String.ofList_toList] at same value
  exact ⟨token, later, rfl, same.trans own, value, rest⟩

end Lexeme

/-- Every expression binds as strongly as some operator at least, and no more than an operand. -/
theorem Expr.strength_bounds (e : Expr) : 1 ≤ e.strength ∧ e.strength ≤ 7 := by
  -- Only operators between operands bind less than an operand does.
  cases e with
  | binary operator =>
    exact ⟨operator.weakest_le_precedence, Nat.le_succ_of_le operator.precedence_le_six⟩
  | _ => exact ⟨by simp [strength], by simp [strength]⟩

namespace Grammar

open Lexeme

variable {decimals : Decimals} {tokens : List Token}

/-- A primary expression stands on the level of operands. -/
theorem Primary.level {e : Expr} {n : Nat} (inner : Primary tokens e n) : Level 7 tokens e n :=
  -- No sign stands in front of it.
  .operand (.primary inner)

/-- Where an operand is written it is derived, in parentheses if it binds too weakly. -/
theorem derives_enclosedBelow {e : Expr} {lexemes : List Lexeme} {minimum : Nat}
    (derives : ∀ tokens, Spell lexemes tokens →
      ∃ n, Level e.strength tokens e n ∧ n < tokens.length)
    (below : minimum ≤ 7) (spell : Spell (enclosedBelow minimum e.strength lexemes) tokens) :
    ∃ n, Level minimum tokens e n ∧ n < tokens.length := by
  rw [enclosedBelow] at spell
  split at spell
  · -- In parentheses stands an expression of any strength, one level deeper.
    obtain ⟨opening, later, rfl, opened, spell⟩ := spell.mark
    obtain ⟨inner, last, rfl, written, spell⟩ := spell_append_iff.mp spell
    obtain ⟨closing, rfl, closed⟩ := spell.only
    obtain ⟨n, level, shallow⟩ := derives inner written
    have enclosed :=
      Primary.parenthesized opened (.intro (level.lift e.strength_bounds.1)) closed
    exact ⟨n + 1, enclosed.level.lift below,
      by simp only [List.length_cons, List.length_append]; omega⟩
  · obtain ⟨n, level, shallow⟩ := derives tokens spell
    exact ⟨n, level.lift (by omega), shallow⟩

mutual

/-- What is written for an expression derives it. -/
theorem derives_level : ∀ e : Expr, e.Writable decimals → ∀ tokens,
    Spell (e.lexemes decimals) tokens → ∃ n, Level e.strength tokens e n ∧ n < tokens.length
  | .identifier name, writable, tokens, spell => by
    obtain ⟨token, later, rfl, kind, value, rest⟩ := Spell.name spell writable
    obtain rfl := spell_nil_iff.mp rest
    exact ⟨0, (Primary.identifier kind value).level, Nat.zero_lt_one⟩
  | .number value, writable, tokens, spell => by
    obtain ⟨token, later, rfl, kind, same, rest⟩ := Spell.cons spell (content?_number writable)
    obtain rfl := spell_nil_iff.mp rest
    exact ⟨0, (Primary.number kind same).level, Nat.zero_lt_one⟩
  | .string payload, writable, tokens, spell => by
    obtain ⟨token, later, rfl, kind, value, rest⟩ := Spell.cons spell rfl
    obtain rfl := spell_nil_iff.mp rest
    rw [String.ofList_toList] at value
    exact ⟨0, (Primary.string kind value).level, Nat.zero_lt_one⟩
  | .boolean true, _, tokens, spell => by
    obtain ⟨token, later, rfl, kind, rest⟩ := Spell.keyword spell (by decide)
    obtain rfl := spell_nil_iff.mp rest
    exact ⟨0, (Primary.trueWord kind).level, Nat.zero_lt_one⟩
  | .boolean false, _, tokens, spell => by
    obtain ⟨token, later, rfl, kind, rest⟩ := Spell.keyword spell (by decide)
    obtain rfl := spell_nil_iff.mp rest
    exact ⟨0, (Primary.falseWord kind).level, Nat.zero_lt_one⟩
  | .unary operator operand, writable, tokens, spell => by
    obtain ⟨mark, later, rfl, kind, rest⟩ := Spell.mark spell
    obtain ⟨n, level, shallow⟩ :=
      derives_enclosedBelow (derives_level operand writable) (Nat.le_refl 7) rest
    -- On the level of operands no chain of operators stands.
    cases level with
    | chain weak => exact absurd weak (by decide)
    | operand inner =>
      exact ⟨n + 1, .operand (.operator (sign_iff.mpr kind) inner), Nat.succ_lt_succ shallow⟩
  | .binary operator left right, writable, tokens, spell => by
    have weak := operator.precedence_le_six
    obtain ⟨front, later, rfl, written, spell⟩ := spell_append_iff.mp spell
    obtain ⟨mark, back, rfl, kind, spell⟩ := spell.mark
    obtain ⟨n, head, shallow⟩ :=
      derives_enclosedBelow (derives_level left writable.1) (by omega) written
    obtain ⟨m, operand, shallow'⟩ :=
      derives_enclosedBelow (derives_level right writable.2) (by omega) spell
    -- The left side may be a chain of the same strength, which goes on with the operator.
    exact ⟨max n m, head.snoc kind operand,
      by simp only [List.length_cons, List.length_append]; omega⟩
  | .call callee arguments, writable, tokens, spell => by
    obtain ⟨token, later, rfl, kind, value, spell⟩ := Spell.name spell writable.1
    obtain ⟨opening, later, rfl, opened, spell⟩ := spell.mark
    obtain ⟨inner, last, rfl, written, spell⟩ := spell_append_iff.mp spell
    obtain ⟨closing, rfl, closed⟩ := spell.only
    obtain ⟨n, whole, shallow⟩ := derives_arguments arguments writable.2 inner written
    exact ⟨n, (Primary.call kind value opened whole closed).level,
      by simp only [List.length_cons, List.length_append]; omega⟩

/-- What is written for the arguments of a call derives them. -/
theorem derives_arguments : ∀ arguments : List Expr, Expr.AllWritable decimals arguments →
    ∀ tokens, Spell (Expr.allLexemes decimals arguments) tokens →
      ∃ n, Arguments tokens arguments n ∧ n ≤ tokens.length
  -- The induction follows the commas; each argument stands on the weakest level, whatever it is.
  | [], _, tokens, spell => by
    obtain rfl := spell_nil_iff.mp spell
    exact ⟨0, .none, Nat.le_refl 0⟩
  | [e], writable, tokens, spell => by
    obtain ⟨n, level, shallow⟩ := derives_level e writable.1 tokens spell
    exact ⟨n + 1, .some (.last (.intro (level.lift e.strength_bounds.1))), shallow⟩
  | e :: second :: more, writable, tokens, spell => by
    obtain ⟨front, later, rfl, written, spell⟩ := spell_append_iff.mp spell
    obtain ⟨comma, back, rfl, separated, spell⟩ := spell.mark
    obtain ⟨n, level, shallow⟩ := derives_level e writable.1 front written
    obtain ⟨m, whole, shallow'⟩ := derives_arguments (second :: more) writable.2 back spell
    cases whole with
    | some rest =>
      exact ⟨max (n + 1) m, .some (.more (.intro (level.lift e.strength_bounds.1)) separated rest),
        by simp only [List.length_cons, List.length_append]; omega⟩

end

/-- What is written for an expression derives it, one level deeper. -/
theorem derives_expression {e : Expr} (writable : e.Writable decimals)
    (spell : Spell (e.lexemes decimals) tokens) :
    ∃ n, Expression tokens e n ∧ n ≤ tokens.length := by
  -- An expression that stands on some level stands on the weakest one as well.
  obtain ⟨n, level, shallow⟩ := derives_level e writable tokens spell
  exact ⟨n + 1, .intro (level.lift e.strength_bounds.1), shallow⟩

/-- What is written for an expression and its semicolon derives the expression. -/
theorem derives_ended {e : Expr} (writable : e.Writable decimals)
    (spell : Spell (e.lexemes decimals ++ [.mark .semicolon]) tokens) :
    ∃ inner semicolon n, tokens = inner ++ [semicolon] ∧ Expression inner e n ∧
      semicolon.kind = .semicolon ∧ n ≤ inner.length := by
  -- The last of the tokens is the semicolon, and those in front of it are the expression.
  obtain ⟨inner, last, rfl, written, spell⟩ := spell_append_iff.mp spell
  obtain ⟨semicolon, rfl, ended⟩ := spell.only
  obtain ⟨n, whole, shallow⟩ := derives_expression writable written
  exact ⟨inner, semicolon, n, rfl, whole, ended, shallow⟩

/-- What is written for parameters derives them. -/
theorem derives_parameters {parameters : List String}
    (areNames : ∀ parameter ∈ parameters, IsName parameter)
    (spell : Spell (names parameters) tokens) : Parameters tokens parameters 0 := by
  -- The induction follows the commas between the names.
  induction parameters generalizing tokens with
  | nil =>
    obtain rfl := spell_nil_iff.mp spell
    exact .none
  | cons first more ih =>
    have isName := areNames first (by simp)
    cases more with
    | nil =>
      obtain ⟨token, later, rfl, kind, value, rest⟩ := Spell.name spell isName
      obtain rfl := spell_nil_iff.mp rest
      exact .some (.last kind value)
    | cons second more =>
      obtain ⟨token, later, rfl, kind, value, spell⟩ := Spell.name spell isName
      obtain ⟨comma, later, rfl, separated, spell⟩ := spell.mark
      have later := ih (fun parameter member => areNames parameter (List.mem_cons_of_mem _ member))
        spell
      cases later with
      | some rest => exact .some (.more kind value separated rest)

/-- What is written for items in braces derives a block of them. -/
theorem derives_block {items : List Item}
    (derives : ∀ tokens, Spell (Item.allLexemes decimals items) tokens →
      ∃ items' n, Items tokens items' n ∧
        Item.mapAllLines (fun _ => 0) items' = Item.mapAllLines (fun _ => 0) items ∧
        n ≤ tokens.length)
    (spell : Spell (braced (Item.allLexemes decimals items)) tokens) :
    ∃ items' n, Block tokens items' n ∧
      Item.mapAllLines (fun _ => 0) items' = Item.mapAllLines (fun _ => 0) items ∧
      n ≤ tokens.length := by
  -- The first and the last token are the braces, and the items stand between them.
  obtain ⟨opening, later, rfl, opened, spell⟩ := spell.mark
  obtain ⟨inner, last, rfl, written, spell⟩ := spell_append_iff.mp spell
  obtain ⟨closing, rfl, closed⟩ := spell.only
  obtain ⟨items', n, whole, same, shallow⟩ := derives inner written
  exact ⟨items', n + 1, .intro opened whole closed, same,
    by simp only [List.length_cons, List.length_append]; omega⟩

mutual

/-- What is written for an item derives it, up to the lines where it stands. -/
theorem derives_item : ∀ item : Item, item.Writable decimals → ∀ tokens,
    Spell (item.lexemes decimals) tokens → ∃ item' n, TopStatement tokens item' n ∧
      item'.mapLines (fun _ => 0) = item.mapLines (fun _ => 0) ∧ n ≤ tokens.length
  | .ifThen _ condition consequent, writable, tokens, spell => by
    obtain ⟨keyword, later, rfl, led, spell⟩ := Spell.keyword spell (by decide)
    obtain ⟨opening, later, rfl, opened, spell⟩ := spell.mark
    obtain ⟨front, later, rfl, written, spell⟩ := spell_append_iff.mp spell
    obtain ⟨closing, back, rfl, closed, spell⟩ := spell.mark
    obtain ⟨n, test, shallow⟩ := derives_expression writable.1 written
    obtain ⟨items, m, body, same, shallow'⟩ :=
      derives_block (derives_items consequent writable.2) spell
    exact ⟨_, _, .statement (.ifThen led opened test closed body),
      by rw [Item.mapLines, Item.mapLines, same],
      by simp only [List.length_cons, List.length_append]; omega⟩
  | .ifThenElse _ condition consequent alternative, writable, tokens, spell => by
    obtain ⟨keyword, later, rfl, led, spell⟩ := Spell.keyword spell (by decide)
    obtain ⟨opening, later, rfl, opened, spell⟩ := spell.mark
    obtain ⟨front, later, rfl, written, spell⟩ := spell_append_iff.mp spell
    obtain ⟨closing, later, rfl, closed, spell⟩ := spell.mark
    obtain ⟨middle, later, rfl, block, spell⟩ := spell_append_iff.mp spell
    obtain ⟨otherwise, back, rfl, continued, spell⟩ := Spell.keyword spell (by decide)
    obtain ⟨n, test, shallow⟩ := derives_expression writable.1 written
    obtain ⟨items, m, body, same, shallow'⟩ :=
      derives_block (derives_items consequent writable.2.1) block
    obtain ⟨others, k, other, same', shallow''⟩ :=
      derives_block (derives_items alternative writable.2.2) spell
    exact ⟨_, _, .statement (.ifThenElse led opened test closed body continued other),
      by rw [Item.mapLines, Item.mapLines, same, same'],
      by simp only [List.length_cons, List.length_append]; omega⟩
  | .assignment _ name value, writable, tokens, spell => by
    obtain ⟨token, later, rfl, kind, content, spell⟩ := Spell.name spell writable.1
    obtain ⟨equals, later, rfl, assigned, spell⟩ := spell.mark
    obtain ⟨inner, semicolon, n, rfl, whole, ended, shallow⟩ := derives_ended writable.2 spell
    exact ⟨_, n, .statement (.assignment kind content assigned whole ended), rfl,
      by simp only [List.length_cons, List.length_append]; omega⟩
  | .returned _ value, writable, tokens, spell => by
    obtain ⟨keyword, later, rfl, led, spell⟩ := Spell.keyword spell (by decide)
    obtain ⟨inner, semicolon, n, rfl, whole, ended, shallow⟩ := derives_ended writable spell
    exact ⟨_, n, .statement (.returned led whole ended), rfl,
      by simp only [List.length_cons, List.length_append]; omega⟩
  | .declaration _ name value, writable, tokens, spell => by
    obtain ⟨keyword, later, rfl, led, spell⟩ := Spell.keyword spell (by decide)
    obtain ⟨token, later, rfl, kind, content, spell⟩ := Spell.name spell writable.1
    obtain ⟨equals, later, rfl, assigned, spell⟩ := spell.mark
    obtain ⟨inner, semicolon, n, rfl, whole, ended, shallow⟩ := derives_ended writable.2 spell
    exact ⟨_, n, .statement (.declaration led kind content assigned whole ended), rfl,
      by simp only [List.length_cons, List.length_append]; omega⟩
  | .expression _ value, writable, tokens, spell => by
    obtain ⟨inner, semicolon, n, rfl, whole, ended, shallow⟩ := derives_ended writable spell
    obtain ⟨first, more, rfl, -⟩ := whole.exists_first
    -- An item that begins with a name nests its expression one level less.
    have deeper : (if first.kind = .identifier then n - 1 else n) ≤ n := by
      split <;> omega
    exact ⟨_, _, .statement (.expression whole ended), rfl,
      by simp only [List.length_cons, List.length_append] at shallow ⊢; omega⟩
  | .function _ (some name) parameters body, writable, tokens, spell => by
    obtain ⟨keyword, later, rfl, led, spell⟩ := Spell.keyword spell (by decide)
    obtain ⟨token, later, rfl, kind, content, spell⟩ := Spell.name spell (writable.1 name rfl)
    obtain ⟨opening, later, rfl, opened, spell⟩ := spell.mark
    obtain ⟨front, later, rfl, written, spell⟩ := spell_append_iff.mp spell
    obtain ⟨closing, back, rfl, closed, spell⟩ := spell.mark
    have listed := derives_parameters writable.2.1 written
    obtain ⟨items, n, block, same, shallow⟩ :=
      derives_block (derives_items body writable.2.2) spell
    exact ⟨_, _, .function (.intro led kind content opened listed closed block),
      by rw [Item.mapLines, Item.mapLines, same],
      by simp only [List.length_cons, List.length_append]; omega⟩
  | .function _ none parameters body, writable, tokens, spell => by
    obtain ⟨keyword, later, rfl, led, spell⟩ := Spell.keyword spell (by decide)
    obtain ⟨opening, later, rfl, opened, spell⟩ := spell.mark
    obtain ⟨front, later, rfl, written, spell⟩ := spell_append_iff.mp spell
    obtain ⟨closing, back, rfl, closed, spell⟩ := spell.mark
    have listed := derives_parameters writable.2.1 written
    obtain ⟨items, n, block, same, shallow⟩ :=
      derives_block (derives_items body writable.2.2) spell
    exact ⟨_, _, .lambda (.intro led opened listed closed block),
      by rw [Item.mapLines, Item.mapLines, same],
      by simp only [List.length_cons, List.length_append]; omega⟩

/-- What is written for items one after another derives them, up to the lines where they stand. -/
theorem derives_items : ∀ items : List Item, Item.AllWritable decimals items → ∀ tokens,
    Spell (Item.allLexemes decimals items) tokens → ∃ items' n, Items tokens items' n ∧
      Item.mapAllLines (fun _ => 0) items' = Item.mapAllLines (fun _ => 0) items ∧
      n ≤ tokens.length
  -- The tokens fall into those of the first item and those of the others.
  | [], _, tokens, spell => by
    obtain rfl := spell_nil_iff.mp spell
    exact ⟨[], 0, .none, rfl, Nat.le_refl 0⟩
  | item :: items, writable, tokens, spell => by
    obtain ⟨front, back, rfl, written, spell⟩ := spell_append_iff.mp spell
    obtain ⟨item', n, first, same, shallow⟩ := derives_item item writable.1 front written
    obtain ⟨items', m, rest, same', shallow'⟩ := derives_items items writable.2 back spell
    exact ⟨item' :: items', max n m, .more first rest,
      by rw [Item.mapAllLines, Item.mapAllLines, same, same'],
      by simp only [List.length_append]; omega⟩

end

end Grammar

end Scriptlet
