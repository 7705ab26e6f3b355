import Scriptlet.Proofs.Parser.Item

/-! The reader of items reads a program whatever is in front of it: an item that cannot be read is
dropped with the token that stopped it, and the reading goes on behind it. -/

namespace Scriptlet

namespace Parser

open Phrase Grammar

variable {p q r : Parser}

/-- What stands behind the items of a source or of a block. -/
def Closes (inBlock : Bool) : Boundary :=
  fun next => if inBlock then At .rightBrace next else next = none

/-- What the reading of items stops in front of. -/
def Finishes (inBlock : Bool) : Boundary :=
  fun next => next = none ∨ inBlock = true ∧ At .rightBrace next

/-- Items stop where a source or a block is over. -/
theorem Closes.finishes {inBlock : Bool} {next : Option Token} (closes : Closes inBlock next) :
    Finishes inBlock next := by
  -- A source is over at its end, and a block at a closing brace.
  cases inBlock with
  | true => exact .inr ⟨rfl, closes⟩
  | false => exact .inl closes

/-- Neither the end of a source nor that of a block goes on with a conditional. -/
theorem Finishes.noElse {inBlock : Bool} {next : Option Token} (finishes : Finishes inBlock next) :
    NoElse next := by
  -- The one token that items may stop in front of is a brace.
  intro goesOn
  obtain ⟨token, rfl, same⟩ := goesOn
  rcases finishes with none | ⟨-, closing, front, brace⟩
  · exact absurd none (by simp)
  · obtain rfl := Option.some.inj front
    exact absurd (same.symm.trans brace) (by decide)

/-- A parser is at the end of items where these stop. -/
theorem Ready.atEnd_iff (ready : p.Ready) (inBlock : Bool) :
    p.atEnd inBlock = true ↔ Finishes inBlock p.upcoming.head? := by
  -- Both look at the token in front, and at nothing else.
  have kind := ready.kind?_eq
  cases front : p.upcoming.head? with
  | none => simp [atEnd, kind, front, Finishes]
  | some token => simp [atEnd, kind, front, Finishes, At]

/-- Where items have not ended, there is a lookahead. -/
theorem lookahead_ne_none {inBlock : Bool} (unfinished : ¬ p.atEnd inBlock = true) :
    p.lookahead ≠ none := by
  -- Without a lookahead items end, inside of a block and outside.
  intro absent
  rw [atEnd, kind?, absent] at unfinished
  exact unfinished rfl

/-- Where items have not ended, a token is next. -/
theorem kind?_ne_none {inBlock : Bool} (unfinished : ¬ p.atEnd inBlock = true) :
    p.kind? ≠ none :=
  -- The lookahead is a token, and has a kind.
  fun absent => lookahead_ne_none unfinished (Option.map_eq_none_iff.mp absent)

section Recover

variable {α : Type} {phrase : Phrase α} {follow later : Boundary} {error : SyntaxError}

/-- Recovering records the defect, and drops the next token where items have not ended. -/
theorem recover_apply (error : SyntaxError) (inBlock : Bool) (p : Parser) :
    (recover error inBlock p).2 =
      if p.atEnd inBlock = true then p.record error else (p.record error).pull := by
  -- The test of the definition is the one for the end of the items.
  have ended : (p.lookahead.isNone ∨ (inBlock ∧ p.kind? = some .rightBrace)) ↔
      p.atEnd inBlock = true := by
    cases front : p.lookahead <;> simp [atEnd, kind?, front]
  show (if p.lookahead.isNone ∨ (inBlock ∧ p.kind? = some .rightBrace) then _ else _) = _
  simp only [ended]

/-- Recording a defect is a move that consumes nothing. -/
theorem Ready.moves_record (ready : p.Ready) (error : SyntaxError) :
    p.Moves (p.record error) [] [error] where
  -- Only the list of defects grows.
  ready := (ready.record error).1
  upcoming := (ready.record error).2.symm
  depth := rfl
  limit := rfl
  errors := syntaxErrors_record p error

/-- Recovering records the defect, and drops the token in front unless the items end there. -/
theorem Ready.moves_recover (ready : p.Ready) (error : SyntaxError) (inBlock : Bool) :
    ∃ dropped, p.Moves (recover error inBlock p).2 dropped [error] ∧
      (¬ Finishes inBlock p.upcoming.head? → dropped ≠ []) := by
  -- Recording consumes nothing, and the token that is dropped is the one in the way.
  have recorded := ready.moves_record error
  have same := (ready.record error).2
  rw [← ready.atEnd_iff, recover_apply]
  split
  next ended => exact ⟨[], recorded, fun unfinished => absurd ended unfinished⟩
  next drops =>
    obtain ⟨token, front⟩ := Option.ne_none_iff_exists'.mp (lookahead_ne_none drops)
    have head : (p.record error).upcoming.head? = some token := by
      rw [same, ready.head?_upcoming, front]
    have dropped := recorded.ready.moves_pull head
    exact ⟨[token], recorded.trans dropped, fun _ => List.cons_ne_nil _ _⟩

/-- Behind a dropped phrase, what is read next is all that is read. -/
theorem recovered {dropped : List Token} {a : α} {s : Parser}
    (fails : phrase.Fails follow p error q) (moves : q.Moves r dropped [error])
    (rest : phrase.Succeeds later r a s) (progress : r.upcoming.length < p.upcoming.length) :
    phrase.Succeeds follow p a s := by
  obtain ⟨consumed, recorded, before, blames, faulty⟩ := fails
  obtain ⟨behind, further, kept, n, after, sublist, whole, room, clean, -⟩ := rest
  -- The tokens of the dropped phrase count as consumed, and none of them is kept.
  have total := (before.trans moves).trans after
  have shorter := sublist.length_le
  have length : p.upcoming.length = (consumed ++ dropped).length + r.upcoming.length := by
    rw [(before.trans moves).upcoming, List.length_append]
  rw [(before.trans moves).limit, (before.trans moves).depth] at room
  refine ⟨_, _, kept, n, total, sublist.trans (List.sublist_append_right _ _), whole, room, ?_, ?_⟩
  · intro none
    simp at none
  · -- The first defect is the one that stopped the phrase, or one before it.
    intro first some
    have earliest : (recorded ++ [error]).head? = Option.some first := by
      cases recorded <;> simpa using some
    refine ⟨?_, faulty first earliest⟩
    rw [List.length_append]
    omega

end Recover

section Items

variable {bound : Nat} {inBlock : Bool}

/-- What is left of the items behind one that was read, or behind one that was dropped. -/
theorem itemsWithin_apply (bound : Nat) (inBlock : Bool) (p : Parser) :
    itemsWithin (bound + 1) inBlock p =
      if p.atEnd inBlock then ([], p)
      else match itemOf (itemsWithin bound true) (bound + 1) p with
        | .ok first q =>
          (first :: (itemsWithin bound inBlock q).1, (itemsWithin bound inBlock q).2)
        | .error error q => itemsWithin bound inBlock (recover error inBlock q).2 := by
  -- One round of the loop looks for the end, and otherwise tries to read one item.
  show (if p.atEnd inBlock = true then pure [] else _ : StateM Parser (List Item)) p = _
  cases p.atEnd inBlock with
  | true => rfl
  | false =>
    show (attempt (itemOf (itemsWithin bound true) (bound + 1)) >>= _ : StateM Parser _) p = _
    cases got : itemOf (itemsWithin bound true) (bound + 1) p with
    | ok first q =>
      simp only [attempt, got, bind, StateT.bind, Bool.false_eq_true, ↓reduceIte]
      rfl
    | error error q =>
      simp only [attempt, got, bind, StateT.bind, Bool.false_eq_true, ↓reduceIte]
      rfl

/-- Where items end, none is read. -/
theorem reads_noItem {size : Nat} :
    Reads size (Finishes inBlock) (pure ([] : List Item)) Items (Closes inBlock)
      (Finishes inBlock) := by
  -- Items begin with tokens that nothing may stop in front of.
  have nothing : Reads size (Finishes inBlock) (pure ([] : List Item)) (Empty []) (Closes inBlock)
      (Finishes inBlock) := reads_pure []
  refine nothing.widen (fun tokens items n whole => ?_) ?_
  · cases whole
    exact .none
  · intro head finishes tokens items n rest whole follows look
    cases whole with
    | none => exact ⟨.intro, follows⟩
    | more first =>
      -- No item begins with the brace that closes a block.
      obtain ⟨token, more, rfl, opens⟩ := first.exists_first
      rcases finishes with rfl | ⟨-, closing, rfl, brace⟩
      · exact absurd look (by simp)
      · obtain rfl := Option.some.inj look
        rw [brace] at opens
        exact absurd opens (by decide)

/-- An item and the items behind it are read in a row. -/
theorem reads_moreItems {items : Parse (List Item)}
    (first : Reads (bound + 1) (· ≠ none) (itemOf (itemsWithin bound true) (bound + 1))
      TopStatement NoElse anything)
    (rest : Reads bound anything items Items (Closes inBlock) (Finishes inBlock)) :
    Reads (bound + 1) (fun head => ¬ Finishes inBlock head)
      (itemOf (itemsWithin bound true) (bound + 1) >>= fun first =>
        items >>= fun rest => pure (first :: rest))
      Items (Closes inBlock) (Finishes inBlock) := by
  -- The first item takes a token at least, which leaves the smaller bound for the others.
  have start : Reads (bound + 1) (fun head => ¬ Finishes inBlock head)
      (itemOf (itemsWithin bound true) (bound + 1)) TopStatement NoElse anything :=
    first.mono (Nat.le_refl _) (fun head unfinished same => unfinished (.inl same)) (fun _ => id)
      fun _ => id
  have more (first : Item) : Reads bound anything (items >>= fun rest => pure (first :: rest))
      (Then Items fun rest => Empty (first :: rest)) (Closes inBlock) (Finishes inBlock) :=
    rest.bind (fun rest => reads_pure (first :: rest)) (joins_empty fun _ => id)
  have both := start.step more ?_ ?_
  · refine both.widen (fun tokens items n whole => ?_) ?_
    · obtain ⟨head, tail⟩ := whole
      obtain ⟨others, behind, rfl⟩ := (then_empty _).mp tail
      exact .more head behind
    · intro head unfinished tokens items n rest whole follows look
      cases whole with
      | more head tail => exact ⟨.intro head ((then_empty _).mpr ⟨_, tail, rfl⟩), follows⟩
      | none =>
        -- Without an item the end would be next.
        exact absurd (look ▸ follows.finishes) unfinished
  · -- No item begins like the alternative of a conditional.
    intro first tokens items n rest tail follows
    obtain ⟨others, behind, rfl⟩ := (then_empty _).mp tail
    cases behind with
    | none => exact follows.finishes.noElse
    | more head =>
      obtain ⟨token, more, rfl, opens⟩ := head.exists_first
      intro goesOn
      obtain ⟨other, front, same⟩ := goesOn
      obtain rfl := Option.some.inj front
      rw [same] at opens
      exact absurd opens (by decide)
  · intro tokens item n whole
    obtain ⟨token, more, rfl, -⟩ := whole.exists_first
    simp only [List.length_cons]
    omega

/-- The reader of items reads items, and drops what cannot be read. -/
theorem reads_itemsWithin (bound : Nat) (inBlock : Bool) :
    Reads bound anything (always (itemsWithin bound inBlock)) Items (Closes inBlock)
      (Finishes inBlock) := by
  -- The bound is on the tokens that are left, and each item takes one at least, read or dropped.
  induction bound generalizing inBlock with
  | zero =>
    exact (reads_noItem.mono (Nat.le_refl 0) (fun head none => .inl none) (fun _ => id)
      fun _ => id).exhausted
  | succ bound ih =>
    intro p ready fits _
    have body : Reads bound anything (always (itemsWithin bound true)) Items (At .rightBrace)
        anything := (ih true).loose
    have item := reads_itemOf body (Nat.le_refl (bound + 1))
    rw [show always (itemsWithin (bound + 1) inBlock) p =
      .ok (itemsWithin (bound + 1) inBlock p).1 (itemsWithin (bound + 1) inBlock p).2 from rfl,
      itemsWithin_apply]
    -- Either the items are over, or one is read or dropped.
    by_cases ended : p.atEnd inBlock = true
    · rw [if_pos ended]
      exact reads_noItem p ready fits ((ready.atEnd_iff inBlock).mp ended)
    · have unfinished := mt (ready.atEnd_iff inBlock).mpr ended
      have read := reads_moreItems item (ih inBlock) p ready fits unfinished
      rw [if_neg ended]
      rw [bind_apply] at read
      cases got : itemOf (itemsWithin bound true) (bound + 1) p with
      | ok first q =>
        rw [got] at read
        exact read
      | error error q =>
        rw [got] at read
        have fails : Fails Items (Closes inBlock) p error q := read
        obtain ⟨consumed, recorded, before, -⟩ := read
        obtain ⟨dropped, moves, takes⟩ := before.ready.moves_recover error inBlock
        -- The token that is dropped, or one before it, makes what is left shorter.
        have progress : (recover error inBlock q).2.upcoming.length < p.upcoming.length := by
          have some : consumed ++ dropped ≠ [] := by
            intro none
            obtain ⟨rfl, rfl⟩ := List.append_eq_nil_iff.mp none
            have stayed : p.upcoming = q.upcoming := before.upcoming
            exact takes (stayed ▸ unfinished) rfl
          have length := List.length_pos_iff.mpr some
          rw [(before.trans moves).upcoming, List.length_append]
          omega
        have later := ih inBlock (recover error inBlock q).2 moves.ready (by omega) trivial
        exact ⟨recovered fails moves later.1 progress, later.2⟩

end Items

end Parser

end Scriptlet
