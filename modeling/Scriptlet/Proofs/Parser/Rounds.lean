import Scriptlet.Proofs.Parser.Lasting

/-! Items are read in rounds, each of which gets an item or meets a defect, whatever bound the loop
has. -/

namespace Scriptlet

namespace Parser

variable {p q : Parser} {bound left : Nat} {inBlock : Bool} {items : List Item}
  {errors : List SyntaxError}

/-- Reading items one after another: a round gets an item, or it meets a defect, from which the
parser recovers in front of the next round. -/
inductive Rounds (inBlock : Bool) : Parser → List Item → List SyntaxError → Parser → Prop where
  /-- No item follows. -/
  | ended {p : Parser} (done : p.atEnd inBlock = true) : Rounds inBlock p [] [] p
  /-- An item is read. -/
  | read {p q r : Parser} {first : Item} {items : List Item} {errors : List SyntaxError}
      (unfinished : ¬ p.atEnd inBlock = true) (got : item p = .ok first q)
      (rest : Rounds inBlock q items errors r) : Rounds inBlock p (first :: items) errors r
  /-- A defect is met. -/
  | met {p q r : Parser} {error : SyntaxError} {items : List Item} {errors : List SyntaxError}
      (unfinished : ¬ p.atEnd inBlock = true) (got : item p = .error error q)
      (rest : Rounds inBlock (recover error inBlock q).2 items errors r) :
      Rounds inBlock p items (error :: errors) r

/-- Rounds go on up to the end. -/
theorem Rounds.atEnd (rounds : Rounds inBlock p items errors q) : q.atEnd inBlock = true := by
  -- The rounds before the end come to the same end.
  induction rounds with
  | ended done => exact done
  | read unfinished got rest ih => exact ih
  | met unfinished got rest ih => exact ih

/-- Beside itself, a ready parser reads the same item with the smallest bounds and with others. -/
theorem Ready.follows_itemOf (fits : p.upcoming.length ≤ bound)
    (fits' : p.upcoming.length ≤ left + 1) :
    lasting_ready.abreast.tandem.Follows .inside .after (· ≠ none) p.upcoming.length 1
      lasting_ready.abreast.tandem.SameItem
      (itemOf (itemsWithin (p.upcoming.length - 1) true) p.upcoming.length)
      (itemOf (itemsWithin left true) bound) := by
  -- The bodies read the same with the smallest bound and with a larger one, hence so do the items.
  have bodies := Tandem.follows_items (T := lasting_ready.abreast.tandem)
    (show p.upcoming.length - 1 ≤ left by omega) true
  rw [show itemsBlaming lasting_ready.abreast.tandem.blame (p.upcoming.length - 1) true =
    itemsWithin (p.upcoming.length - 1) true from
      funext (itemsBlaming_self (fun _ _ => rfl) _ true)] at bodies
  exact Tandem.follows_itemOf bodies fits (by omega)

/-- An item does not depend on the bounds, as long as they cover the tokens that are left. -/
theorem Ready.itemOf_eq (ready : p.Ready) (more : p.kind? ≠ none)
    (fits : p.upcoming.length ≤ bound) (fits' : p.upcoming.length ≤ left + 1) :
    itemOf (itemsWithin left true) bound p = item p := by
  have equal : ∀ first second : Item, lasting_ready.abreast.tandem.SameItem first second →
      second = first := by
    intro first second same
    simpa [eq_comm] using
      (show first.mapLines id = second.mapLines id from same)
  -- Both are the item that is read with the smallest bounds.
  have least {bound left : Nat} (fits : p.upcoming.length ≤ bound)
      (fits' : p.upcoming.length ≤ left + 1) : itemOf (itemsWithin left true) bound p =
        itemOf (itemsWithin (p.upcoming.length - 1) true) p.upcoming.length p :=
    lasting_ready.eq_of_follows equal (Ready.follows_itemOf fits fits') ready more (Nat.le_refl _)
  have covers := ready.length_upcoming_le
  rw [least fits fits', item, bounded, least covers (Nat.le_succ_of_le covers)]

/-- Reading an item leads on, over a token at least if the item is got. -/
theorem Ready.item_spends (ready : p.Ready) (more : p.kind? ≠ none) : match item p with
    | .ok _ q => q.Ready ∧ Spends 1 p q
    | .error _ q => q.Ready ∧ Spends 0 p q := by
  -- The item is the one that is read beside itself, with bounds that cover the tokens.
  have covers := ready.length_upcoming_le
  have agrees := (Ready.follows_itemOf covers (Nat.le_succ_of_le covers)).agrees
    lasting_ready.abreast.faithful ⟨ready, rfl⟩ more (Nat.le_refl _)
  rw [ready.itemOf_eq more (Nat.le_refl _) (by omega)] at agrees
  cases got : item p with
  | ok first q =>
    rw [got] at agrees
    obtain ⟨_, _, -, -, ⟨still, -⟩, spends⟩ := agrees
    exact ⟨still, spends⟩
  | error error q =>
    rw [got] at agrees
    obtain ⟨_, _, -, -, ⟨still, -⟩, spends⟩ := agrees
    exact ⟨still, spends⟩

/-- Items are read in rounds. -/
theorem Ready.rounds (ready : p.Ready) (fits : p.upcoming.length ≤ bound) (inBlock : Bool) :
    ∃ errors, Rounds inBlock p (itemsWithin bound inBlock p).1 errors
      (itemsWithin bound inBlock p).2 := by
  induction bound generalizing p with
  | zero =>
    -- No token is left.
    have empty := List.length_eq_zero_iff.mp (Nat.le_zero.mp fits)
    exact ⟨[], .ended ((ready.atEnd_iff inBlock).mpr (.inl (by rw [empty]; rfl)))⟩
  | succ bound ih =>
    rw [itemsWithin_apply]
    by_cases ended : p.atEnd inBlock = true
    · rw [if_pos ended]
      exact ⟨[], .ended ended⟩
    · have more := kind?_ne_none ended
      have spends := ready.item_spends more
      rw [if_neg ended, ready.itemOf_eq more fits fits]
      -- Whatever a round comes to, it leaves fewer tokens.
      cases got : item p with
      | ok first q =>
        rw [got] at spends
        have shorter := spends.2.length_le
        obtain ⟨errors, rest⟩ := ih spends.1 (by omega)
        exact ⟨errors, .read ended got rest⟩
      | error error q =>
        rw [got] at spends
        have shorter := (spends.2.recover spends.1
          (mt (ready.atEnd_iff inBlock).mpr ended) error).length_le
        obtain ⟨dropped, moves, -⟩ := spends.1.moves_recover error inBlock
        obtain ⟨errors, rest⟩ := ih moves.ready (by omega)
        exact ⟨error :: errors, .met ended got rest⟩

end Parser

end Scriptlet
