import Scriptlet.Proofs.Grammar.Phrase
import Scriptlet.Proofs.Parser.View

/-! What reading a phrase comes to: a meaning with the tokens that carry it, or a first defect at
the token that no phrase goes on with. -/

namespace Scriptlet

namespace SyntaxError

/-- A defect is met in front of these tokens. -/
def Blames (rest : List Token) : SyntaxError → Prop
  | .unexpectedToken found _ _ => rest.head? = some found
  | .unexpectedEnd _ _ => rest = []
  | .nestingTooDeep _ _ => True

/-- A defect is about the nesting limit. -/
def isNesting : SyntaxError → Bool
  | .nestingTooDeep _ _ => true
  | .unexpectedToken _ _ _ | .unexpectedEnd _ _ => false

end SyntaxError

namespace Parser

/-- One parser is behind another by some tokens, and has recorded some defects in between. -/
structure Moves (p q : Parser) (consumed : List Token) (recorded : List SyntaxError) : Prop where
  ready : q.Ready
  upcoming : p.upcoming = consumed ++ q.upcoming
  depth : q.depth = p.depth
  limit : q.limit = p.limit
  errors : q.syntaxErrors = p.syntaxErrors ++ recorded

/-- Moves in a row are one move. -/
theorem Moves.trans {p q r : Parser} {consumed later : List Token}
    {recorded further : List SyntaxError} (first : Moves p q consumed recorded)
    (second : Moves q r later further) :
    Moves p r (consumed ++ later) (recorded ++ further) where
  -- What is taken and what is recorded is joined, and the rest is kept by both moves.
  ready := second.ready
  upcoming := by rw [first.upcoming, second.upcoming, List.append_assoc]
  depth := second.depth.trans first.depth
  limit := second.limit.trans first.limit
  errors := by rw [second.errors, first.errors, List.append_assoc]

/-- Staying is a move. -/
theorem Ready.stays {p : Parser} (ready : p.Ready) : Moves p p [] [] where
  -- Nothing is taken and nothing is recorded.
  ready := ready
  upcoming := rfl
  depth := rfl
  limit := rfl
  errors := (List.append_nil _).symm

/-- Taking the lookahead is a move over one token. -/
theorem Ready.moves_pull {p : Parser} (ready : p.Ready) {token : Token}
    (front : p.upcoming.head? = some token) : Moves p p.pull [token] [] where
  -- A pull takes the first upcoming token and touches nothing else that is counted.
  ready := ready_pull ready.normal
  upcoming := upcoming_eq_cons (ready.head?_upcoming ▸ front)
  depth := rfl
  limit := rfl
  errors := by simp

end Parser

/-- The tokens that stand where a phrase ends, given the first of them. -/
abbrev Boundary :=
  Option Token → Prop

namespace Phrase

variable {α β : Type}

/-- No other phrase of this sort stands where these tokens do, seen up to the first one behind. -/
def Certain (phrase : Phrase α) (follow : Boundary) (consumed : List Token) (a : α)
    (next : Option Token) : Prop :=
  ∀ tokens b n rest behind, phrase tokens b n → follow rest.head? →
    tokens ++ rest = consumed ++ behind → behind.head? = next → tokens = consumed ∧ b = a

/-- A defect is met behind the first tokens of a phrase, at a token that no phrase goes on with,
unless the phrase nests deeper than is allowed. -/
structure Fault (phrase : Phrase α) (follow : Boundary) (p : Parser) (front back : List Token)
    (error : SyntaxError) : Prop where
  upcoming : p.upcoming = front ++ back
  blames : error.Blames back
  viable : error.isNesting = false → phrase.Viable front
  excluded : ∀ tokens b n rest behind, phrase tokens b n → follow rest.head? →
    tokens ++ rest = front ++ behind → behind.head? = back.head? →
      error.isNesting = true ∧ p.limit < p.depth + n

/-- A reader got a meaning: the tokens that it kept are a phrase with this meaning, it dropped
others exactly if it recorded a defect, and the first defect is where it has to be. -/
def Succeeds (phrase : Phrase α) (follow : Boundary) (p : Parser) (a : α) (q : Parser) : Prop :=
  ∃ consumed recorded kept n, p.Moves q consumed recorded ∧ kept.Sublist consumed ∧
    phrase kept a n ∧ n ≤ p.limit - p.depth ∧
    (recorded = [] → kept = consumed ∧ phrase.Certain follow consumed a q.upcoming.head?) ∧
    ∀ first, recorded.head? = some first →
      kept.length < consumed.length ∧ ∃ front back, phrase.Fault follow p front back first

/-- A reader stopped at a defect, and the first defect is where it has to be. -/
def Fails (phrase : Phrase α) (follow : Boundary) (p : Parser) (error : SyntaxError)
    (q : Parser) : Prop :=
  ∃ consumed recorded, p.Moves q consumed recorded ∧ error.Blames q.upcoming ∧
    ∀ first, (recorded ++ [error]).head? = some first →
      ∃ front back, phrase.Fault follow p front back first

section Sequence

variable {first : Phrase α} {second : α → Phrase β} {between follow : Boundary}

/-- What stands behind a first phrase is what a second one begins with, or what follows both. -/
def Joins (second : α → Phrase β) (between follow : Boundary) : Prop :=
  ∀ a tokens b n rest, second a tokens b n → follow rest.head? → between (tokens ++ rest).head?

/-- Two phrases in a row are certain if each of them is. -/
theorem Certain.then {consumed later : List Token} {a : α} {b : β} {next : Option Token}
    {rest : List Token} (front : first.Certain between consumed a (later ++ rest).head?)
    (back : (second a).Certain follow later b next) (same : rest.head? = next)
    (joins : Joins second between follow) :
    (Then first second).Certain follow (consumed ++ later) b next := by
  -- The first phrase ends where the second one begins, since both see the token behind it.
  rintro _ _ _ others behind ⟨head, tail⟩ follows equal look
  rw [List.append_assoc, List.append_assoc] at equal
  have seen : (later ++ behind).head? = (later ++ rest).head? := by
    cases later with
    | nil => exact look.trans same.symm
    | cons token later => rfl
  obtain ⟨rfl, rfl⟩ := front _ _ _ _ _ head (joins _ _ _ _ _ tail follows) equal seen
  obtain ⟨rfl, rfl⟩ := back _ _ _ _ _ tail follows (List.append_cancel_left equal) look
  exact ⟨rfl, rfl⟩

/-- A defect in a first phrase is one in both in a row. -/
theorem Fault.then {p : Parser} {front back : List Token} {error : SyntaxError}
    (fault : first.Fault between p front back error) (joins : Joins second between follow)
    [∀ a, (second a).Productive] :
    (Then first second).Fault follow p front back error where
  upcoming := fault.upcoming
  blames := fault.blames
  viable other := (fault.viable other).then
  excluded := by
    -- Whatever comes behind the first phrase of another pair, that phrase is excluded.
    rintro _ _ _ rest behind ⟨head, tail⟩ follows equal look
    rw [List.append_assoc] at equal
    obtain ⟨nesting, deep⟩ :=
      fault.excluded _ _ _ _ _ head (joins _ _ _ _ _ tail follows) equal look
    exact ⟨nesting, by omega⟩

/-- A defect in a second phrase, behind a certain first one, is one in both in a row. -/
theorem Fault.behind {p q : Parser} {consumed front back : List Token} {error : SyntaxError}
    {a : α} {n : Nat} (moves : p.Moves q consumed []) (head : first consumed a n)
    (certain : first.Certain between consumed a q.upcoming.head?)
    (fault : (second a).Fault follow q front back error) (joins : Joins second between follow) :
    (Then first second).Fault follow p (consumed ++ front) back error where
  upcoming := by rw [moves.upcoming, fault.upcoming, List.append_assoc]
  blames := fault.blames
  viable other := (fault.viable other).behind head
  excluded := by
    -- Another pair has the same first phrase, and its second one is excluded.
    rintro _ _ _ rest behind ⟨otherHead, tail⟩ follows equal look
    rw [List.append_assoc, List.append_assoc] at equal
    have seen : (front ++ behind).head? = q.upcoming.head? := by
      rw [fault.upcoming]
      cases front with
      | nil => exact look
      | cons token front => rfl
    obtain ⟨rfl, rfl⟩ := certain _ _ _ _ _ otherHead (joins _ _ _ _ _ tail follows) equal seen
    obtain ⟨nesting, deep⟩ :=
      fault.excluded _ _ _ _ _ tail follows (List.append_cancel_left equal) look
    rw [moves.limit, moves.depth] at deep
    exact ⟨nesting, by omega⟩

/-- Getting one meaning and then the other is getting both in a row. -/
theorem Succeeds.then {p q r : Parser} {a : α} {b : β} (front : first.Succeeds between p a q)
    (back : (second a).Succeeds follow q b r) (joins : Joins second between follow)
    [∀ a, (second a).Productive] :
    (Then first second).Succeeds follow p b r := by
  obtain ⟨consumed, recorded, kept, n, moves, sublist, head, room, clean, faulty⟩ := front
  obtain ⟨later, further, left, m, moves', sublist', tail, room', clean', faulty'⟩ := back
  refine ⟨consumed ++ later, recorded ++ further, kept ++ left, max n m, moves.trans moves',
    sublist.append sublist', .intro head tail, ?_, ?_, ?_⟩
  · rw [moves.depth, moves.limit] at room'
    omega
  -- Without defects nothing is dropped in either part.
  · intro none
    obtain ⟨rfl, rfl⟩ := List.append_eq_nil_iff.mp none
    obtain ⟨rfl, certain⟩ := clean rfl
    obtain ⟨rfl, certain'⟩ := clean' rfl
    rw [moves'.upcoming] at certain
    exact ⟨rfl, certain.then certain' rfl joins⟩
  -- The first defect is that of the first part, if it has one.
  · intro error some
    have shorter := sublist.length_le
    have shorter' := sublist'.length_le
    simp only [List.length_append]
    cases recorded with
    | cons earliest others =>
      obtain ⟨dropped, front, back, fault⟩ := faulty earliest rfl
      obtain rfl : earliest = error := by simpa using some
      exact ⟨by omega, front, back, fault.then joins⟩
    | nil =>
      obtain ⟨rfl, certain⟩ := clean rfl
      obtain ⟨dropped, front, back, fault⟩ := faulty' error some
      exact ⟨by omega, _, back, fault.behind moves head certain joins⟩

/-- Stopping at a first phrase is stopping at both in a row. -/
theorem Fails.then {p q : Parser} {error : SyntaxError} (front : first.Fails between p error q)
    (joins : Joins second between follow) [∀ a, (second a).Productive] :
    (Then first second).Fails follow p error q := by
  -- The defect lies in the first phrase.
  obtain ⟨consumed, recorded, moves, blames, faulty⟩ := front
  refine ⟨consumed, recorded, moves, blames, fun earliest some => ?_⟩
  obtain ⟨front, back, fault⟩ := faulty earliest some
  exact ⟨front, back, fault.then joins⟩

/-- Stopping at a second phrase is stopping at both in a row. -/
theorem Succeeds.thenFails {p q r : Parser} {a : α} {error : SyntaxError}
    (front : first.Succeeds between p a q) (back : (second a).Fails follow q error r)
    (joins : Joins second between follow) [∀ a, (second a).Productive] :
    (Then first second).Fails follow p error r := by
  obtain ⟨consumed, recorded, kept, n, moves, sublist, head, room, clean, faulty⟩ := front
  obtain ⟨later, further, moves', blames, faulty'⟩ := back
  refine ⟨consumed ++ later, recorded ++ further, moves.trans moves', blames,
    fun earliest some => ?_⟩
  rw [List.append_assoc] at some
  -- The first defect is that of the first part, if it has one.
  cases recorded with
  | cons early others =>
    obtain ⟨-, front, back, fault⟩ := faulty early rfl
    obtain rfl : early = earliest := by simpa using some
    exact ⟨front, back, fault.then joins⟩
  | nil =>
    obtain ⟨rfl, certain⟩ := clean rfl
    obtain ⟨front, back, fault⟩ := faulty' earliest some
    exact ⟨_, back, fault.behind moves head certain joins⟩

end Sequence

end Phrase

end Scriptlet
