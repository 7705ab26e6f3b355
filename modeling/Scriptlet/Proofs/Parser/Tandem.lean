import Scriptlet.Proofs.Parser.Recovery
import Scriptlet.Proofs.Tree.Lines

/-! Two parsers that read side by side: what keeps them together over every single step keeps them
together over the steps in a row. -/

namespace Scriptlet

namespace Parser

variable {α β : Type} {p q r : Parser}

/-- The defect of a parser that meets something else than it expects. -/
def defect (p : Parser) (expected : String) : SyntaxError :=
  match p.lookahead with
  | some token => .unexpectedToken token expected token.line
  | none => .unexpectedEnd expected p.currentLine

/-- The defect of a parser that has no level left. -/
def overflow (p : Parser) : SyntaxError :=
  .nestingTooDeep p.limit p.currentLine

/-- Where a reader came to an end. -/
def endOf : EStateM.Result SyntaxError Parser α → Parser
  | .ok _ q | .error _ q => q

/-- What a reader comes to, one level further out. -/
def raised : EStateM.Result SyntaxError Parser α → EStateM.Result SyntaxError Parser α
  | .ok a q => .ok a { q with depth := q.depth - 1 }
  | .error error q => .error error { q with depth := q.depth - 1 }

/-- Where no level is left, nothing is read one level deeper. -/
theorem nested_of_full (full : p.limit ≤ p.depth) (reader : Parse α) :
    nested reader p = .error p.overflow p := by
  -- The test comes first, so that the reader is never asked.
  rw [nested, if_pos full]
  rfl

/-- Where a level is left, it is entered and left again. -/
theorem nested_of_room (room : ¬ p.limit ≤ p.depth) (reader : Parse α) :
    nested reader p = raised (reader { p with depth := p.depth + 1 }) := by
  -- The level is taken back in the same way behind a result and behind a defect.
  rw [nested, if_neg room]
  cases reader { p with depth := p.depth + 1 } <;> rfl

/-- Why a reader stops. -/
inductive Obstacle where
  /-- Something else is expected than what is next. -/
  | unexpected (expected : String)
  /-- No level is left. -/
  | overflow

/-- The defect that a parser meets at an obstacle. -/
def meet (p : Parser) : Obstacle → SyntaxError
  | .unexpected expected => p.defect expected
  | .overflow => p.overflow

/-- A defect is one that a parser meets where it stands. -/
def Meets (p : Parser) (error : SyntaxError) : Prop :=
  ∃ obstacle, error = p.meet obstacle

/-- The depth makes no difference to the defect that is met at an obstacle. -/
theorem meet_depth (p : Parser) (depth : Nat) (obstacle : Obstacle) :
    ({ p with depth } : Parser).meet obstacle = p.meet obstacle := by
  -- A defect tells the token, the limit and the line, and none of them is the depth.
  cases obstacle <;> rfl

/-- Stopping gives the defect, and leaves the parser where it is. -/
theorem unexpected_apply (p : Parser) (expected : String) :
    (unexpected expected : Parse α) p = .error (p.defect expected) p := by
  -- The defect names the token, or the end of the source if there is none.
  unfold unexpected defect
  cases p.lookahead <;> rfl

/-- Passing over the lookahead moves on, unless there is none. -/
theorem skip_eq (p : Parser) : skip p = .ok () (if p.lookahead = none then p else p.pull) := by
  -- Where there is no token, taking it hands over nothing and changes nothing.
  cases front : p.lookahead with
  | none =>
    show (advance >>= fun _ => pure ()) p = _
    rw [bind_apply, advance, front]
    rfl
  | some token => simpa using skip_apply p front

/-- A token of a given kind is passed over if it is next, and decides what is read then. -/
theorem accept_bind_apply (kind : TokenKind) (yes no : Parse α) (p : Parser) :
    (accept kind >>= fun found => if found then yes else no) p =
      if p.kind? = some kind then (skip >>= fun _ => yes) p else no p := by
  -- Accepting a token that is next is the same as skipping it and taking the first way.
  rw [bind_apply, accept]
  by_cases found : p.kind? = some kind
  · obtain ⟨token, front, -⟩ := Option.map_eq_some_iff.mp found
    rw [if_pos found, if_pos found, bind_apply, skip_apply p front]
    rfl
  · rw [if_neg found, if_neg found]
    rfl

/-- What a parser has left is the end of what another one has, shorter by some tokens at least. -/
def Spends (cost : Nat) (p q : Parser) : Prop :=
  ∃ consumed, p.upcoming = consumed ++ q.upcoming ∧ cost ≤ consumed.length

/-- Staying spends nothing. -/
theorem spends_self (p : Parser) : Spends 0 p p :=
  -- No token has to be taken for it.
  ⟨[], rfl, Nat.le_refl 0⟩

/-- What is spent first and then is spent in all. -/
theorem Spends.trans {cost more : Nat} (first : Spends cost p q) (second : Spends more q r) :
    Spends (cost + more) p r := by
  -- The tokens that are taken later stand behind those that were taken first.
  obtain ⟨consumed, split, enough⟩ := first
  obtain ⟨later, split', enough'⟩ := second
  exact ⟨consumed ++ later, by rw [split, split', List.append_assoc], by simp; omega⟩

/-- Whoever spends some tokens spends fewer. -/
theorem Spends.mono {cost less : Nat} (spends : Spends cost p q) (fewer : less ≤ cost) :
    Spends less p q := by
  -- The same tokens were taken.
  obtain ⟨consumed, split, enough⟩ := spends
  exact ⟨consumed, split, Nat.le_trans fewer enough⟩

/-- What is spent is no longer left. -/
theorem Spends.length_le {cost : Nat} (spends : Spends cost p q) :
    q.upcoming.length + cost ≤ p.upcoming.length := by
  -- What was in front before is what was taken, and then what is left.
  obtain ⟨consumed, split, enough⟩ := spends
  rw [split, List.length_append]
  omega

/-- Moving on spends the lookahead. -/
theorem spends_pull (some : p.lookahead ≠ none) : Spends 1 p p.pull := by
  -- Of all tokens in front, it is the first one that is taken.
  obtain ⟨token, front⟩ := Option.ne_none_iff_exists'.mp some
  exact ⟨[token], upcoming_eq_cons front, Nat.le_refl 1⟩

end Parser

open Scriptlet.Parser

/-- The places between which readers go. -/
inductive Stage where
  /-- Inside of an item. -/
  | inside
  /-- Where an item may have ended. -/
  | after

/-- Two parsers that read side by side as long as the first one is worth following, with what keeps
them together over a single step. -/
structure Tandem where
  /-- The defect that the first parser records when it stops at one. -/
  blame : SyntaxError → Parser → SyntaxError
  /-- The lines of the first parser, as far as they matter. -/
  first : Nat → Nat
  /-- The lines of the second parser, as far as they matter. -/
  second : Nat → Nat
  /-- The parsers are in corresponding places inside of an item. -/
  beside : Parser → Parser → Prop
  /-- The parsers are in corresponding places where an item may have ended. -/
  arrived : Parser → Parser → Prop
  /-- Inside of an item the first parser need not be followed any further. -/
  lost : Parser → Prop
  /-- The first parser need not be followed any further, even if an item has ended. -/
  strayed : Parser → Prop
  /-- The first parser need not be followed behind a defect. -/
  hopeless : SyntaxError → Parser → Prop
  /-- The parsers meet corresponding defects where they stand. -/
  alike : SyntaxError → SyntaxError → Parser → Parser → Prop
  -- What both parsers see from corresponding places.
  ready : ∀ {p p'}, beside p p' → p.Ready
  look : ∀ {p p'}, beside p p' → p'.lookahead.map Token.content = p.lookahead.map Token.content
  line : ∀ {p p'}, beside p p' → p.lookahead ≠ none →
    first p.currentLine = second p'.currentLine
  covers : ∀ line, ∃ line', first line = second line'
  -- What one step of both makes of such places.
  pull : ∀ {p p'}, beside p p' → p.lookahead ≠ none → arrived p.pull p'.pull ∨ strayed p.pull
  record : ∀ {p p' e e'}, beside p p' → alike e e' p p' →
    beside (p.record (blame e p)) (p'.record e')
  deeper : ∀ {p p'}, beside p p' → p.depth < p.limit → p'.depth < p'.limit ∧
    beside { p with depth := p.depth + 1 } { p' with depth := p'.depth + 1 }
  full : ∀ {p p'}, beside p p' → p.limit ≤ p.depth → hopeless p.overflow p ∨
    p'.limit ≤ p'.depth ∧ alike p.overflow p'.overflow p p'
  back : ∀ {p p'}, beside p p' →
    beside { p with depth := p.depth - 1 } { p' with depth := p'.depth - 1 }
  stop : ∀ {p p'}, beside p p' → ∀ expected, hopeless (p.defect expected) p ∨
    alike (p.defect expected) (p'.defect expected) p p'
  alike_depth : ∀ {p p' e e'}, alike e e' p p' → ∀ depth depth',
    alike e e' { p with depth } { p' with depth := depth' }
  arrived_of_beside : ∀ {p p'}, beside p p' → arrived p p'
  -- Behind an item the first parser may be left alone, but only where none of both goes on with
  -- an alternative.
  settled : ∀ {p p'}, arrived p p' → beside p p' ∨
    lost p ∧ p.kind? ≠ some .elseWord ∧ p'.kind? ≠ some .elseWord
  -- What one step of the first parser alone makes of a place where it need not be followed.
  lost_of_strayed : ∀ {p}, strayed p → lost p
  strayed_pull : ∀ {p}, lost p → p.lookahead ≠ none → strayed p.pull
  lost_depth : ∀ {p}, lost p → ∀ depth, lost { p with depth }
  hopeless_of_lost : ∀ {p}, lost p → ∀ error, hopeless error p
  hopeless_depth : ∀ {p error}, hopeless error p → ∀ depth, hopeless error { p with depth }
  strayed_record : ∀ {p error}, hopeless error p → strayed (p.record (blame error p))

namespace Tandem

/-- Where both parsers count lines in the same way, each line corresponds to itself. -/
theorem covers_id (line : Nat) : ∃ line', id line = id line' :=
  -- Nothing has to be found for a line that is kept.
  ⟨line, rfl⟩

variable {α β : Type} (T : Tandem)

/-- The parsers are in corresponding places. -/
def Place : Stage → Parser → Parser → Prop
  | .inside => T.beside
  | .after => T.arrived

/-- The first parser need not be followed any further. -/
def Gone : Stage → Parser → Prop
  | .inside => T.lost
  | .after => T.strayed

/-- Reading came to an end at which the first parser need not be followed. -/
def Ends (stage : Stage) : EStateM.Result SyntaxError Parser α → Prop
  | .ok _ q => T.Gone stage q
  | .error error q => T.hopeless error q

/-- Reading from a parser came to the same end as reading from the other one. -/
def Agrees (stage : Stage) (cost : Nat) (same : α → α → Prop) (p : Parser) :
    EStateM.Result SyntaxError Parser α → EStateM.Result SyntaxError Parser α → Prop
  | .ok a q, other => ∃ b q', other = .ok b q' ∧ same a b ∧ T.Place stage q q' ∧ Spends cost p q
  | .error error q, other => ∃ error' q', other = .error error' q' ∧
    T.alike error error' q q' ∧ T.beside q q' ∧ Spends 0 p q

/-- A reader that starts where the first parser need not be followed ends where it need not. -/
def Loses (before behind : Stage) (starts : Option TokenKind → Prop) (reader : Parse α) : Prop :=
  ∀ p, T.Gone before p → starts p.kind? → T.Ends behind (reader p)

/-- Where at most so many tokens are left, two readers lead from corresponding places to
corresponding places, unless the first parser need no longer be followed. -/
structure Follows (before behind : Stage) (starts : Option TokenKind → Prop) (size cost : Nat)
    (same : α → α → Prop) (reader other : Parse α) : Prop where
  reads : ∀ p p', T.Place before p p' → starts p.kind? → p.upcoming.length ≤ size →
    T.Ends behind (reader p) ∨ T.Agrees behind cost same p (reader p) (other p')
  loses : T.Loses before behind starts reader

/-- The first parser is worth following wherever it goes. -/
structure Faithful : Prop where
  lost : ∀ {p}, ¬ T.lost p
  hopeless : ∀ {error p}, ¬ T.hopeless error p

/-- Readers that may start in front of anything. -/
def anywhere : Option TokenKind → Prop :=
  fun _ => True

variable {T} {before between behind : Stage} {starts : Option TokenKind → Prop}
  {size left cost more total : Nat} {same : α → α → Prop} {p p' : Parser}

/-- The parsers see tokens of one kind. -/
theorem kind?_eq (beside : T.beside p p') : p'.kind? = p.kind? := by
  -- What is told of a token is its kind and its value.
  have content := congrArg (Option.map Prod.fst) (T.look beside)
  rw [Option.map_map, Option.map_map] at content
  exact content

/-- The parsers see a token or they see none. -/
theorem lookahead_eq_none_iff (beside : T.beside p p') :
    p'.lookahead = none ↔ p.lookahead = none := by
  -- If the tokens tell the same, then there are two of them or none.
  rw [← Option.map_eq_none_iff, T.look beside, Option.map_eq_none_iff]

/-- Where the first parser is always followed, reading comes to the same end. -/
theorem Follows.agrees {reader other : Parse α}
    (follows : T.Follows before behind starts size cost same reader other)
    (faithful : T.Faithful) (place : T.Place before p p') (start : starts p.kind?)
    (fits : p.upcoming.length ≤ size) :
    T.Agrees behind cost same p (reader p) (other p') := by
  -- A parser that never gets lost leaves only the other way to end.
  refine (follows.reads p p' place start fits).resolve_left fun ends => ?_
  cases got : reader p with
  | error error q => exact faithful.hopeless (got ▸ ends : T.Ends behind (.error error q))
  | ok a q =>
    have gone : T.Ends behind (.ok a q) := got ▸ ends
    cases behind with
    | inside => exact faithful.lost gone
    | after => exact faithful.lost (T.lost_of_strayed gone)

section Combine

variable {reader other : Parse α} {next next' : α → Parse β} {same' : β → β → Prop}

/-- Readers in a row lose the first parser if each of them does. -/
theorem Loses.bind (first : T.Loses before between starts reader)
    (later : ∀ a, T.Loses between behind anywhere (next a)) :
    T.Loses before behind starts (reader >>= next) := by
  -- A defect of the first reader ends it all; otherwise the later one
  -- starts where that one got lost.
  intro p gone start
  have lost := first p gone start
  rw [bind_apply]
  cases got : reader p with
  | error error q =>
    rw [got] at lost
    exact lost
  | ok a q =>
    rw [got] at lost
    exact later a q lost trivial

/-- Readers that lead on side by side do so in a row. -/
theorem Follows.bind (first : T.Follows before between starts size cost same reader other)
    (enough : size ≤ left + cost) (sum : total ≤ cost + more)
    (later : ∀ a b, same a b → T.Follows between behind anywhere left more same' (next a) (next' b))
    (loses : ∀ a, T.Loses between behind anywhere (next a)) :
    T.Follows before behind starts size total same' (reader >>= next) (other >>= next') := by
  refine ⟨fun p p' place start fits => ?_, first.loses.bind loses⟩
  have reads := first.reads p p' place start fits
  rw [bind_apply, bind_apply]
  cases got : reader p with
  | error error q =>
    -- A defect of the first reader is one of both readers in a row.
    rw [got] at reads
    rcases reads with ends | ⟨error', q', stop, alike, beside, spends⟩
    · exact .inl ends
    · rw [stop]
      exact .inr ⟨error', q', rfl, alike, beside, spends⟩
  | ok a q =>
    rw [got] at reads
    rcases reads with gone | ⟨b, q', got', agree, place', spends⟩
    · exact .inl (loses a q gone trivial)
    · -- Behind the first reader fewer tokens are left.
      rw [got']
      have shorter := spends.length_le
      have read := (later a b agree).reads q q' place' trivial (by omega)
      show T.Ends behind (next a q) ∨ T.Agrees behind total same' p (next a q) (next' b q')
      refine read.imp_right fun agrees => ?_
      cases got'' : next a q with
      | error error r =>
        rw [got''] at agrees
        obtain ⟨error', r', stop, alike, beside, spends'⟩ := agrees
        exact ⟨error', r', stop, alike, beside, (spends.trans spends').mono (Nat.zero_le _)⟩
      | ok c r =>
        rw [got''] at agrees
        obtain ⟨d, r', done, agree', place'', spends'⟩ := agrees
        exact ⟨d, r', done, agree', place'', (spends.trans spends').mono sum⟩

/-- Readers of the same lead on in a row. -/
theorem Follows.then (first : T.Follows before between starts size cost (· = ·) reader other)
    (later : ∀ a, T.Follows between behind anywhere size more same' (next a) (next' a)) :
    T.Follows before behind starts size more same' (reader >>= next) (other >>= next') :=
  -- What both parsers spend first does not matter here, only what they spend later.
  first.bind (Nat.le_add_right _ _) (Nat.le_add_left _ _) (fun a _ agree => agree ▸ later a)
    fun a => (later a).loses

/-- Behind a reader that takes a token, one token less is left. -/
theorem Follows.past (first : T.Follows before between starts (left + 1) 1 (· = ·) reader other)
    (later : ∀ a, T.Follows between behind anywhere left more same' (next a) (next' a)) :
    T.Follows before behind starts (left + 1) more same' (reader >>= next) (other >>= next') :=
  -- The token that is taken pays for the smaller bound of the later readers.
  first.bind (Nat.le_refl _) (Nat.le_add_left _ _) (fun a _ agree => agree ▸ later a)
    fun a => (later a).loses

/-- Reading nothing stays where it is. -/
theorem follows_pure {a b : α} (agree : same a b) :
    T.Follows before before starts size 0 same (pure a) (pure b) :=
  -- Both parsers stay in place, and a lost one stays lost.
  ⟨fun p p' place _ _ => .inr ⟨b, p', rfl, agree, place, spends_self p⟩, fun _ gone _ => gone⟩

/-- What is read may be put into another form. -/
theorem Follows.map (first : T.Follows before behind starts size cost same reader other)
    {f g : α → β} (agree : ∀ a b, same a b → same' (f a) (g b)) :
    T.Follows before behind starts size cost same' (reader >>= fun a => pure (f a))
      (other >>= fun b => pure (g b)) :=
  -- The form is given when all has been read, by a reader that reads nothing.
  first.bind (Nat.le_add_right size _) (Nat.le_refl (cost + 0))
    (fun a b same => follows_pure (agree a b same))
    fun a => (follows_pure trivial : T.Follows behind behind anywhere size 0 (fun _ _ => True)
      (pure (f a)) (pure (f a))).loses

/-- Fewer tokens may be left. -/
theorem Follows.within {fewer : Nat}
    (follows : T.Follows before behind starts size cost same reader other)
    (small : fewer ≤ size) :
    T.Follows before behind starts fewer cost same reader other :=
  -- A bound that covers more tokens covers fewer.
  ⟨fun p p' place start fits => follows.reads p p' place start (Nat.le_trans fits small),
    follows.loses⟩

/-- Less may be asked of what is spent. -/
theorem Follows.spending {less : Nat}
    (follows : T.Follows before behind starts size cost same reader other)
    (cheap : less ≤ cost) :
    T.Follows before behind starts size less same reader other := by
  -- Where tokens were spent, fewer were spent as well; a defect spends what it likes.
  refine ⟨fun p p' place start fits => ?_, follows.loses⟩
  refine (follows.reads p p' place start fits).imp_right fun agrees => ?_
  cases got : reader p with
  | error error q =>
    rw [got] at agrees
    exact agrees
  | ok a q =>
    rw [got] at agrees
    obtain ⟨b, q', done, agree, place', spends⟩ := agrees
    exact ⟨b, q', done, agree, place', spends.mono cheap⟩

/-- What may start anywhere may start in front of certain tokens. -/
theorem Follows.start (follows : T.Follows before behind anywhere size cost same reader other) :
    T.Follows before behind starts size cost same reader other :=
  -- What is next is just not looked at.
  ⟨fun p p' place _ => follows.reads p p' place trivial,
    fun p gone _ => follows.loses p gone trivial⟩

/-- Where an item may have ended, the parsers are also inside of one. -/
theorem Follows.enter (follows : T.Follows before .after starts size cost same reader other) :
    T.Follows before .inside starts size cost same reader other := by
  have ends : ∀ result : EStateM.Result SyntaxError Parser α, T.Ends .after result →
      T.Ends .inside result := by
    intro result ends
    cases result with
    | ok a q => exact T.lost_of_strayed ends
    | error error q => exact ends
  refine ⟨fun p p' place start fits => ?_, fun p gone start => ends _ (follows.loses p gone start)⟩
  have reads := follows.reads p p' place start fits
  cases got : reader p with
  | error error q =>
    rw [got] at reads
    exact reads
  | ok a q =>
    rw [got] at reads
    rcases reads with gone | ⟨b, q', done, agree, arrived, spends⟩
    · exact .inl (T.lost_of_strayed gone)
    · -- Whoever has come to the end of its source is no longer followed inside.
      rcases T.settled arrived with beside | ⟨lost, -⟩
      · exact .inr ⟨b, q', done, agree, beside, spends⟩
      · exact .inl lost

end Combine

section Steps

/-- In front of no tokens it does not matter what the second parser would do with one. -/
theorem Follows.exhausted {reader other wider : Parse α}
    (follows : T.Follows .inside behind starts 0 cost same reader other)
    (alike : ∀ p : Parser, p.kind? = none → wider p = other p) :
    T.Follows .inside behind starts 0 cost same reader wider := by
  -- Without tokens both parsers see none, and there the other two readers are alike.
  refine ⟨fun p p' beside start fits => ?_, follows.loses⟩
  have absent : p.kind? = none := by
    rw [(T.ready beside).kind?_eq, List.length_eq_zero_iff.mp (Nat.le_zero.mp fits)]
    rfl
  rw [alike p' ((kind?_eq beside).trans absent)]
  exact follows.reads p p' beside start fits

/-- Stopping gets no meaning, and the defects correspond. -/
theorem follows_unexpected (expected : String) :
    T.Follows .inside behind starts size cost same (unexpected expected) (unexpected expected) := by
  -- Both parsers stop where they are, so that all depends on what is met there.
  refine ⟨fun p p' beside _ _ => ?_, fun p gone _ => ?_⟩
  · rw [unexpected_apply, unexpected_apply]
    exact (T.stop beside expected).imp_right fun alike =>
      ⟨_, p', rfl, alike, beside, spends_self p⟩
  · rw [unexpected_apply]
    exact T.hopeless_of_lost gone _

/-- Moving on over a token leads to where an item may have ended. -/
theorem arrives_pull (beside : T.beside p p') (some : p.lookahead ≠ none) {a b : α}
    (agree : same a b) : T.Ends .after (.ok a p.pull) ∨
      T.Agrees .after 1 same p (.ok a p.pull) (.ok b p'.pull) :=
  -- Moving on spends the token, wherever both parsers arrive.
  (T.pull beside some).symm.imp_right fun arrived =>
    ⟨b, p'.pull, rfl, agree, arrived, spends_pull some⟩

/-- A token of a given kind is taken, and any other one is a defect. -/
theorem follows_take (kind : TokenKind) (context : String) :
    T.Follows .inside .after starts size 1
      (fun t t' => t'.content = t.content ∧ t.kind = kind ∧ t.Written)
      (take kind context) (take kind context) := by
  refine ⟨fun p p' beside _ _ => ?_, fun p gone _ => ?_⟩
  · have content := T.look beside
    have stops : T.Follows .inside .after anywhere p.upcoming.length 1
        (fun t t' : Token => t'.content = t.content ∧ t.kind = kind ∧ t.Written)
        (unexpected (expectation kind context)) (unexpected (expectation kind context)) :=
      follows_unexpected _
    have stops := stops.reads p p' beside trivial (Nat.le_refl _)
    -- Both parsers see the same token, or none.
    cases front : p.lookahead with
    | none =>
      have front' := (lookahead_eq_none_iff beside).mpr front
      simpa only [take, front, front'] using stops
    | some token =>
      obtain ⟨token', front', same⟩ : ∃ token', p'.lookahead = some token' ∧
          token'.content = token.content := by
        rw [front] at content
        simpa [Option.map_eq_some_iff] using content
      have kinds : token'.kind = token.kind := congrArg Prod.fst same
      by_cases found : token.kind = kind
      · simp only [take, front, front', kinds, found, ↓reduceIte]
        exact arrives_pull beside (by simp [front])
          ⟨same, found, (T.ready beside).written token front⟩
      · simpa only [take, front, front', kinds, found, ↓reduceIte] using stops
  · -- The first parser alone moves on over the token, or it stops.
    unfold take
    split
    · rename_i token front
      split
      · exact T.strayed_pull gone (by simp [front])
      · rw [unexpected_apply]
        exact T.hopeless_of_lost gone _
    · rw [unexpected_apply]
      exact T.hopeless_of_lost gone _

/-- A token of a given kind is passed over. -/
theorem follows_expect (kind : TokenKind) (context : String) :
    T.Follows .inside .after starts size 1 (· = ·) (expect kind context) (expect kind context) :=
  -- The token is taken like any other, and what is forgotten is the same for both.
  (follows_take kind context).map (f := fun _ => ()) (g := fun _ => ()) fun _ _ _ => rfl

/-- An identifier is taken for its name. -/
theorem follows_name (context : String) :
    T.Follows .inside .inside starts size 1 (· = ·) (name context) (name context) := by
  refine (follows_take .identifier context).enter.bind (Nat.le_succ size) (Nat.le_refl (1 + 0))
    (fun token token' agree => ?_) (fun token p gone _ => ?_)
  · -- What is taken was written as an identifier, and so with its name.
    obtain ⟨same, kind, written⟩ := agree
    obtain ⟨content, value⟩ := written.text_of_kind (by simp [kind])
    have value' : token'.value = .text content := (congrArg Prod.snd same).trans value
    rw [value, value']
    exact follows_pure rfl
  · cases token.value with
    | text content => exact gone
    | number number => exact T.hopeless_of_lost gone _

/-- Looking at the next token shows both parsers the same kind. -/
theorem follows_peek {next next' : Option TokenKind → Parse α}
    (later : ∀ kind, starts kind →
      T.Follows .inside behind (· = kind) size cost same (next kind) (next' kind)) :
    T.Follows .inside behind starts size cost same (peek >>= next) (peek >>= next') := by
  -- Both parsers take the branch of the same kind.
  refine ⟨fun p p' beside start fits => ?_, fun p gone start => (later _ start).loses p gone rfl⟩
  show T.Ends behind (next p.kind? p) ∨
    T.Agrees behind cost same p (next p.kind? p) (next' p'.kind? p')
  rw [kind?_eq beside]
  exact (later _ start).reads p p' beside rfl fits

/-- A token that is next is passed over. -/
theorem follows_skip {kind : TokenKind} :
    T.Follows .inside .after (· = some kind) size 1 (· = ·) skip skip := by
  -- The token is there for both parsers, or lost with the first one.
  have found {p : Parser} (front : p.kind? = some kind) : p.lookahead ≠ none := by
    intro absent
    simp [kind?, absent] at front
  refine ⟨fun p p' beside front _ => ?_, fun p gone front => ?_⟩
  · have front' : p'.kind? = some kind := (kind?_eq beside).trans front
    rw [skip_eq, skip_eq, if_neg (found front), if_neg (found front')]
    exact arrives_pull beside (found front) rfl
  · rw [skip_eq, if_neg (found front)]
    exact T.strayed_pull gone (found front)

/-- A literal is taken for what it means. -/
theorem follows_literal {kind : TokenKind} :
    T.Follows .inside .after (· = some kind) size 1 (· = ·) literal literal := by
  -- Of the token in front only the value counts.
  refine ⟨fun p p' beside start _ => ?_, fun p gone start => ?_⟩
  · obtain ⟨token, front, -⟩ := Option.map_eq_some_iff.mp start
    have content := T.look beside
    rw [front] at content
    obtain ⟨token', front', same⟩ := Option.map_eq_some_iff.mp content
    have values : token'.value = token.value := congrArg Prod.snd same
    rw [literal_apply p front, literal_apply p' front', values]
    exact arrives_pull beside (by simp [front]) rfl
  · obtain ⟨token, front, -⟩ := Option.map_eq_some_iff.mp start
    rw [literal_apply p front]
    exact T.strayed_pull gone (by simp [front])

/-- A token of a given kind is taken if it is next, and both parsers then read on in one way. -/
theorem follows_accept (left more : Nat) {kind : TokenKind} {yes no yes' no' : Parse α}
    (enough : size ≤ left + 1) (cheap : cost ≤ 1 + more)
    (taken : T.Follows .inside behind anywhere left more same yes yes')
    (passed : T.Follows .inside behind starts size cost same no no') :
    T.Follows .inside behind starts size cost same
      (accept kind >>= fun found => if found then yes else no)
      (accept kind >>= fun found => if found then yes' else no') := by
  -- If the token is next, it is passed over like a known one.
  have skipped : T.Follows .inside behind (· = some kind) size cost same (skip >>= fun _ => yes)
      (skip >>= fun _ => yes') :=
    follows_skip.enter.bind enough cheap (fun _ _ _ => taken) fun _ => taken.loses
  refine ⟨fun p p' beside start fits => ?_, fun p gone start => ?_⟩
  · rw [accept_bind_apply, accept_bind_apply, kind?_eq beside]
    by_cases found : p.kind? = some kind
    · rw [if_pos found, if_pos found]
      exact skipped.reads p p' beside found fits
    · rw [if_neg found, if_neg found]
      exact passed.reads p p' beside start fits
  · rw [accept_bind_apply]
    by_cases found : p.kind? = some kind
    · rw [if_pos found]
      exact skipped.loses p gone found
    · rw [if_neg found]
      exact passed.loses p gone start

/-- Behind an item, an alternative that goes on with it is read by both parsers or by none. -/
theorem follows_else {yes no yes' no' : Parse α}
    (taken : T.Follows .inside .after anywhere size more same yes yes')
    (passed : T.Follows .after .after anywhere size 0 same no no') :
    T.Follows .after .after anywhere size 0 same
      (accept .elseWord >>= fun found => if found then yes else no)
      (accept .elseWord >>= fun found => if found then yes' else no') := by
  -- The word is taken by both if they are side by side; where the second one has come to
  -- another end, neither of them sees it.
  have skipped : T.Follows .inside .after (· = some .elseWord) size 0 same (skip >>= fun _ => yes)
      (skip >>= fun _ => yes') :=
    (follows_skip.enter.then fun _ => taken).spending (Nat.zero_le _)
  refine ⟨fun p p' arrived _ fits => ?_, fun p gone _ => ?_⟩
  · rw [accept_bind_apply, accept_bind_apply]
    rcases T.settled arrived with beside | ⟨-, absent, absent'⟩
    · rw [kind?_eq beside]
      by_cases found : p.kind? = some .elseWord
      · rw [if_pos found, if_pos found]
        exact skipped.reads p p' beside found fits
      · rw [if_neg found, if_neg found]
        exact passed.reads p p' arrived trivial fits
    · rw [if_neg absent, if_neg absent']
      exact passed.reads p p' arrived trivial fits
  · rw [accept_bind_apply]
    by_cases found : p.kind? = some .elseWord
    · rw [if_pos found]
      exact skipped.loses p (T.lost_of_strayed gone) found
    · rw [if_neg found]
      exact passed.loses p gone trivial

/-- The line of a token that is looked up corresponds to the one that the other parser finds. -/
theorem follows_get {next next' : Parser → Parse α} (some : ∀ kind, starts kind → kind ≠ none)
    (later : ∀ here here', T.first here.currentLine = T.second here'.currentLine →
      T.Follows .inside behind starts size cost same (next here) (next' here')) :
    T.Follows .inside behind starts size cost same (get >>= next) (get >>= next') := by
  refine ⟨fun p p' beside start fits => ?_, fun p gone start => ?_⟩
  · have front : p.lookahead ≠ none := fun absent => some _ start (by rw [kind?, absent]; rfl)
    exact (later p p' (T.line beside front)).reads p p' beside start fits
  -- Whatever line is found, there is one that corresponds to it.
  · obtain ⟨line, same⟩ := T.covers p.currentLine
    exact (later p { p with lastLine := line } same).loses p gone start

/-- The level is left again behind whatever was read, and behind a defect. -/
theorem ends_nested {reader : Parse α} (room : ¬ p.limit ≤ p.depth)
    (ends : T.Ends .inside (reader { p with depth := p.depth + 1 })) :
    T.Ends .inside (Parser.nested reader p) := by
  -- A parser that got lost on one level is lost on any.
  rw [nested_of_room room]
  cases got : reader { p with depth := p.depth + 1 } with
  | ok a q =>
    rw [got] at ends
    exact T.lost_depth ends _
  | error error q =>
    rw [got] at ends
    exact T.hopeless_depth ends _

/-- Reading one level deeper leads on side by side if reading on the same level does. -/
theorem Follows.nested {reader other : Parse α}
    (follows : T.Follows .inside .inside anywhere size cost same reader other) :
    T.Follows .inside .inside starts size cost same (Parser.nested reader)
      (Parser.nested other) := by
  -- Both parsers have a free level or neither has; in the first case they are followed on that
  -- level, and brought back from it behind whatever was read.
  refine ⟨fun p p' beside _ fits => ?_, fun p gone _ => ?_⟩
  · by_cases full : p.limit ≤ p.depth
    · rw [nested_of_full full]
      refine (T.full beside full).imp_right fun both => ?_
      obtain ⟨full', alike⟩ := both
      exact ⟨_, p', nested_of_full full' other, alike, beside, spends_self p⟩
    · obtain ⟨room, deeper⟩ := T.deeper beside (Nat.lt_of_not_le full)
      refine (follows.reads _ _ deeper trivial fits).imp (ends_nested full) fun agrees => ?_
      rw [nested_of_room full, nested_of_room (Nat.not_le_of_lt room)]
      cases got : reader { p with depth := p.depth + 1 } with
      | error error q =>
        rw [got] at agrees
        obtain ⟨error', q', stop, alike, place, spends⟩ := agrees
        rw [stop]
        exact ⟨_, _, rfl, T.alike_depth alike _ _, T.back place, spends⟩
      | ok a q =>
        rw [got] at agrees
        obtain ⟨b, q', done, agree, place, spends⟩ := agrees
        rw [done]
        exact ⟨_, _, rfl, agree, T.back place, spends⟩
  · by_cases full : p.limit ≤ p.depth
    · rw [nested_of_full full]
      exact T.hopeless_of_lost gone _
    · exact ends_nested full (follows.loses _ (T.lost_depth gone _) trivial)

end Steps

end Tandem

end Scriptlet
