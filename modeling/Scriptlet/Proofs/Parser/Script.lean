import Scriptlet.Proofs.Parser.Sinking

/-! A reader as a script of what it does: single steps, steps in a row, one level further down, and
going on behind a defect. A script tells where its reader asks for a level. -/

namespace Scriptlet

namespace Parser

variable {α β : Type} {p q : Parser}

/-- A step that asks for no level and does not go on behind a defect. -/
inductive Single : {α : Type} → Parse α → Prop where
  /-- Nothing is done. -/
  | pure {α : Type} (a : α) : Single (pure a)
  /-- Reading stops at the next token. -/
  | unexpected {α : Type} (expected : String) : Single (unexpected expected : Parse α)
  /-- The next token is looked at. -/
  | peek : Single peek
  /-- The parser is looked at. -/
  | get : Single get
  /-- An event is logged. -/
  | note (event : Parser → Event) : Single fun p => .ok () (p.note (event p))
  /-- The next token is taken. -/
  | advance : Single advance
  /-- The next token is taken if it is of a given kind. -/
  | accept (kind : TokenKind) : Single (accept kind)
  /-- The next token is taken, and has to be of a given kind. -/
  | take (kind : TokenKind) (context : String) : Single (take kind context)
  /-- The next token is taken, and has to be an identifier. -/
  | name (context : String) : Single (name context)

/-- What a reader does, one step after another. -/
inductive Script : Type → Type 1 where
  /-- A single step. -/
  | step {α : Type} (reader : Parse α) (single : Single reader) : Script α
  /-- Some steps, and others that depend on what came out of them. -/
  | row {α β : Type} (first : Script α) (later : α → Script β) : Script β
  /-- Asking for a level, and some steps one level further down. -/
  | level {α : Type} (inner : Script α) : Script α
  /-- Some steps, and recovering from the defect that stops them. -/
  | rescue {α : Type} (inner : Script α) (inBlock : Bool) : Script (Option α)

namespace Script

/-- The reader that does what a script says. -/
def read : {α : Type} → Script α → Parse α
  | _, .step reader _ => reader
  | _, .row first later => first.read >>= fun a => (later a).read
  | _, .level inner => nested inner.read
  | _, .rescue inner inBlock => fun p =>
    match inner.read p with
    | .ok a q => .ok (some a) q
    | .error error q => .ok none (recover error inBlock q).2

/-- Where a level is asked for, from a given place on, each time before it is known whether there is
one left. -/
def asks : {α : Type} → Script α → Parser → List Parser
  | _, .step _ _, _ => []
  | _, .row first later, p =>
    first.asks p ++ match first.read p with
      | .ok a q => (later a).asks q
      | .error _ _ => []
  | _, .level inner, p =>
    p :: if p.limit ≤ p.depth then [] else inner.asks { p with depth := p.depth + 1 }
  | _, .rescue inner _, p => inner.asks p

/-- Somewhere on the way a level is asked for and none is left. -/
def Misses (script : Script α) (p : Parser) : Prop :=
  ∃ q ∈ script.asks p, q.limit ≤ q.depth

/-- Behind a defect, reading goes on where the parser has recovered. -/
theorem read_rescue (inner : Script α) (inBlock : Bool) (p : Parser) :
    (rescue inner inBlock).read p = match inner.read p with
      | .ok a q => .ok (some a) q
      | .error error q => .ok none (recover error inBlock q).2 :=
  -- This is what the script is defined to read.
  rfl

end Script

section Steps

variable {result : EStateM.Result SyntaxError Parser α} {reader : Parse α}

/-- Reading moved on without recording a defect, and no level was missing. -/
def Calm (p : Parser) (result : EStateM.Result SyntaxError Parser α) : Prop :=
  ∃ consumed, p.Moves (endOf result) consumed [] ∧ isTooDeep result = false

/-- Stopping at the next token is calm. -/
theorem Ready.calm_unexpected (ready : p.Ready) (expected : String) :
    p.Calm ((unexpected expected : Parse α) p) := by
  -- What is unexpected is a token or the end, and no level.
  obtain ⟨error, stop, -, other⟩ := ready.unexpected_apply (α := α) expected
  rw [stop]
  exact ⟨[], ready.stays, other⟩

/-- Taking the next token is calm, whatever comes out of it. -/
theorem Ready.calm_pull (ready : p.Ready) {token : Token} (front : p.lookahead = some token)
    (a : α) : p.Calm (.ok a p.pull) :=
  -- The token is the one thing that is consumed, and no defect is recorded.
  ⟨[token], ready.moves_pull (ready.head?_upcoming.trans front), rfl⟩

/-- Taking a token of a given kind is calm. -/
theorem Ready.calm_take (ready : p.Ready) (kind : TokenKind) (context : String) :
    p.Calm (take kind context p) := by
  -- The token is taken, or the reading stops in front of it, and both are calm.
  unfold take
  split
  next token front =>
    split
    · exact ready.calm_pull front token
    · exact ready.calm_unexpected _
  next => exact ready.calm_unexpected _

/-- A single step moves on without recording a defect, and misses no level. -/
theorem Single.calm (single : Single reader) (ready : p.Ready) : p.Calm (reader p) := by
  cases single with
  | pure a | peek | get => exact ⟨[], ready.stays, rfl⟩
  | unexpected expected => exact ready.calm_unexpected expected
  | note event =>
    obtain ⟨noted, same⟩ := ready.note (event p)
    exact ⟨[], ⟨noted, same.symm, rfl, rfl, (List.append_nil _).symm⟩, rfl⟩
  | advance =>
    unfold Parser.advance
    split
    next token front => exact ready.calm_pull front _
    next => exact ⟨[], ready.stays, rfl⟩
  | accept kind =>
    rw [Parser.accept]
    split
    next found =>
      obtain ⟨token, front, -⟩ := Option.map_eq_some_iff.mp found
      exact ready.calm_pull front true
    next => exact ⟨[], ready.stays, rfl⟩
  | take kind context => exact ready.calm_take kind context
  | name context =>
    -- What is taken is an identifier, or stops the reader behind it.
    rw [Parser.name, bind_apply]
    obtain ⟨consumed, moves, other⟩ := ready.calm_take .identifier context
    cases took : Parser.take .identifier context p with
    | error error q =>
      rw [took] at moves other
      exact ⟨consumed, moves, other⟩
    | ok token q =>
      rw [took] at moves
      cases value : token.value <;> simp only [value] <;> exact ⟨consumed, moves, rfl⟩

/-- Leaving a level again leads back to the level where it was entered. -/
theorem Moves.out {consumed : List Token} {recorded : List SyntaxError}
    (moves : Moves { p with depth := p.depth + 1 } (endOf result) consumed recorded) :
    p.Moves (endOf (raised result)) consumed recorded := by
  -- The tokens and the defects stay, and taking one level back undoes the one that was entered.
  have level := moves.depth
  cases result <;> exact
    ⟨moves.ready.withDepth _, moves.upcoming, Nat.sub_eq_of_eq_add level, moves.limit, moves.errors⟩

end Steps

namespace Script

/-- Steps that stop are the only ones to miss a level. -/
theorem misses_row_of_error {first : Script α} {later : α → Script β} {error : SyntaxError}
    (stop : first.read p = .error error q) : (first.row later).Misses p ↔ first.Misses p := by
  -- The later steps are never asked for their levels.
  simp only [Misses, asks, stop, List.append_nil]

/-- A level is missing in the first steps or in the ones behind them. -/
theorem misses_row_of_ok {first : Script α} {later : α → Script β} {a : α}
    (got : first.read p = .ok a q) :
    (first.row later).Misses p ↔ first.Misses p ∨ (later a).Misses q := by
  -- The attempts of both parts are listed one after the other.
  simp only [Misses, asks, got, List.mem_append, or_and_right, exists_or]

/-- A level is missing here or further down. -/
theorem misses_level (inner : Script α) : inner.level.Misses p ↔
    p.limit ≤ p.depth ∨ ¬ p.limit ≤ p.depth ∧ inner.Misses { p with depth := p.depth + 1 } := by
  -- The first attempt is the one to enter this level, and the others come only if it is free.
  by_cases full : p.limit ≤ p.depth
  · simp [Misses, asks, full]
  · simp [Misses, asks, full]

/-- What a script says moves on, and it meets a defect about nesting exactly if a level is missing
on the way. -/
theorem moves (script : Script α) (ready : p.Ready) :
    ∃ consumed recorded, p.Moves (endOf (script.read p)) consumed recorded ∧
      (script.Misses p ↔
        isTooDeep (script.read p) = true ∨ ∃ error ∈ recorded, error.isNesting = true) := by
  induction script generalizing p with
  | step reader single =>
    obtain ⟨consumed, moves, calm⟩ := single.calm ready
    exact ⟨consumed, [], moves, by simp [Misses, asks, read, calm]⟩
  | row first later ih ih' =>
    obtain ⟨consumed, recorded, moves, misses⟩ := ih ready
    rw [read, bind_apply]
    cases got : first.read p with
    | error error q =>
      rw [got] at moves misses
      exact ⟨consumed, recorded, moves, (misses_row_of_error got).trans misses⟩
    | ok a q =>
      -- The first steps have not stopped, so that what they missed was recorded.
      rw [got] at moves misses
      have own : first.Misses p ↔ ∃ error ∈ recorded, error.isNesting = true := by
        simpa [isTooDeep] using misses
      have ready' : q.Ready := moves.ready
      obtain ⟨behind, further, moves', misses'⟩ := ih' a ready'
      refine ⟨_, _, moves.trans moves', ?_⟩
      rw [misses_row_of_ok got, own, misses']
      simp only [List.mem_append, or_and_right, exists_or]
      exact or_left_comm
  | level inner ih =>
    rw [read, misses_level]
    by_cases full : p.limit ≤ p.depth
    · -- The level that is asked for here is missing.
      rw [nested_of_full full]
      exact ⟨[], [], ready.stays, by simp [full, isTooDeep, overflow, SyntaxError.isNesting]⟩
    · obtain ⟨consumed, recorded, moves, misses⟩ := ih (ready.withDepth (p.depth + 1))
      rw [nested_of_room full, isTooDeep_raised]
      exact ⟨consumed, recorded, moves.out, by simpa [full] using misses⟩
  | rescue inner inBlock ih =>
    obtain ⟨consumed, recorded, moves, misses⟩ := ih ready
    rw [read_rescue]
    cases got : inner.read p with
    | ok a q =>
      rw [got] at moves misses
      exact ⟨consumed, recorded, moves, misses⟩
    | error error q =>
      -- The defect that stopped the steps is recorded behind the others.
      rw [got] at moves misses
      obtain ⟨dropped, recovers, -⟩ := moves.ready.moves_recover error inBlock
      refine ⟨_, _, moves.trans recovers, misses.trans ?_⟩
      simp [isTooDeep, or_and_right, exists_or, or_comm]

/-- Where a script asks for a level, its limit is the same, and some tokens have been taken. -/
theorem spends_of_mem_asks (script : Script α) (ready : p.Ready) (member : q ∈ script.asks p) :
    q.limit = p.limit ∧ Spends 0 p q := by
  induction script generalizing p with
  | step => cases member
  | row first later ih ih' =>
    rw [asks, List.mem_append] at member
    rcases member with own | behind
    · exact ih ready own
    · -- Other steps begin where the first ones ended.
      obtain ⟨consumed, recorded, moves, -⟩ := first.moves ready
      cases got : first.read p with
      | error error r =>
        rw [got] at behind
        cases behind
      | ok a r =>
        rw [got] at behind moves
        obtain ⟨limit, spends⟩ := ih' a moves.ready behind
        exact ⟨limit.trans moves.limit,
          Spends.trans ⟨consumed, moves.upcoming, Nat.zero_le _⟩ spends⟩
  | level inner ih =>
    rw [asks, List.mem_cons] at member
    rcases member with rfl | inside
    · exact ⟨rfl, spends_self q⟩
    · split at inside
      · cases inside
      · have deeper := ih (ready.withDepth (p.depth + 1)) inside
        exact deeper
  | rescue inner inBlock ih => exact ih ready member

end Script

end Parser

end Scriptlet
