import Scriptlet.Proofs.Parser.Parallel

/-! What no step of a parser changes, reading changes neither, whether it is said of one parser or
of two that see the same; and a bound that covers the tokens that are left makes no difference. -/

namespace Scriptlet

open Scriptlet.Parser

namespace Parser

variable {p p' : Parser} {bound bound' : Nat} {holds : Parser → Prop}
  {tied : Parser → Parser → Prop}

/-- What holds of ready parsers only, and goes on to hold whatever a parser does. -/
structure Lasting (holds : Parser → Prop) : Prop where
  ready : ∀ {p}, holds p → p.Ready
  pull : ∀ {p}, holds p → p.lookahead ≠ none → holds p.pull
  record : ∀ {p error}, holds p → p.Meets error → holds (p.record error)
  level : ∀ {p}, holds p → ∀ depth, holds { p with depth }

/-- What holds of two parsers that see the same on the same line, and goes on to hold whatever both
of them do. -/
structure Abreast (tied : Parser → Parser → Prop) : Prop where
  ready : ∀ {p p'}, tied p p' → p.Ready
  look : ∀ {p p'}, tied p p' → p'.lookahead = p.lookahead
  line : ∀ {p p'}, tied p p' → p'.currentLine = p.currentLine
  depth : ∀ {p p'}, tied p p' → p'.depth = p.depth
  limit : ∀ {p p'}, tied p p' → p'.limit = p.limit
  pull : ∀ {p p'}, tied p p' → p.lookahead ≠ none → tied p.pull p'.pull
  record : ∀ {p p' error}, tied p p' → p.Meets error → tied (p.record error) (p'.record error)
  level : ∀ {p p'}, tied p p' → ∀ depth, tied { p with depth } { p' with depth }

/-- What is lasting ties a parser to itself. -/
theorem Lasting.abreast (lasting : Lasting holds) : Abreast fun p p' => holds p ∧ p' = p where
  -- Both are the same parser, so that each step takes them to the same place.
  ready both := lasting.ready both.1
  look both := congrArg lookahead both.2
  line both := congrArg currentLine both.2
  depth both := congrArg depth both.2
  limit both := congrArg limit both.2
  pull := by
    rintro p p' ⟨holding, rfl⟩ more
    exact ⟨lasting.pull holding more, rfl⟩
  record := by
    rintro p p' error ⟨holding, rfl⟩ meets
    exact ⟨lasting.record holding meets, rfl⟩
  level := by
    rintro p p' ⟨holding, rfl⟩ depth
    exact ⟨lasting.level holding depth, rfl⟩

/-- Tied parsers meet the same defects. -/
theorem Abreast.meet (abreast : Abreast tied) (both : tied p p') (obstacle : Obstacle) :
    p'.meet obstacle = p.meet obstacle := by
  -- A defect shows the lookahead, the limit and the line, and tied parsers share all of them.
  cases obstacle with
  | unexpected expected =>
    simp only [Parser.meet, defect, abreast.look both, abreast.line both]
  | overflow => simp only [Parser.meet, overflow, abreast.limit both, abreast.line both]

/-- Two parsers side by side, as long as they are tied. -/
def Abreast.tandem (abreast : Abreast tied) : Tandem where
  blame error _ := error
  first := id
  second := id
  beside := tied
  arrived := tied
  lost _ := False
  strayed _ := False
  hopeless _ _ := False
  alike error error' p _ := p.Meets error ∧ error' = error
  ready := abreast.ready
  look both := by rw [abreast.look both]
  line both _ := (abreast.line both).symm
  covers := Tandem.covers_id
  pull both more := .inl (abreast.pull both more)
  record := by
    rintro p p' e e' both ⟨meets, rfl⟩
    exact abreast.record both meets
  deeper := by
    intro p p' both room
    have deeper := abreast.level both (p.depth + 1)
    rw [abreast.depth both]
    exact ⟨(abreast.limit both).symm ▸ room, deeper⟩
  full := by
    intro p p' both full
    rw [abreast.depth both, abreast.limit both]
    exact .inr ⟨full, ⟨.overflow, rfl⟩, abreast.meet both .overflow⟩
  back := by
    intro p p' both
    rw [abreast.depth both]
    exact abreast.level both _
  stop both expected := .inr ⟨⟨.unexpected expected, rfl⟩, abreast.meet both (.unexpected expected)⟩
  alike_depth := by
    rintro p p' e e' ⟨⟨obstacle, rfl⟩, rfl⟩ depth depth'
    exact ⟨⟨obstacle, (p.meet_depth depth obstacle).symm⟩, rfl⟩
  arrived_of_beside both := both
  settled := .inl
  lost_of_strayed := id
  strayed_pull lost _ := lost
  lost_depth lost _ := lost
  hopeless_of_lost lost _ := lost
  hopeless_depth hopeless _ := hopeless
  strayed_record := id

/-- Tied parsers are followed wherever they go. -/
theorem Abreast.faithful (abreast : Abreast tied) : abreast.tandem.Faithful :=
  -- They never get lost, in any sense.
  ⟨id, id⟩

/-- Tied parsers are tied behind the items, which are the same and do not depend on the bound. -/
theorem Abreast.items (abreast : Abreast tied) (both : tied p p')
    (fits : p.upcoming.length ≤ bound) (larger : bound ≤ bound') (inBlock : Bool) :
    tied (itemsWithin bound inBlock p).2 (itemsWithin bound' inBlock p').2 ∧
      (itemsWithin bound' inBlock p').1 = (itemsWithin bound inBlock p).1 := by
  -- The items are read side by side, and no parser is lost on the way.
  rcases Tandem.itemsWithin_side_by_side (T := abreast.tandem) (fun _ _ => rfl) both fits larger
    inBlock with lost | ⟨items, both⟩
  · exact lost.elim
  · exact ⟨both, (items.eq rfl rfl).symm⟩

/-- What is lasting still holds behind the items, which do not depend on the bound. -/
theorem Lasting.items (lasting : Lasting holds) (holding : holds p)
    (fits : p.upcoming.length ≤ bound) (larger : bound ≤ bound') (inBlock : Bool) :
    holds (itemsWithin bound inBlock p).2 ∧
      itemsWithin bound' inBlock p = itemsWithin bound inBlock p := by
  -- The parser is tied to itself, and so the same as what it is tied to.
  obtain ⟨⟨still, after⟩, items⟩ := lasting.abreast.items ⟨holding, rfl⟩ fits larger inBlock
  exact ⟨still, Prod.ext items after⟩

/-- Where something lasting holds, readers that go side by side from there are the same. -/
theorem Lasting.eq_of_follows (lasting : Lasting holds) {α : Type} {behind : Stage}
    {starts : Option TokenKind → Prop} {size cost : Nat} {same : α → α → Prop}
    {reader other : Parse α} (equal : ∀ a b, same a b → b = a)
    (follows : lasting.abreast.tandem.Follows .inside behind starts size cost same reader other)
    (holding : holds p) (start : starts p.kind?) (fits : p.upcoming.length ≤ size) :
    other p = reader p := by
  -- Following a parser from the place where it stands leads to its own end.
  have agrees := follows.agrees lasting.abreast.faithful ⟨holding, rfl⟩ start fits
  cases got : reader p with
  | error error q =>
    rw [got] at agrees
    obtain ⟨error', q', stop, ⟨-, rfl⟩, ⟨-, rfl⟩, -⟩ := agrees
    exact stop
  | ok a q =>
    rw [got] at agrees
    obtain ⟨b, q', done, agree, place, -⟩ := agrees
    have still : q' = q := by cases behind <;> exact place.2
    rw [done, equal a b agree, still]

/-- To be ready is lasting. -/
theorem lasting_ready : Lasting Ready where
  -- Only moving on touches the lexer, and that makes a parser ready by itself.
  ready := id
  pull ready _ := ready_pull ready.normal
  record ready _ := (ready.record _).1
  level ready depth := ready.withDepth depth

/-- Any two bounds that cover the tokens that are left come to the same. -/
theorem Ready.itemsWithin_eq (ready : p.Ready) (fits : p.upcoming.length ≤ bound)
    (fits' : p.upcoming.length ≤ bound') (inBlock : Bool) :
    itemsWithin bound' inBlock p = itemsWithin bound inBlock p := by
  -- The smallest such bound is the number of these tokens.
  rw [(lasting_ready.items ready (Nat.le_refl _) fits inBlock).2,
    (lasting_ready.items ready (Nat.le_refl _) fits' inBlock).2]

/-- An operand does not depend on the bound, as long as that covers the tokens that are left. -/
theorem Ready.operandWithin_eq (ready : p.Ready) (fits : p.upcoming.length ≤ bound)
    (fits' : p.upcoming.length ≤ bound') : operandWithin bound' p = operandWithin bound p := by
  -- The smallest such bound is the number of these tokens.
  have least {bound : Nat} (fits : p.upcoming.length ≤ bound) :
      operandWithin bound p = operandWithin p.upcoming.length p :=
    lasting_ready.eq_of_follows (fun _ _ => Eq.symm) (Tandem.follows_operandWithin fits) ready
      trivial (Nat.le_refl _)
  rw [least fits, least fits']

/-- Behind the items of a source nothing is left. -/
theorem Ready.upcoming_itemsWithin (ready : p.Ready) (fits : p.upcoming.length ≤ bound) :
    (itemsWithin bound false p).2.upcoming = [] := by
  -- Outside of blocks only the end of the source stops the reading.
  rcases (reads_itemsWithin bound false p ready fits trivial).2 with none | ⟨inside, -⟩
  · exact List.head?_eq_none_iff.mp none
  · exact absurd inside (by decide)

end Parser

end Scriptlet
