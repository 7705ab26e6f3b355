import Scriptlet.Proofs.Parser.Lasting

/-! What is read depends on the tokens that are left and on the levels that are left, and not on
what was recorded before. -/

namespace Scriptlet

namespace Parser

variable {first second : Nat → Nat} {p p' : Parser}

/-- Two parsers on the same level, in front of tokens that are the same as far as their lines
matter. -/
structure Detached (first second : Nat → Nat) (p p' : Parser) : Prop where
  ready : p.Ready
  ready' : p'.Ready
  upcoming : p'.upcoming.map (Token.mapLine second) = p.upcoming.map (Token.mapLine first)
  depth : p'.depth = p.depth
  limit : p'.limit = p.limit

namespace Detached

/-- Both parsers see the same token. -/
theorem look (detached : p.Detached first second p') :
    p'.lookahead.map (Token.mapLine second) = p.lookahead.map (Token.mapLine first) := by
  -- It is the first of the upcoming tokens.
  have heads := congrArg List.head? detached.upcoming
  rwa [List.head?_map, List.head?_map, detached.ready.head?_upcoming,
    detached.ready'.head?_upcoming] at heads

/-- Both parsers see a token or none. -/
theorem lookahead_eq_none_iff (detached : p.Detached first second p') :
    p'.lookahead = none ↔ p.lookahead = none := by
  -- Apart from their lines the tokens are the same.
  rw [← Option.map_eq_none_iff, detached.look, Option.map_eq_none_iff]

/-- In front of a token both parsers are on the same line. -/
theorem line (detached : p.Detached first second p') (more : p.lookahead ≠ none) :
    second p'.currentLine = first p.currentLine := by
  -- The line is that of the token.
  obtain ⟨token, front⟩ := Option.ne_none_iff_exists'.mp more
  have look := detached.look
  rw [front] at look
  obtain ⟨token', front', same⟩ := Option.map_eq_some_iff.mp look
  rw [detached.ready.currentLine_of_some front, detached.ready'.currentLine_of_some front']
  exact congrArg Token.line same

/-- Where lines matter as they are, the tokens are the same. -/
theorem upcoming_eq (detached : p.Detached id id p') : p'.upcoming = p.upcoming := by
  -- A token with its own line is the token.
  have same : Token.mapLine id = id := funext fun _ => rfl
  simpa only [same, List.map_id] using detached.upcoming

/-- Both parsers move on to the same token. -/
theorem pull (detached : p.Detached first second p') (more : p.lookahead ≠ none) :
    p.pull.Detached first second p'.pull where
  ready := ready_pull detached.ready.normal
  ready' := ready_pull detached.ready'.normal
  upcoming := by
    have more' : p'.lookahead ≠ none := mt detached.lookahead_eq_none_iff.mp more
    obtain ⟨token, front⟩ := Option.ne_none_iff_exists'.mp more
    obtain ⟨token', front'⟩ := Option.ne_none_iff_exists'.mp more'
    -- Each has its lookahead in front of what comes after it.
    have same := detached.upcoming
    rw [upcoming_eq_cons front, upcoming_eq_cons front', List.map_cons,
      List.map_cons] at same
    exact (List.cons.inj same).2
  depth := detached.depth
  limit := detached.limit

/-- Whatever defects the parsers record, they stay where they are. -/
theorem record (detached : p.Detached first second p') (error error' : SyntaxError) :
    (p.record error).Detached first second (p'.record error') where
  -- A recorded defect changes neither what is upcoming nor the depth.
  ready := (detached.ready.record error).1
  ready' := (detached.ready'.record error').1
  upcoming := by
    rw [(detached.ready.record error).2, (detached.ready'.record error').2]
    exact detached.upcoming
  depth := detached.depth
  limit := detached.limit

/-- The same depth for both parsers makes no difference. -/
theorem level (detached : p.Detached first second p') {depth depth' : Nat}
    (same : depth' = depth) :
    { p with depth }.Detached first second { p' with depth := depth' } :=
  -- Readiness and the upcoming tokens do not depend on the depth.
  ⟨detached.ready.withDepth depth, detached.ready'.withDepth depth', detached.upcoming, same,
    detached.limit⟩

end Detached

end Parser

open Scriptlet.Parser

variable {first second : Nat → Nat}

/-- Two parsers in front of the same tokens, as far as their lines matter, whatever both record. -/
def Tandem.detached (first second : Nat → Nat)
    (covers : ∀ line, ∃ line', first line = second line') : Tandem where
  blame error _ := error
  first := first
  second := second
  beside := Detached first second
  arrived := Detached first second
  lost _ := False
  strayed _ := False
  hopeless _ _ := False
  alike _ _ _ _ := True
  ready detached := detached.ready
  look detached := by
    have look := congrArg (Option.map Token.content) detached.look
    rwa [Option.map_map, Option.map_map] at look
  line detached more := (detached.line more).symm
  covers := covers
  pull detached more := .inl (detached.pull more)
  record detached _ := detached.record _ _
  deeper detached room := ⟨by rw [detached.depth, detached.limit]; exact room,
    detached.level (congrArg (· + 1) detached.depth)⟩
  full detached full := .inr ⟨by rw [detached.depth, detached.limit]; exact full, trivial⟩
  back detached := detached.level (congrArg (· - 1) detached.depth)
  stop _ _ := .inr trivial
  alike_depth alike _ _ := alike
  arrived_of_beside detached := detached
  settled := .inl
  lost_of_strayed := id
  strayed_pull lost _ := lost
  lost_depth lost _ := lost
  hopeless_of_lost lost _ := lost
  hopeless_depth hopeless _ := hopeless
  strayed_record := id

/-- Parsers in front of the same tokens are followed wherever they go. -/
theorem Tandem.faithful_detached {covers : ∀ line, ∃ line', first line = second line'} :
    (Tandem.detached first second covers).Faithful :=
  -- The relation asks for nothing beyond what the parsers show.
  ⟨id, id⟩

end Scriptlet
