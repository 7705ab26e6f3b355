import Mathlib.Data.List.Forall2
import Scriptlet.Proofs.Parser.Acceptance
import Scriptlet.Proofs.Parser.Concatenation
import Scriptlet.Proofs.Parser.Detached

/-! What is read depends on a source through its tokens alone: layout moves lines and nothing else,
and where a source ends shows only in the defects that are met there. -/

namespace Scriptlet

namespace Parser

variable {f : Nat → Nat} {last last' : Nat} {p p' : Parser}

/-- A defect as it is, or on a given line if it is met where no token is left. -/
def endsOn (line : Nat) (error : SyntaxError) (p : Parser) : SyntaxError :=
  if p.lookahead = none then error.mapLine fun _ => line else error

/-- Two parsers in front of tokens that are the same as far as their lines matter, in sources that
end on given lines. -/
structure Alongside (f : Nat → Nat) (last last' : Nat) (p p' : Parser) : Prop where
  ready : p.Ready
  ready' : p'.Ready
  upcoming : p'.upcoming.map (Token.mapLine f) = p.upcoming.map (Token.mapLine f)
  depth : p'.depth = p.depth
  limit : p'.limit = p.limit
  finalLine : p.finalLine = last
  finalLine' : p'.finalLine = last'

namespace Alongside

/-- Both parsers are in front of the same tokens on the same level. -/
theorem detached (alongside : p.Alongside f last last' p') : p.Detached f f p' :=
  -- Where their sources end is forgotten.
  ⟨alongside.ready, alongside.ready', alongside.upcoming, alongside.depth, alongside.limit⟩

/-- In sources that end on the same line, both parsers are on the same line everywhere. -/
theorem currentLine_eq (alongside : p.Alongside f last last p') :
    f p'.currentLine = f p.currentLine := by
  -- Where no token is left, the line is the last one of the source.
  by_cases more : p.lookahead = none
  · have more' := alongside.detached.lookahead_eq_none_iff.mpr more
    rw [alongside.ready.currentLine_of_none more, alongside.ready'.currentLine_of_none more',
      alongside.finalLine, alongside.finalLine']
  · exact alongside.detached.line more

/-- Both parsers meet the same defect, as far as their lines matter. -/
theorem meet (alongside : p.Alongside f last last' p') (line : f p'.currentLine = f p.currentLine)
    (obstacle : Obstacle) : (p'.meet obstacle).mapLine f = (p.meet obstacle).mapLine f := by
  -- A defect shows the limit or the token that is next, and the line.
  have look := alongside.detached.look
  cases obstacle with
  | overflow =>
    simp only [Parser.meet, overflow, SyntaxError.mapLine, alongside.limit, line]
  | unexpected expected =>
    cases front : p.lookahead with
    | none =>
      have front' := alongside.detached.lookahead_eq_none_iff.mpr front
      simp only [Parser.meet, defect, front, front', SyntaxError.mapLine, line]
    | some token =>
      rw [front] at look
      obtain ⟨token', front', same⟩ := Option.map_eq_some_iff.mp look
      have lines : f token'.line = f token.line := congrArg Token.line same
      simp only [Parser.meet, defect, front, front', SyntaxError.mapLine, same, lines]

/-- Both parsers move on to the same token. -/
theorem pull (alongside : p.Alongside f last last' p') (more : p.lookahead ≠ none) :
    p.pull.Alongside f last last' p'.pull where
  -- Moving on takes the same token, and leaves the last lines of both sources.
  ready := ready_pull alongside.ready.normal
  ready' := ready_pull alongside.ready'.normal
  upcoming := (alongside.detached.pull more).upcoming
  depth := alongside.depth
  limit := alongside.limit
  finalLine := (finalLine_pull alongside.ready.normal).trans alongside.finalLine
  finalLine' := (finalLine_pull alongside.ready'.normal).trans alongside.finalLine'

/-- Whatever defects the parsers record, they stay where they are. -/
theorem record (alongside : p.Alongside f last last' p') (error error' : SyntaxError) :
    (p.record error).Alongside f last last' (p'.record error') where
  -- Recording touches neither the tokens nor the lines.
  ready := (alongside.ready.record error).1
  ready' := (alongside.ready'.record error').1
  upcoming := (alongside.detached.record error error').upcoming
  depth := alongside.depth
  limit := alongside.limit
  finalLine := alongside.finalLine
  finalLine' := alongside.finalLine'

/-- The same depth for both parsers makes no difference. -/
theorem level (alongside : p.Alongside f last last' p') {depth depth' : Nat}
    (same : depth' = depth) :
    { p with depth }.Alongside f last last' { p' with depth := depth' } :=
  -- Nor does the depth.
  ⟨alongside.ready.withDepth depth, alongside.ready'.withDepth depth', alongside.upcoming, same,
    alongside.limit, alongside.finalLine, alongside.finalLine'⟩

end Alongside

end Parser

open Scriptlet.Parser

/-- Two parsers in front of tokens that are the same as far as their lines matter, which record
defects that agree. -/
def Tandem.alongside (f : Nat → Nat) (last last' : Nat)
    (blame : SyntaxError → Parser → SyntaxError) (agree : SyntaxError → SyntaxError → Prop)
    (records : ∀ {p p'}, p.Alongside f last last' p' → ∀ obstacle,
      agree (blame (p.meet obstacle) p) (p'.meet obstacle)) : Tandem where
  blame := blame
  first := f
  second := f
  beside p p' := p.Alongside f last last' p' ∧ List.Forall₂ agree p.syntaxErrors p'.syntaxErrors
  arrived p p' := p.Alongside f last last' p' ∧ List.Forall₂ agree p.syntaxErrors p'.syntaxErrors
  lost _ := False
  strayed _ := False
  hopeless _ _ := False
  alike error error' p p' := ∃ obstacle, error = p.meet obstacle ∧ error' = p'.meet obstacle
  ready beside := beside.1.ready
  look := by
    rintro p p' ⟨alongside, -⟩
    have look := congrArg (Option.map Token.content) alongside.detached.look
    rwa [Option.map_map, Option.map_map] at look
  line beside more := (beside.1.detached.line more).symm
  covers line := ⟨line, rfl⟩
  pull := by
    rintro p p' ⟨alongside, errors⟩ more
    exact .inl ⟨alongside.pull more, by rwa [syntaxErrors_pull, syntaxErrors_pull]⟩
  record := by
    rintro p p' _ _ ⟨alongside, errors⟩ ⟨obstacle, rfl, rfl⟩
    refine ⟨alongside.record _ _, ?_⟩
    rw [syntaxErrors_record, syntaxErrors_record]
    exact List.rel_append errors (.cons (records alongside obstacle) .nil)
  deeper := by
    rintro p p' ⟨alongside, errors⟩ room
    exact ⟨by rw [alongside.depth, alongside.limit]; exact room,
      alongside.level (congrArg (· + 1) alongside.depth), errors⟩
  full := by
    rintro p p' ⟨alongside, -⟩ full
    exact .inr ⟨by rw [alongside.depth, alongside.limit]; exact full, .overflow, rfl, rfl⟩
  back := by
    rintro p p' ⟨alongside, errors⟩
    exact ⟨alongside.level (congrArg (· - 1) alongside.depth), errors⟩
  stop _ expected := .inr ⟨.unexpected expected, rfl, rfl⟩
  alike_depth := by
    rintro p p' _ _ ⟨obstacle, rfl, rfl⟩ depth depth'
    exact ⟨obstacle, (p.meet_depth depth obstacle).symm, (p'.meet_depth depth' obstacle).symm⟩
  arrived_of_beside beside := beside
  settled := .inl
  lost_of_strayed := id
  strayed_pull lost _ := lost
  lost_depth lost _ := lost
  hopeless_of_lost lost _ := lost
  hopeless_depth hopeless _ := hopeless
  strayed_record := id

/-- Reads a source, and records another defect in the place of each one. -/
def parseBlaming (blame : SyntaxError → Parser → SyntaxError) (limit : Nat) (source : String) :
    Output :=
  let (items, after) :=
    itemsBlaming blame (tokenize source).length false (ofSource source limit)
  ⟨⟨items⟩, after.diagnostics.toList⟩

section Sources

variable {f : Nat → Nat}

/-- With each defect in its own place, a source is read in the usual way. -/
theorem parseBlaming_self {blame : SyntaxError → Parser → SyntaxError}
    (own : ∀ error p, blame error p = error) (limit : Nat) (source : String) :
    parseBlaming blame limit source = parseWithin limit source := by
  -- Items that blame each defect on itself are the usual ones.
  rw [parseWithin_eq limit source (Nat.le_refl _), parseBlaming, itemsBlaming_self own]
  rfl

/-- Sources with the same tokens, as far as their lines matter, give the same items, and defects
that agree. -/
theorem parseBlaming_alongside (blame : SyntaxError → Parser → SyntaxError)
    (agree : SyntaxError → SyntaxError → Prop) (limit : Nat) (source other : String)
    (records : ∀ {p p' : Parser}, p.Alongside f (1 + Lexer.lineEnds source.toList)
      (1 + Lexer.lineEnds other.toList) p' → ∀ obstacle,
        agree (blame (p.meet obstacle) p) (p'.meet obstacle))
    (same : (tokenize other).map (Token.mapLine f) = (tokenize source).map (Token.mapLine f)) :
    (parseBlaming blame limit source).program.mapLines f =
        (parseWithin limit other).program.mapLines f ∧
      List.Forall₂ agree (parseBlaming blame limit source).syntaxErrors
        (parseWithin limit other).syntaxErrors := by
  obtain ⟨ready, front, depth, bound, errors⟩ := ofSource_view source limit
  obtain ⟨ready', front', depth', bound', errors'⟩ := ofSource_view other limit
  have alongside : (ofSource source limit).Alongside f (1 + Lexer.lineEnds source.toList)
      (1 + Lexer.lineEnds other.toList) (ofSource other limit) :=
    ⟨ready, ready', by rw [front, front', same], depth'.trans depth.symm,
      bound'.trans bound.symm, finalLine_ofSource source limit, finalLine_ofSource other limit⟩
  -- Both sources have as many tokens, so that one bound covers both.
  have length : (tokenize source).length = (tokenize other).length := by
    simpa using (congrArg List.length same).symm
  rcases Tandem.items_side_by_side (T := Tandem.alongside f _ _ blame agree records)
    ⟨alongside, by rw [errors, errors']; exact .nil⟩ (Nat.le_of_eq (congrArg List.length front))
    (Nat.le_of_eq length) false with lost | ⟨items, -, recorded⟩
  · exact lost.elim
  · rw [parseWithin_eq limit other (Nat.le_refl _)]
    exact ⟨congrArg Program.mk items, recorded⟩

/-- What is recorded in the place of a defect makes no difference to the items, and the defects are
met in the same order. -/
theorem parseBlaming_eq (blame : SyntaxError → Parser → SyntaxError) (limit : Nat)
    (source : String) :
    (parseBlaming blame limit source).program = (parseWithin limit source).program ∧
      List.Forall₂ (fun recorded error => ∃ p, p.Meets error ∧ recorded = blame error p)
        (parseBlaming blame limit source).syntaxErrors (parseWithin limit source).syntaxErrors := by
  -- The source is read beside itself.
  have both := parseBlaming_alongside (f := id) blame
    (fun recorded error => ∃ p, p.Meets error ∧ recorded = blame error p) limit source source
    (fun {p p'} alongside obstacle => ?_) rfl
  · refine ⟨?_, both.2⟩
    have items := both.1
    simp only [Program.mapLines, Item.mapAllLines_id] at items
    exact items
  · have same := alongside.meet alongside.currentLine_eq obstacle
    rw [SyntaxError.mapLine_id, SyntaxError.mapLine_id] at same
    exact ⟨p, ⟨obstacle, same⟩, by rw [same]⟩

/-- In sources with the same tokens, the same defects are met, apart from the lines of those that
are met at the end. -/
theorem syntaxErrors_endsOn (limit : Nat) {source other : String}
    (same : tokenize source = tokenize other) :
    (parseBlaming (endsOn (1 + Lexer.lineEnds other.toList)) limit source).syntaxErrors =
      (parseWithin limit other).syntaxErrors := by
  rw [← List.forall₂_eq_eq_eq]
  refine (parseBlaming_alongside (f := id) _ _ limit source other
    (fun {p p'} alongside obstacle => ?_) (by rw [same])).2
  unfold endsOn
  split
  · -- At the end only the line of the source matters.
    rename_i ended
    have ended' := alongside.detached.lookahead_eq_none_iff.mpr ended
    have last := (alongside.ready'.currentLine_of_none ended').trans alongside.finalLine'
    cases obstacle <;> simp only [meet, defect, overflow, ended, ended', SyntaxError.mapLine, last,
      alongside.limit]
  · rename_i more
    have found := alongside.meet (alongside.detached.line more) obstacle
    rwa [SyntaxError.mapLine_id, SyntaxError.mapLine_id, eq_comm] at found

end Sources

/-- What is read depends on a source through its tokens. If two sources have tokens of the same
kinds and values, their programs and their syntax defects are the same apart from lines; if the
lines of the tokens agree as well, the programs are the same, and so are the syntax defects as soon
as those that are met at the end of the one source are put on the last line of the other one. -/
theorem parseWithin_layout (limit : Nat) (source other : String)
    (same : (tokenize source).map Token.content = (tokenize other).map Token.content) :
    ((parseWithin limit source).program.mapLines (fun _ => 0) =
        (parseWithin limit other).program.mapLines (fun _ => 0) ∧
      (parseWithin limit source).syntaxErrors.map (SyntaxError.mapLine fun _ => 0) =
        (parseWithin limit other).syntaxErrors.map (SyntaxError.mapLine fun _ => 0)) ∧
    (tokenize source = tokenize other →
      (parseWithin limit source).program = (parseWithin limit other).program ∧
      (parseWithin limit source).syntaxErrors =
        (parseBlaming (endsOn (1 + Lexer.lineEnds source.toList)) limit source).syntaxErrors ∧
      (parseWithin limit other).syntaxErrors =
        (parseBlaming (endsOn (1 + Lexer.lineEnds other.toList)) limit source).syntaxErrors) := by
  have own : ∀ (error : SyntaxError) (p : Parser), (fun error _ => error) error p = error :=
    fun _ _ => rfl
  refine ⟨?_, fun all => ?_⟩
  · -- Without its line, a token is what its kind and its value are.
    have erased (tokens : List Token) : tokens.map (Token.mapLine fun _ => 0) =
        (tokens.map Token.content).map fun content => ⟨content.1, content.2, 0⟩ := by
      rw [List.map_map]
      rfl
    have both := parseBlaming_alongside (f := fun _ => 0) (fun error _ => error)
      (fun error error' => error.mapLine (fun _ => 0) = error'.mapLine fun _ => 0)
      limit source other (fun alongside obstacle => (alongside.meet rfl obstacle).symm)
      (by rw [erased, erased, same])
    rw [parseBlaming_self own] at both
    refine both.imp_right fun errors => ?_
    rwa [← List.forall₂_eq_eq_eq, List.forall₂_map_left_iff, List.forall₂_map_right_iff]
  · have both := parseBlaming_alongside (f := id) (fun error _ => error) (fun _ _ => True)
      limit source other (fun _ _ => trivial) (by rw [all])
    rw [parseBlaming_self own] at both
    have items := both.1
    simp only [Program.mapLines, Item.mapAllLines_id] at items
    exact ⟨items, (syntaxErrors_endsOn limit rfl).symm, (syntaxErrors_endsOn limit all).symm⟩

/-- A block that is left open, in front of a comment and further lines or of none: the end of the
source is on another line, and all else is the same. -/
theorem parseWithin_layout_openBlock :
    tokenize "f(1;\nfunction g() \x7b" = tokenize "f(1;\nfunction g() \x7b // \x7d\n\n" ∧
    (parseWithin 8 "f(1;\nfunction g() \x7b").program =
      (parseWithin 8 "f(1;\nfunction g() \x7b // \x7d\n\n").program ∧
    (parseWithin 8 "f(1;\nfunction g() \x7b").syntaxErrors =
      (parseBlaming (endsOn 2) 8 "f(1;\nfunction g() \x7b").syntaxErrors ∧
    (parseWithin 8 "f(1;\nfunction g() \x7b // \x7d\n\n").syntaxErrors =
      (parseBlaming (endsOn 4) 8 "f(1;\nfunction g() \x7b").syntaxErrors := by
  -- The comment is no token, so that both sources have the same tokens on the same lines.
  have same : tokenize "f(1;\nfunction g() \x7b" =
      tokenize "f(1;\nfunction g() \x7b // \x7d\n\n" := by decide +kernel
  exact ⟨same, (parseWithin_layout 8 _ _ (congrArg _ same)).2 same⟩

end Scriptlet
