import Scriptlet.Proofs.Parser.Lasting
import Scriptlet.Proofs.Token.Apart

/-! A source in front of another one: the parser reads the one and then the other, as if each stood
alone. -/

namespace Scriptlet

namespace Parser

variable {distance : Nat} {tail : List Lexeme} {held : List LexicalError}
  {early : List Diagnostic} {p p' q : Parser}

/-- Two parsers in front of the same tokens, on lines some way apart, of which the second one has
more lexemes behind these tokens and more diagnostics in front of its own. -/
structure Apart (distance : Nat) (tail : List Lexeme) (early : List Diagnostic)
    (p p' : Parser) : Prop where
  ready : p.Ready
  lexers : p.lexer.Apart distance tail [] p'.lexer
  lookahead : p'.lookahead = p.lookahead.map (Token.mapLine (· + distance))
  line : p'.lastLine = p.lastLine + distance
  depth : p'.depth = p.depth
  limit : p'.limit = p.limit
  diagnostics : p'.diagnostics.toList =
    early ++ p.diagnostics.toList.map (Diagnostic.mapLine (· + distance))

namespace Apart

variable (apart : p.Apart distance tail early p')

include apart

/-- Both parsers see the same token. -/
theorem look : p'.lookahead.map Token.content = p.lookahead.map Token.content := by
  -- A line is no part of what a token tells.
  rw [apart.lookahead, Option.map_map]
  rfl

/-- The lines of both parsers are some way apart. -/
theorem currentLine : p'.currentLine = p.currentLine + distance :=
  -- It is the line that either parser keeps.
  apart.line

/-- Both parsers meet the same defect. -/
theorem meet (obstacle : Obstacle) :
    p'.meet obstacle = (p.meet obstacle).mapLine (· + distance) := by
  -- A defect shows the lookahead or the limit, and the line.
  cases obstacle with
  | unexpected expected =>
    rw [Parser.meet, Parser.meet, defect, defect, apart.lookahead, apart.currentLine]
    cases p.lookahead <;> rfl
  | overflow =>
    rw [Parser.meet, Parser.meet, overflow, overflow, apart.limit, apart.currentLine]
    rfl

/-- Both parsers record the same defect. -/
theorem record (error : SyntaxError) :
    (p.record error).Apart distance tail early (p'.record (error.mapLine (· + distance))) where
  -- The defect comes last for both parsers, and nothing else is changed.
  ready := (apart.ready.record error).1
  lexers := ⟨apart.lexers.normal, apart.lexers.normal', apart.lexers.line, apart.lexers.errors,
    apart.lexers.lexemes⟩
  lookahead := apart.lookahead
  line := apart.line
  depth := apart.depth
  limit := apart.limit
  diagnostics := by
    simp [Parser.record, Parser.note, apart.diagnostics, Diagnostic.mapLine]

/-- The same depth for both parsers makes no difference. -/
theorem level (depth : Nat) :
    { p with depth }.Apart distance tail early { p' with depth } :=
  -- The same depth is put in the place of what was the same.
  ⟨apart.ready.withDepth depth, apart.lexers, apart.lookahead, apart.line, rfl, apart.limit,
    apart.diagnostics⟩

end Apart

/-- A first parser is at the end of its source, and a second one is about to move on into the
lexemes behind it. -/
structure Over (tail : List Lexeme) (p q : Parser) : Prop where
  ready : p.Ready
  ended : p.lookahead = none
  normal : q.lexer.mode = .normal
  rest : q.lexer.rest = Lexeme.joined tail
  line : q.lexer.line = p.lexer.line
  depth : q.depth = p.depth
  limit : q.limit = p.limit
  diagnostics : q.diagnostics.toList ++ q.lexer.errors.toList.map Diagnostic.lexical =
    p.diagnostics.toList

section Pull

variable (depth : p'.depth = p.depth) (limit : p'.limit = p.limit)
  (diagnostics : p'.diagnostics.toList ++ held.map Diagnostic.lexical =
    early ++ p.diagnostics.toList.map (Diagnostic.mapLine (· + distance)))

include depth limit diagnostics

/-- Where both lexers read the same, both parsers move on to the same token. -/
theorem apart_pull_of_next (normal : p.lexer.mode = .normal)
    (same : p'.lexer.next.1 = p.lexer.next.1.map (Token.mapLine (· + distance)))
    (after : p.lexer.next.2.Apart distance tail held p'.lexer.next.2) :
    p.pull.Apart distance tail early p'.pull where
  ready := ready_pull normal
  lexers := ⟨after.normal, after.normal', after.line, rfl, after.lexemes⟩
  lookahead := same
  line := by
    -- Both parsers keep the line of the token, or the one that their lexer has come to.
    have read : p.pull.lookahead = p.lexer.next.1 := rfl
    have read' : p'.pull.lookahead = p'.lexer.next.1 := rfl
    have further : p'.pull.lexer.line = p.pull.lexer.line + distance := after.line
    rw [lastLine_pull, lastLine_pull, read', same, read, further]
    cases p.lexer.next.1 <;> rfl
  depth := depth
  limit := limit
  diagnostics := by
    -- What the lexers held is recorded behind what had been.
    rw [toList_diagnostics_pull, toList_diagnostics_pull, after.errors, List.map_append,
      ← List.append_assoc, diagnostics]
    simp [Function.comp_def, Diagnostic.mapLine]

/-- Without lexemes behind those of the first lexer, both parsers move on to the same token. -/
theorem apart_pull (lexers : p.lexer.Apart distance [] held p'.lexer) :
    p.pull.Apart distance [] early p'.pull := by
  -- With nothing behind the first source, the second one ends where the first one does.
  refine apart_pull_of_next depth limit diagnostics lexers.normal ?_ ?_
  · rcases lexers.next with ⟨token, read, read', after⟩ | ⟨read, beyond, after, rest, same⟩
    · rw [read, read']
      rfl
    · rw [read, same, Lexer.next_of_nil after.normal' rest]
      rfl
  · rcases lexers.next with ⟨token, read, read', after⟩ | ⟨read, beyond, after, rest, same⟩
    · exact after
    · rwa [same, Lexer.next_of_nil after.normal' rest]

end Pull

/-- On the same lines, both parsers move on to the same token, unless the first one comes to its
end. -/
theorem pull_through (lexers : p.lexer.Apart 0 tail [] p'.lexer) (depth : p'.depth = p.depth)
    (limit : p'.limit = p.limit)
    (diagnostics : p'.diagnostics.toList = p.diagnostics.toList) :
    p.pull.Apart 0 tail [] p'.pull ∧ p.pull.lookahead ≠ none ∨
      ∃ q, Over tail p.pull q ∧ p'.pull = q.pull := by
  have recorded : p'.diagnostics.toList ++ ([] : List LexicalError).map Diagnostic.lexical =
      [] ++ p.diagnostics.toList.map (Diagnostic.mapLine (· + 0)) := by
    rw [Diagnostic.map_mapLine_add_zero, ← diagnostics]
    simp
  -- Both sources go on with the same token, or the first one has ended.
  rcases lexers.next with ⟨token, read, read', after⟩ | ⟨read, beyond, after, rest, same⟩
  · refine .inl ⟨apart_pull_of_next depth limit recorded lexers.normal ?_ after, ?_⟩
    · rw [read, read']
      rfl
    · show p.lexer.next.1 ≠ none
      simp [read]
  · -- What was held at the end has been recorded by the first parser, and not yet by the second.
    refine .inr ⟨{ p' with lexer := beyond }, ⟨ready_pull lexers.normal, read, after.normal', rest,
      after.line, depth, limit, ?_⟩, ?_⟩
    · have held : beyond.errors.toList.map Diagnostic.lexical =
          p.lexer.next.2.errors.toList.map Diagnostic.lexical := by
        rw [after.errors, ← Diagnostic.map_mapLine_add_zero (p.lexer.next.2.errors.toList.map _)]
        simp [Function.comp_def, Diagnostic.mapLine]
      rw [held, diagnostics, toList_diagnostics_pull]
    · rw [pull, pull, same]

/-- Behind the end of the first parser stand the tokens of the lexemes that the second one has in
addition. -/
theorem Over.upcoming_pull (beyond : Over tail p q) (fitting : Lexeme.Fitting tail) :
    q.pull.Ready ∧ q.pull.upcoming = Lexeme.tokens p.lexer.line tail := by
  -- The second parser has only to move on from where the first source has ended.
  refine ⟨ready_pull beyond.normal, ?_⟩
  rw [Parser.upcoming_pull, (Lexer.drain_fitting fitting beyond.normal beyond.rest).1,
    beyond.line]

/-- The defect that is recorded in the place of one: the end of the source, if it is met there. -/
def endBlame (error : SyntaxError) (p : Parser) : SyntaxError :=
  if p.lookahead = none then .unexpectedEnd "" p.currentLine else error

/-- The end of the source is among the recorded defects. -/
def MetEnd (p : Parser) : Prop :=
  ∃ expected line, Diagnostic.syntactic (.unexpectedEnd expected line) ∈ p.diagnostics.toList

/-- What has been recorded stays recorded behind the next token. -/
theorem MetEnd.pull (met : p.MetEnd) : p.pull.MetEnd := by
  -- Moving on records more behind it.
  obtain ⟨expected, line, recorded⟩ := met
  exact ⟨expected, line, by simp [Parser.pull, recorded]⟩

/-- What has been recorded stays recorded behind another defect. -/
theorem MetEnd.record (met : p.MetEnd) (error : SyntaxError) : (p.record error).MetEnd := by
  -- The other defect is put behind it.
  obtain ⟨expected, line, recorded⟩ := met
  exact ⟨expected, line, by simp [Parser.record, recorded]⟩

/-- A defect where no token is left is recorded as the end of the source. -/
theorem metEnd_record_endBlame (met : p.MetEnd ∨ p.lookahead = none) (error : SyntaxError) :
    (p.record (endBlame error p)).MetEnd := by
  -- Either the end is among the defects already, or this is the first one that is met there.
  rcases met with met | ended
  · exact met.record _
  · refine ⟨"", p.currentLine, ?_⟩
    simp [Parser.record, endBlame, ended]

end Parser

open Scriptlet.Parser

namespace Tandem

/-- One parser in front of a source beside another one that has more lexemes behind it, up to a
defect at the end of the source. -/
def through (tail : List Lexeme) (fitting : Lexeme.Fitting tail)
    (noElse : ∀ line token, (Lexeme.tokens line tail).head? = some token →
      token.kind ≠ .elseWord) : Tandem where
  blame := endBlame
  first := (· + 0)
  second := id
  beside p p' := p.Apart 0 tail [] p' ∧ p.lookahead ≠ none
  arrived p p' := p.Apart 0 tail [] p' ∧ p.lookahead ≠ none ∨ ∃ q, Over tail p q ∧ p' = q.pull
  lost p := p.MetEnd ∨ p.lookahead = none
  strayed := MetEnd
  hopeless _ p := p.MetEnd ∨ p.lookahead = none
  alike error error' _ _ := error' = error.mapLine (· + 0)
  ready beside := beside.1.ready
  look beside := beside.1.look
  line beside _ := beside.1.currentLine.symm
  covers line := ⟨line, rfl⟩
  pull := by
    rintro p p' ⟨apart, -⟩ -
    exact .inl (pull_through apart.lexers apart.depth apart.limit
      (by rw [apart.diagnostics, Diagnostic.map_mapLine_add_zero, List.nil_append]))
  record := by
    rintro p p' e e' ⟨apart, more⟩ rfl
    rw [endBlame, if_neg more]
    exact ⟨apart.record e, more⟩
  deeper := by
    rintro p p' ⟨apart, more⟩ room
    exact ⟨by rw [apart.depth, apart.limit]; exact room, apart.depth ▸ apart.level _, more⟩
  full := by
    rintro p p' ⟨apart, -⟩ full
    exact .inr ⟨by rw [apart.depth, apart.limit]; exact full, apart.meet .overflow⟩
  back := by
    rintro p p' ⟨apart, more⟩
    exact ⟨apart.depth ▸ apart.level _, more⟩
  stop := by
    rintro p p' ⟨apart, -⟩ expected
    exact .inr (apart.meet (.unexpected expected))
  alike_depth alike _ _ := alike
  arrived_of_beside := .inl
  settled := by
    rintro p p' (beside | ⟨q, beyond, rfl⟩)
    · exact .inl beside
    · refine .inr ⟨.inr beyond.ended, by simp [kind?, beyond.ended], ?_⟩
      -- The first token behind the end does not go on with an item.
      obtain ⟨ready, upcoming⟩ := beyond.upcoming_pull fitting
      rw [ready.kind?_eq, upcoming]
      cases front : (Lexeme.tokens p.lexer.line tail).head? with
      | none => simp
      | some token => simpa using noElse _ token front
  lost_of_strayed := .inl
  strayed_pull lost more := (lost.resolve_right more).pull
  lost_depth lost _ := lost
  hopeless_of_lost lost _ := lost
  hopeless_depth hopeless _ := hopeless
  strayed_record hopeless := metEnd_record_endBlame hopeless _

/-- One parser beside another one that reads the same on other lines, behind other diagnostics. -/
def shifted (distance : Nat) (early : List Diagnostic) : Tandem where
  blame error _ := error
  first := (· + distance)
  second := id
  beside p p' := p.Apart distance [] early p'
  arrived p p' := p.Apart distance [] early p'
  lost _ := False
  strayed _ := False
  hopeless _ _ := False
  alike error error' _ _ := error' = error.mapLine (· + distance)
  ready apart := apart.ready
  look apart := apart.look
  line apart _ := apart.currentLine.symm
  covers line := ⟨line + distance, rfl⟩
  pull apart _ :=
    .inl (apart_pull apart.depth apart.limit (by simp [apart.diagnostics]) apart.lexers)
  record := by
    rintro p p' e e' apart rfl
    exact apart.record e
  deeper apart room :=
    ⟨by rw [apart.depth, apart.limit]; exact room, apart.depth ▸ apart.level _⟩
  full apart full :=
    .inr ⟨by rw [apart.depth, apart.limit]; exact full, apart.meet .overflow⟩
  back apart := apart.depth ▸ apart.level _
  stop apart expected := .inr (apart.meet (.unexpected expected))
  alike_depth alike _ _ := alike
  arrived_of_beside apart := apart
  settled := .inl
  lost_of_strayed := id
  strayed_pull lost _ := lost
  lost_depth lost _ := lost
  hopeless_of_lost lost _ := lost
  hopeless_depth hopeless _ := hopeless
  strayed_record := id

/-- A parser that has recorded the end of the source, beside none. -/
def ended (blame : SyntaxError → Parser → SyntaxError) : Tandem where
  blame := blame
  first := id
  second := id
  beside _ _ := False
  arrived _ _ := False
  lost := MetEnd
  strayed := MetEnd
  hopeless _ := MetEnd
  alike error error' _ _ := error = error'
  ready := False.elim
  look := False.elim
  line := False.elim
  covers := covers_id
  pull := False.elim
  record := False.elim
  deeper := False.elim
  full := False.elim
  back := False.elim
  stop := False.elim
  alike_depth alike _ _ := alike
  arrived_of_beside := id
  settled := False.elim
  lost_of_strayed := id
  strayed_pull met _ := met.pull
  lost_depth met _ := met
  hopeless_of_lost met _ := met
  hopeless_depth met _ := met
  strayed_record met := met.record _

end Tandem

namespace Parser

variable {tail : List Lexeme} {p p' : Parser} {bound bound' : Nat}

/-- What has been recorded stays recorded behind all items. -/
theorem MetEnd.items {blame : SyntaxError → Parser → SyntaxError} (met : p.MetEnd) (bound : Nat)
    (inBlock : Bool) : (itemsBlaming blame bound inBlock p).2.MetEnd :=
  -- Reading items only moves on and records, whatever it is that is recorded.
  (Tandem.follows_items (T := Tandem.ended blame) (Nat.le_refl bound) inBlock).loses p met trivial

/-- The second parser reads the items that the first one reads, and then those that the lexemes
behind them hold, unless a defect is met at the end of the first source. -/
theorem itemsWithin_through {fitting : Lexeme.Fitting tail}
    {noElse : ∀ line token, (Lexeme.tokens line tail).head? = some token → token.kind ≠ .elseWord}
    (arrived : (Tandem.through tail fitting noElse).arrived p p')
    (fits : p.upcoming.length ≤ bound)
    (larger : bound + (Lexeme.tokens 1 tail).length ≤ bound') :
    (itemsBlaming endBlame bound false p).2.MetEnd ∨
      ∃ left q, Over tail (itemsBlaming endBlame bound false p).2 q ∧
        (Lexeme.tokens 1 tail).length ≤ left ∧
        itemsWithin bound' false p' =
          ((itemsBlaming endBlame bound false p).1 ++ (itemsWithin left false q.pull).1,
            (itemsWithin left false q.pull).2) := by
  -- Each round takes a token of the first source, or its end has come.
  induction bound generalizing bound' p p' with
  | zero =>
    rcases arrived with ⟨apart, more⟩ | ⟨q, beyond, rfl⟩
    · exact absurd (apart.ready.lookahead_eq_none_iff.mpr
        (List.length_eq_zero_iff.mp (Nat.le_zero.mp fits))) more
    · exact .inr ⟨bound', q, beyond, Nat.le_trans (Nat.le_add_left _ _) larger, rfl⟩
  | succ bound ih =>
    rcases arrived with beside | ⟨q, beyond, rfl⟩
    · obtain ⟨bound', rfl⟩ : ∃ n, bound' = n + 1 := ⟨bound' - 1, by omega⟩
      have room : bound + (Lexeme.tokens 1 tail).length ≤ bound' := by omega
      have within : bound ≤ bound' := Nat.le_trans (Nat.le_add_right _ _) room
      have item : (Tandem.through tail fitting noElse).Follows .inside .after (· ≠ none)
          (bound + 1) 1 _ (itemOf (itemsBlaming endBlame bound true) (bound + 1))
          (itemOf (itemsWithin bound' true) (bound' + 1)) :=
        Tandem.follows_itemOf (Tandem.follows_items within true) (Nat.succ_le_succ within)
          (Nat.le_refl _)
      -- Neither parser is at its end.
      have unfinished : ¬ p.atEnd false = true := by
        obtain ⟨token, front⟩ := Option.ne_none_iff_exists'.mp beside.2
        simp [atEnd, kind?, front]
      have unfinished' : ¬ p'.atEnd false = true := by
        have kinds := Tandem.kind?_eq (T := Tandem.through tail fitting noElse) beside
        rwa [atEnd, kinds]
      rw [itemsBlaming_round unfinished, itemsWithin_round unfinished']
      rcases Tandem.round_side_by_side item beside fits unfinished with
        met | ⟨agree, arrived, spends⟩
      · exact .inl (MetEnd.items met bound false)
      · -- Behind the round less is left of the first source.
        have shorter := spends.length_le
        refine (ih arrived (by omega) room).imp_right ?_
        rintro ⟨left, r, beyond, enough, whole⟩
        refine ⟨left, r, beyond, enough, ?_⟩
        simp only [whole, ← agree.eq rfl rfl, List.append_assoc]
        rfl
    · have absent : p.kind? = none := by rw [kind?, beyond.ended]; rfl
      rw [Tandem.itemsBlaming_of_none absent]
      exact .inr ⟨bound', q, beyond, Nat.le_trans (Nat.le_add_left _ _) larger, rfl⟩

/-- A parser is in the same place as it is itself. -/
theorem Ready.apart_self (ready : p.Ready) : p.Apart 0 [] [] p where
  -- The distance is zero, and there is nothing behind and nothing in front.
  ready := ready
  lexers := by
    obtain ⟨lexemes, fitting, joined⟩ := Lexeme.exists_fitting p.lexer.rest
    refine ⟨ready.normal, ready.normal, rfl, ?_, lexemes, fitting, ?_, joined.symm, ?_⟩
    · exact (List.map_id'' (fun error => error.mapLine_id) _).symm
    · rwa [List.append_nil]
    · rw [List.append_nil]
      exact joined.symm
  lookahead := by cases p.lookahead <;> simp [Token.mapLine]
  line := rfl
  depth := rfl
  limit := rfl
  diagnostics := (Diagnostic.map_mapLine_add_zero _).symm

/-- Writing into the log makes no difference to where a parser stands. -/
theorem Apart.note (apart : p.Apart distance tail early p') (event : Event) :
    p.Apart distance tail early (p'.note event) where
  -- The log is the one thing that a parser does not share with the other one.
  ready := apart.ready
  lexers := ⟨apart.lexers.normal, apart.lexers.normal', apart.lexers.line, apart.lexers.errors,
    apart.lexers.lexemes⟩
  lookahead := apart.lookahead
  line := apart.line
  depth := apart.depth
  limit := apart.limit
  diagnostics := apart.diagnostics

/-- Reading items keeps the depth and the limit. -/
theorem Ready.depth_itemsWithin (ready : p.Ready) (fits : p.upcoming.length ≤ bound)
    (inBlock : Bool) : (itemsWithin bound inBlock p).2.depth = p.depth ∧
      (itemsWithin bound inBlock p).2.limit = p.limit := by
  -- Reading moves a parser on, which leaves both of them.
  obtain ⟨_, _, _, _, moves, _⟩ := (reads_itemsWithin bound inBlock p ready fits trivial).1
  exact ⟨moves.depth, moves.limit⟩

/-- No step of a parser changes on which line its source ends. -/
theorem lasting_finalLine (last : Nat) : Lasting fun p => p.Ready ∧ p.finalLine = last where
  -- Only moving on touches the lexer, and it counts the line ends that it passes.
  ready counted := counted.1
  pull counted _ :=
    ⟨ready_pull counted.1.normal, (finalLine_pull counted.1.normal).trans counted.2⟩
  record counted _ := ⟨(counted.1.record _).1, counted.2⟩
  level counted depth := ⟨counted.1.withDepth depth, counted.2⟩

end Parser

/-- A source is read as its items are, with any bound that covers its tokens. -/
theorem parseWithin_eq (limit : Nat) (source : String) {bound : Nat}
    (fits : (tokenize source).length ≤ bound) :
    parseWithin limit source = ⟨⟨(itemsWithin bound false (ofSource source limit)).1⟩,
      (itemsWithin bound false (ofSource source limit)).2.diagnostics.toList⟩ := by
  obtain ⟨ready, front, -⟩ := ofSource_view source limit
  -- The log of a parser begins in front of its items, and is all that differs.
  have together := Tandem.itemsWithin_side_by_side (T := Tandem.shifted 0 []) (fun _ _ => rfl)
    (ready.apart_self.note .parsingStarted) (Nat.le_refl _) ready.length_upcoming_le false
  rw [← ready.itemsWithin_eq (Nat.le_refl _) (front ▸ fits) false] at together
  rcases together with lost | ⟨items, after⟩
  · exact lost.elim
  · have recorded := after.diagnostics
    rw [Diagnostic.map_mapLine_add_zero, List.nil_append] at recorded
    rw [parseWithin, output_eq, items.eq rfl rfl, ← recorded]

/-- No syntax defect of a source is met where no token is left. -/
def Completes (limit : Nat) (source : String) : Prop :=
  ¬ (itemsBlaming endBlame (tokenize source).length false (ofSource source limit)).2.MetEnd

section Behind

variable {limit : Nat} {source : String} {tail : List Lexeme}

/-- A source that completes is read in front of other lexemes as if it stood alone, and what is
behind it as if the parser began there. -/
theorem Completes.through (completes : Completes limit source) (fitting : Lexeme.Fitting tail)
    (noElse : ∀ line token, (Lexeme.tokens line tail).head? = some token → token.kind ≠ .elseWord)
    {whole : String} {lexemes : List Lexeme} (joined : source.toList = Lexeme.joined lexemes)
    (fitting' : Lexeme.Fitting lexemes) (more : Lexeme.Fitting (lexemes ++ tail))
    (joined' : whole.toList = Lexeme.joined (lexemes ++ tail)) {bound : Nat}
    (larger : (tokenize source).length + (Lexeme.tokens 1 tail).length ≤ bound) :
    ∃ left q, Over tail (itemsBlaming endBlame (tokenize source).length false
        (ofSource source limit)).2 q ∧ (Lexeme.tokens 1 tail).length ≤ left ∧
      itemsWithin bound false (ofSource whole limit) =
        ((itemsBlaming endBlame (tokenize source).length false (ofSource source limit)).1 ++
          (itemsWithin left false q.pull).1, (itemsWithin left false q.pull).2) := by
  -- Both lexers begin in the same place, and the first parser does not
  -- get lost on its way to the end.
  have start : (Lexer.ofSource source).Apart 0 tail [] (Lexer.ofSource whole) :=
    ⟨rfl, rfl, rfl, rfl, lexemes, fitting', more, joined, joined'⟩
  have arrived : (Tandem.through tail fitting noElse).arrived (ofSource source limit)
      (ofSource whole limit) :=
    pull_through (p := unmoved (.ofSource source) limit) start rfl rfl rfl
  have fits := length_upcoming_ofSource source limit
  exact (itemsWithin_through arrived fits larger).resolve_left completes

/-- A source that completes comes to the same if the defects that are met at its end are recorded as
such. -/
theorem Completes.alone (completes : Completes limit source) :
    let marked := itemsBlaming endBlame (tokenize source).length false (ofSource source limit)
    marked.1 = (parseWithin limit source).program.items ∧
      marked.2.diagnostics.toList = (parseWithin limit source).diagnostics ∧
      marked.2.depth = 0 ∧ marked.2.limit = limit ∧
      marked.2.lexer.line = 1 + Lexer.lineEnds source.toList := by
  obtain ⟨ready, -, depth, bound, -⟩ := ofSource_view source limit
  obtain ⟨lexemes, fitting, joined⟩ := Lexeme.exists_fitting source.toList
  have same : lexemes ++ [] = lexemes := List.append_nil lexemes
  have nothing : Lexeme.Fitting [] := trivial
  obtain ⟨left, q, beyond, -, read⟩ := completes.through nothing
    (fun line token none => by cases none) joined.symm fitting (same.symm ▸ fitting)
    (same.symm ▸ joined.symm) (Nat.le_refl _)
  -- Nothing is behind the source, so that its items are all.
  have ended : q.lexer.next = (none, q.lexer) := Lexer.next_of_nil beyond.normal beyond.rest
  have absent : q.pull.kind? = none := by simp [kind?, pull, ended]
  have stopped : q.pull.lexer = { q.lexer with errors := #[] } := by
    simp [pull, ended, Lexer.takeErrors]
  rw [Tandem.itemsWithin_of_none absent, List.append_nil] at read
  have alone : itemsWithin (tokenize source).length false (ofSource source limit) =
      ((itemsBlaming endBlame (tokenize source).length false (ofSource source limit)).1, q.pull) :=
    read
  have fits := length_upcoming_ofSource source limit
  have lines := ((lasting_finalLine (1 + Lexer.lineEnds source.toList)).items
    ⟨ready, finalLine_ofSource source limit⟩ fits (Nat.le_refl _) false).1.2
  have levels := ready.depth_itemsWithin fits false
  rw [alone] at lines levels
  rw [parseWithin_eq limit source (Nat.le_refl _), alone]
  refine ⟨rfl, ?_, beyond.depth ▸ levels.1.trans depth, beyond.limit ▸ levels.2.trans bound, ?_⟩
  · rw [← beyond.diagnostics]
    simp [pull, ended, Lexer.takeErrors]
  · simpa [finalLine, stopped, beyond.rest, beyond.line, Lexeme.joined, Lexer.lineEnds] using lines

/-- Behind a line end, a parser that has come over the end of a source stands as one that begins
there. -/
theorem Parser.Over.apart_ofSource {p q : Parser} {back : String} {lexemes : List Lexeme}
    (beyond : Over (.blank '\n' :: lexemes) p q) (fitting : Lexeme.Fitting lexemes)
    (joined : back.toList = Lexeme.joined lexemes) (depth : p.depth = 0) (bound : p.limit = limit) :
    (ofSource back limit).Apart p.lexer.line [] p.diagnostics.toList q.pull := by
  -- The line end is passed over, with what the lexer held before it.
  have passed : q.lexer.next =
      (q.lexer.behind (.blank '\n') (Lexeme.joined lexemes)).next :=
    Lexer.next_lexeme (by simp [Lexeme.Fits]) beyond.normal beyond.rest
  have same : q.pull =
      { q with lexer := q.lexer.behind (.blank '\n') (Lexeme.joined lexemes) }.pull := by
    rw [pull, pull, passed]
  have lexers : (Lexer.ofSource back).Apart p.lexer.line [] q.lexer.errors.toList
      (q.lexer.behind (.blank '\n') (Lexeme.joined lexemes)) := by
    refine ⟨rfl, by simpa using beyond.normal, ?_, ?_, lexemes, fitting, ?_, joined, ?_⟩
    · rw [Lexer.behind_line, beyond.line, Nat.add_comm]
      rfl
    · rw [Lexer.behind_errors]
      rfl
    · rwa [List.append_nil]
    · rw [Lexer.behind_rest, List.append_nil]
  rw [same]
  exact apart_pull (p := unmoved (.ofSource back) limit)
    (beyond.depth.trans depth) (beyond.limit.trans bound)
    (by simpa [unmoved] using beyond.diagnostics) lexers

end Behind

/-- A source behind a line end is read as it is alone, further down, unless the source in front of
it is left open, meets a defect at its end, or goes on with an alternative. -/
theorem parseWithin_append (limit : Nat) (front back : String)
    (strings : ∀ line, .unterminatedString line ∉ (tokenizeWithErrors front).2)
    (comments : ∀ line, .unterminatedComment line ∉ (tokenizeWithErrors front).2)
    (completes : Completes limit front)
    (noElse : ∀ first, (tokenize back).head? = some first → first.kind ≠ .elseWord) :
    parseWithin limit (front ++ "\n" ++ back) =
      ⟨⟨(parseWithin limit front).program.items ++
          Item.mapAllLines (· + (1 + Lexer.lineEnds front.toList))
            (parseWithin limit back).program.items⟩,
        (parseWithin limit front).diagnostics ++ (parseWithin limit back).diagnostics.map
          (Diagnostic.mapLine (· + (1 + Lexer.lineEnds front.toList)))⟩ := by
  obtain ⟨lexemes, fitting, joined⟩ := Lexeme.exists_fitting front.toList
  obtain ⟨others, fitting', joined'⟩ := Lexeme.exists_fitting back.toList
  have scanned := Lexer.drain_fitting fitting (l := Lexer.ofSource front) rfl joined.symm
  have tokens : tokenize back = Lexeme.tokens 1 others :=
    (Lexer.drain_fitting fitting' (l := Lexer.ofSource back) rfl joined'.symm).1
  -- The line end does not go on with the last lexeme in front of it.
  have behind : Lexeme.Fitting (.blank '\n' :: others) := ⟨by simp [Lexeme.Fits], fitting'⟩
  have both : Lexeme.Fitting (lexemes ++ .blank '\n' :: others) := by
    have defects : (tokenizeWithErrors front).2 = Lexeme.defects 1 lexemes := scanned.2.1
    rw [defects] at strings comments
    exact Lexeme.fitting_append_lineEnd fitting fitting' fun start =>
      ⟨strings start, comments start⟩
  have whole : (front ++ "\n" ++ back).toList =
      Lexeme.joined (lexemes ++ .blank '\n' :: others) := by
    simp [String.toList_append, Lexeme.joined, Lexeme.text, ← joined, ← joined']
  -- The tokens behind it are those of the second source, further down.
  have further (line : Nat) : Lexeme.tokens line (.blank '\n' :: others) =
      (tokenize back).map (Token.mapLine (· + line)) := by
    rw [tokens, ← Lexeme.tokens_add, Nat.add_comm, Lexeme.tokens_cons]
    rfl
  have noElse' : ∀ line token, (Lexeme.tokens line (.blank '\n' :: others)).head? = some token →
      token.kind ≠ .elseWord := by
    intro line token first
    rw [further, List.head?_map] at first
    obtain ⟨other, first', rfl⟩ := Option.map_eq_some_iff.mp first
    exact noElse other first'
  obtain ⟨left, q, beyond, enough, read⟩ := completes.through behind noElse' joined.symm fitting
    both whole (Nat.le_add_left _ (tokenize (front ++ "\n" ++ back)).length)
  obtain ⟨items, diagnostics, depth, bound, line⟩ := completes.alone
  -- What is behind the line end is read by a parser that stands as one of its own.
  have apart := beyond.apart_ofSource fitting' joined'.symm depth bound
  rw [line, diagnostics] at apart
  rw [further, List.length_map] at enough
  have fits : (ofSource back limit).upcoming.length ≤ (tokenize back).length :=
    Nat.le_of_eq (congrArg List.length (ofSource_view back limit).2.1)
  rcases Tandem.itemsWithin_side_by_side (T := Tandem.shifted _ _) (fun _ _ => rfl) apart fits
    enough false with lost | ⟨items', after⟩
  · exact lost.elim
  · have items' : Item.mapAllLines _ _ = Item.mapAllLines id _ := items'
    rw [Item.mapAllLines_id] at items'
    rw [parseWithin_eq limit _ (Nat.le_add_right _ _), read, after.diagnostics, ← items', items,
      parseWithin_eq limit back (Nat.le_refl _)]
    rfl

/-- Defects inside of both sources, and a foreign character at the end of the first one, do not keep
them from being read one after the other. -/
theorem parseWithin_append_recovered :
    parseWithin 4 ("x = ;\ny(1); @" ++ "\n" ++ "b \x7d z = true;") =
      ⟨⟨(parseWithin 4 "x = ;\ny(1); @").program.items ++
          Item.mapAllLines (· + (1 + Lexer.lineEnds "x = ;\ny(1); @".toList))
            (parseWithin 4 "b \x7d z = true;").program.items⟩,
        (parseWithin 4 "x = ;\ny(1); @").diagnostics ++
          (parseWithin 4 "b \x7d z = true;").diagnostics.map
            (Diagnostic.mapLine (· + (1 + Lexer.lineEnds "x = ;\ny(1); @".toList)))⟩ := by
  -- The first source meets no defect at its end, and the second one begins with a name.
  have scanned : (tokenizeWithErrors "x = ;\ny(1); @").2 = [.illegalCharacter '@' 2] := by
    decide +kernel
  have completes : Completes 4 "x = ;\ny(1); @" := by
    have recorded : (itemsBlaming endBlame (tokenize "x = ;\ny(1); @").length false
        (ofSource "x = ;\ny(1); @" 4)).2.diagnostics.toList =
          [.syntactic (.unexpectedToken (.fixed .semicolon 1) "expression" 1),
            .lexical (.illegalCharacter '@' 2)] := by decide +kernel
    simp [Completes, MetEnd, recorded]
  have first : (tokenize "b \x7d z = true;").head? = some (.word "b" 1) := by decide +kernel
  refine parseWithin_append 4 "x = ;\ny(1); @" "b \x7d z = true;" (by simp [scanned])
    (by simp [scanned]) completes fun token same => ?_
  rw [first] at same
  obtain rfl := Option.some.inj same
  decide

end Scriptlet
