import Scriptlet.Proofs.Parser.Parallel

/-! A larger nesting limit makes no difference to a source that the smaller one was enough for. -/

namespace Scriptlet

namespace Parser

variable {p : Parser} {error : SyntaxError}

/-- A defect about the nesting limit has been recorded. -/
def Overflowed (p : Parser) : Prop :=
  ∃ error ∈ p.syntaxErrors, error.isNesting = true

/-- What has been recorded stays recorded behind the next token. -/
theorem Overflowed.pull (overflowed : p.Overflowed) : p.pull.Overflowed := by
  -- A pull records lexical errors only.
  rwa [Overflowed, syntaxErrors_pull]

/-- A defect is about the nesting limit, or one of the recorded ones is. -/
theorem overflowed_record_iff :
    (p.record error).Overflowed ↔ error.isNesting = true ∨ p.Overflowed := by
  -- The new defect is one more to look at.
  simp [Overflowed, or_and_right, exists_or, or_comm]

end Parser

open Scriptlet.Parser

namespace Tandem

/-- Two parsers that differ in their limits alone, up to a defect about the smaller one. -/
def widening {limit wider : Nat} (larger : limit ≤ wider) : Tandem where
  blame error _ := error
  first := id
  second := id
  beside p p' := p.Ready ∧ p.limit = limit ∧ p' = { p with limit := wider }
  arrived p p' := p.Ready ∧ p.limit = limit ∧ p' = { p with limit := wider }
  lost := Overflowed
  strayed := Overflowed
  hopeless error p := error.isNesting = true ∨ p.Overflowed
  alike error error' _ _ := error = error'
  ready beside := beside.1
  look := by
    rintro p p' ⟨-, -, rfl⟩
    rfl
  line := by
    rintro p p' ⟨-, -, rfl⟩ -
    rfl
  covers := covers_id
  pull := by
    rintro p p' ⟨ready, same, rfl⟩ -
    exact .inl ⟨ready_pull ready.normal, same, rfl⟩
  record := by
    rintro p p' e e' ⟨ready, same, rfl⟩ rfl
    exact ⟨(ready.record e).1, same, rfl⟩
  deeper := by
    rintro p p' ⟨ready, rfl, rfl⟩ room
    exact ⟨Nat.lt_of_lt_of_le room larger, ready.withDepth _, rfl, rfl⟩
  full _ _ := .inl (.inl rfl)
  back := by
    rintro p p' ⟨ready, same, rfl⟩
    exact ⟨ready.withDepth _, same, rfl⟩
  stop := by
    rintro p p' ⟨-, -, rfl⟩ expected
    exact .inr rfl
  alike_depth alike _ _ := alike
  arrived_of_beside beside := beside
  settled := .inl
  lost_of_strayed := id
  strayed_pull lost _ := lost.pull
  lost_depth lost _ := lost
  hopeless_of_lost lost _ := .inr lost
  hopeless_depth hopeless _ := hopeless
  strayed_record := overflowed_record_iff.mpr

end Tandem

/-- Where reading with one limit meets no defect about nesting, reading with a larger limit gives
the same program and the same diagnostics. -/
theorem parseWithin_eq_of_le (source : String) (limit wider : Nat) (larger : limit ≤ wider)
    (enough : ∀ limit' line,
      Diagnostic.syntactic (.nestingTooDeep limit' line) ∉ (parseWithin limit source).diagnostics) :
    parseWithin wider source = parseWithin limit source := by
  obtain ⟨ready, -, -, same, -⟩ := ofSource_view source limit
  have ready' := (ready.note .parsingStarted).1
  have beside : (Tandem.widening larger).beside ((ofSource source limit).note .parsingStarted)
      ((ofSource source wider).note .parsingStarted) := ⟨ready', same, rfl⟩
  rcases Tandem.itemsWithin_side_by_side (fun _ _ => rfl) beside ready'.length_upcoming_le
    (Nat.le_refl _) false with overflowed | ⟨items, -, -, after⟩
  · -- A defect about nesting would have been among the diagnostics.
    obtain ⟨error, recorded, nesting⟩ := overflowed
    cases error with
    | nestingTooDeep limit' line =>
      obtain ⟨diagnostic, member, found⟩ := List.mem_filterMap.mp recorded
      cases diagnostic with
      | lexical error => cases found
      | syntactic error =>
        obtain rfl := Option.some.inj found
        exact absurd member (enough limit' line)
    | _ => cases nesting
  · rw [parseWithin, parseWithin, output_eq, output_eq]
    simp only [Output.mk.injEq, Program.mk.injEq]
    exact ⟨(items.eq rfl rfl).symm, congrArg (fun q => q.diagnostics.toList) after⟩

/-- A source with two defects that needs two levels is read with five of them in the same way. -/
theorem parseWithin_eq_of_le_recovered :
    2 ≤ 5 ∧ (∀ limit' line, Diagnostic.syntactic (.nestingTooDeep limit' line) ∉
      (parseWithin 2 "x = ; @ y(1 + 2);").diagnostics) ∧
    parseWithin 5 "x = ; @ y(1 + 2);" = parseWithin 2 "x = ; @ y(1 + 2);" := by
  -- Both defects are recorded with the limit of two, and neither is about nesting.
  have enough : ∀ limit' line, Diagnostic.syntactic (.nestingTooDeep limit' line) ∉
      (parseWithin 2 "x = ; @ y(1 + 2);").diagnostics := by
    have all : (parseWithin 2 "x = ; @ y(1 + 2);").diagnostics =
        [.syntactic (.unexpectedToken (.fixed .semicolon 1) "expression" 1),
          .lexical (.illegalCharacter '@' 1)] := by decide +kernel
    simp [all]
  exact ⟨by decide, enough, parseWithin_eq_of_le _ 2 5 (by decide) enough⟩

end Scriptlet
