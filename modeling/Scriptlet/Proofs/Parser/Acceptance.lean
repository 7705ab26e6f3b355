import Scriptlet.Parser.Session
import Scriptlet.Proofs.Parser.Recovery
import Scriptlet.Proofs.Token.Thinning

/-! What reading a source comes to: its program if the grammar derives one, and otherwise a first
defect at the token where the derivable beginning of the source ends. -/

namespace Scriptlet

open Scriptlet.Parser Phrase Grammar

variable {limit : Nat} {source : String}

namespace Output

/-- The syntax defects, in the order they were recorded. -/
def syntaxErrors (output : Output) : List SyntaxError :=
  output.diagnostics.filterMap Diagnostic.syntactic?

/-- There are errors exactly if there is a first syntax defect. -/
theorem hasErrors_eq_false_iff (output : Output) :
    output.hasErrors = false ↔ output.syntaxErrors = [] := by
  -- Both look for a diagnostic that is a syntax defect.
  simp only [hasErrors, syntaxErrors, List.any_eq_false, List.filterMap_eq_nil_iff]
  refine forall_congr' fun diagnostic => forall_congr' fun _ => ?_
  cases diagnostic <;> simp [Diagnostic.isSyntactic, Diagnostic.syntactic?]

end Output

/-- The items of a source are read in front of all its tokens, and nothing is left behind them. -/
theorem parseWithin_succeeds (limit : Nat) (source : String) :
    ∃ p q : Parser, p.upcoming = tokenize source ∧ p.depth = 0 ∧ p.limit = limit ∧
      p.syntaxErrors = [] ∧ q.upcoming = [] ∧
      q.syntaxErrors = (parseWithin limit source).syntaxErrors ∧
      Succeeds Items (· = none) p (parseWithin limit source).program.items q := by
  obtain ⟨ready, front, depth, bound, errors⟩ := ofSource_view source limit
  obtain ⟨ready, same⟩ := ready.note .parsingStarted
  have read := reads_itemsWithin ((ofSource source limit).note .parsingStarted).unread false _ ready
    ready.length_upcoming_le trivial
  refine ⟨_, _, same.trans front, depth, bound, errors, ?_, ?_, read.1⟩
  · -- Outside of blocks only the end of the source stops the reading.
    rcases read.2 with none | ⟨inside, -⟩
    · exact List.head?_eq_none_iff.mp none
    · exact absurd inside (by decide)
  · rfl

/-- A first defect of a source: the tokens in front of it begin some program, and no program within
the limit goes on with what is behind them. -/
structure Interrupts (limit : Nat) (tokens front back : List Token) (error : SyntaxError) :
    Prop where
  split : tokens = front ++ back
  blames : error.Blames back
  viable : error.isNesting = false → Viable Source front
  excluded : ∀ whole program n behind, Source whole program n → whole = front ++ behind →
    behind.head? = back.head? → error.isNesting = true ∧ limit < n

/-- The tokens that were kept derive the program; they are all tokens unless there is a first
defect, and the defect is where it has to be. -/
theorem parseWithin_reads (limit : Nat) (source : String) :
    ∃ kept n, kept.Sublist (tokenize source) ∧ Source kept (parseWithin limit source).program n ∧
      n ≤ limit ∧
      ((parseWithin limit source).syntaxErrors = [] → kept = tokenize source ∧
        ∀ program m, Source (tokenize source) program m →
          program = (parseWithin limit source).program) ∧
      ∀ first, (parseWithin limit source).syntaxErrors.head? = some first →
        kept.length < (tokenize source).length ∧
          ∃ front back, Interrupts limit (tokenize source) front back first := by
  obtain ⟨p, q, front, depth, bound, errors, exhausted, recorded, out⟩ :=
    parseWithin_succeeds limit source
  obtain ⟨consumed, defects, kept, n, moves, sublist, whole, room, clean, faulty⟩ := out
  -- All tokens were consumed, and all defects were recorded on the way.
  have all : consumed = tokenize source := by
    rw [← front, moves.upcoming, exhausted, List.append_nil]
  have same : defects = (parseWithin limit source).syntaxErrors := by
    rw [← recorded, moves.errors, errors, List.nil_append]
  subst all same
  refine ⟨kept, n, sublist, .intro whole, by omega, fun none => ?_, fun first some => ?_⟩
  · obtain ⟨rfl, certain⟩ := clean none
    refine ⟨rfl, fun program m other => ?_⟩
    cases other with
    | intro items =>
      rw [(certain _ _ _ [] [] items rfl rfl (by rw [exhausted])).2]
  · obtain ⟨shorter, front', back, fault⟩ := faulty first some
    refine ⟨shorter, front', back, ?_, fault.blames, fun other => ?_, ?_⟩
    · rw [← front, fault.upcoming]
    · obtain ⟨more, items, n, viable⟩ := fault.viable other
      exact ⟨more, ⟨items⟩, n, .intro viable⟩
    · intro tokens program n behind other split look
      cases other with
      | intro items =>
        obtain ⟨nesting, deep⟩ :=
          fault.excluded _ _ _ [] behind items rfl ((List.append_nil _).trans split) look
        exact ⟨nesting, by omega⟩

/-- If the tokens of a source derive a program within the limit, this program is read, and without
a syntax defect. -/
theorem parseWithin_of_source {program : Program} {n : Nat}
    (derives : Source (tokenize source) program n) (within : n ≤ limit) :
    (parseWithin limit source).hasErrors = false ∧
      (parseWithin limit source).program = program := by
  obtain ⟨kept, m, sublist, whole, room, clean, faulty⟩ := parseWithin_reads limit source
  -- A derivation within the limit leaves no place for a first defect.
  have none : (parseWithin limit source).syntaxErrors = [] := by
    rw [← List.head?_eq_none_iff]
    cases earliest : (parseWithin limit source).syntaxErrors.head? with
    | none => rfl
    | some first =>
      obtain ⟨-, front, back, interrupts⟩ := faulty first earliest
      obtain ⟨-, deep⟩ := interrupts.excluded _ _ _ back derives interrupts.split rfl
      omega
  refine ⟨(parseWithin limit source).hasErrors_eq_false_iff.mpr none, ?_⟩
  exact ((clean none).2 program n derives).symm

/-- A source is read without a syntax defect exactly if its tokens derive a program that nests no
deeper than the limit, and what is read is then the program that they derive. -/
theorem parseWithin_accepts_iff (limit : Nat) (source : String) :
    ((parseWithin limit source).hasErrors = false ↔
      ∃ program n, Grammar.Source (tokenize source) program n ∧ n ≤ limit) ∧
    ∀ program n, Grammar.Source (tokenize source) program n → n ≤ limit →
      (parseWithin limit source).program = program := by
  -- Without a first defect the tokens that were kept are all tokens.
  obtain ⟨kept, n, sublist, whole, room, clean, faulty⟩ := parseWithin_reads limit source
  refine ⟨⟨fun none => ?_, fun derives => ?_⟩, fun program m other within => ?_⟩
  · obtain ⟨rfl, -⟩ := clean ((parseWithin limit source).hasErrors_eq_false_iff.mp none)
    exact ⟨_, n, whole, room⟩
  · obtain ⟨program, m, other, within⟩ := derives
    exact (parseWithin_of_source other within).1
  · exact (parseWithin_of_source other within).2

/-- Whatever a source holds, the program that is read is derived by some of its tokens, within the
limit, and reading only those gives it without a syntax defect; they are all tokens of the source
exactly if the source was read without one. -/
theorem parseWithin_salvages (limit : Nat) (source : String) :
    ∃ kept n, kept.Sublist (tokenize source) ∧
      Grammar.Source kept (parseWithin limit source).program n ∧ n ≤ limit ∧
      (∃ other, tokenize other = kept) ∧
      (∀ other, tokenize other = kept → (parseWithin limit other).hasErrors = false ∧
        (parseWithin limit other).program = (parseWithin limit source).program) ∧
      (kept = tokenize source ↔ (parseWithin limit source).hasErrors = false) := by
  obtain ⟨kept, n, sublist, whole, room, clean, faulty⟩ := parseWithin_reads limit source
  refine ⟨kept, n, sublist, whole, room, exists_tokenize_eq sublist, fun other same => ?_,
    fun all => ?_, fun none => ?_⟩
  · -- What was kept derives the program, so that it is read without a defect.
    exact parseWithin_of_source (same ▸ whole) room
  · -- A first defect would have cost a token.
    rw [Output.hasErrors_eq_false_iff, ← List.head?_eq_none_iff]
    cases earliest : (parseWithin limit source).syntaxErrors.head? with
    | none => rfl
    | some first =>
      obtain ⟨shorter, -⟩ := faulty first earliest
      rw [all] at shorter
      omega
  · exact (clean ((parseWithin limit source).hasErrors_eq_false_iff.mp none)).1

/-- If the first syntax defect is not about nesting, the tokens in front of the blamed one begin a
program, and those up to the blamed one begin none; at the end of the source, all tokens begin a
program, but are none. -/
theorem parseWithin_first_error (limit : Nat) (source : String) (error : SyntaxError)
    (earliest :
      (parseWithin limit source).diagnostics.findSome? Diagnostic.syntactic? = some error) :
    (∀ found expected line, error = .unexpectedToken found expected line →
      ∃ i : Nat, (tokenize source)[i]? = some found ∧
        Viable Grammar.Source ((tokenize source).take i) ∧
        ¬ Viable Grammar.Source ((tokenize source).take (i + 1))) ∧
    (∀ expected line, error = .unexpectedEnd expected line →
      Viable Grammar.Source (tokenize source) ∧
        ¬ ∃ program n, Grammar.Source (tokenize source) program n) := by
  obtain ⟨_, _, _, _, _, _, faulty⟩ := parseWithin_reads limit source
  have first : (parseWithin limit source).syntaxErrors.head? = some error := by
    rw [Output.syntaxErrors, List.head?_filterMap, earliest]
  obtain ⟨-, front, back, interrupts⟩ := faulty error first
  have split := interrupts.split
  constructor
  · intro found expected line same
    subst same
    obtain ⟨rest, rfl⟩ : ∃ rest, back = found :: rest := by
      have blamed : back.head? = some found := interrupts.blames
      exact List.head?_eq_some_iff.mp blamed
    -- The blamed token stands behind the tokens that were understood.
    refine ⟨front.length, by simp [split], ?_, ?_⟩
    · rw [split, List.take_left]
      exact interrupts.viable rfl
    · intro begins
      obtain ⟨more, program, n, whole⟩ := begins
      -- With the blamed token behind them no program goes on, whatever its nesting.
      have upTo : (tokenize source).take (front.length + 1) = front ++ [found] := by
        rw [split, List.take_length_add_append]
        rfl
      rw [upTo, List.append_assoc] at whole
      have excluded := interrupts.excluded _ _ _ _ whole rfl rfl
      exact absurd excluded.1 (by simp [SyntaxError.isNesting])
  · intro expected line same
    subst same
    have blamed : back = [] := interrupts.blames
    rw [blamed, List.append_nil] at split
    refine ⟨split ▸ interrupts.viable rfl, fun derives => ?_⟩
    obtain ⟨program, n, whole⟩ := derives
    have excluded := interrupts.excluded _ _ _ [] whole (by simp [split]) (by rw [blamed])
    exact absurd excluded.1 (by simp [SyntaxError.isNesting])

/-- In an assignment without a value, the semicolon is the first token that cannot stand. -/
theorem parseWithin_first_error_no_value :
    (parseWithin 8 "x = ;").diagnostics.findSome? Diagnostic.syntactic? =
      some (.unexpectedToken (.fixed .semicolon 1) "expression" 1) ∧
    ∃ i : Nat, (tokenize "x = ;")[i]? = some (.fixed .semicolon 1) ∧
      Viable Grammar.Source ((tokenize "x = ;").take i) ∧
      ¬ Viable Grammar.Source ((tokenize "x = ;").take (i + 1)) := by
  -- The error is computed, and the place of its token follows for every source.
  have earliest : (parseWithin 8 "x = ;").diagnostics.findSome? Diagnostic.syntactic? =
      some (.unexpectedToken (.fixed .semicolon 1) "expression" 1) := by decide +kernel
  exact ⟨earliest, (parseWithin_first_error 8 "x = ;" _ earliest).1 _ _ _ rfl⟩

end Scriptlet
