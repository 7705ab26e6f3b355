import Scriptlet.Proofs.Parser.Lasting
import Scriptlet.Run

/-! The parser passes on all lexical defects of a source, each once and in their order. -/

namespace Scriptlet

open Scriptlet.Parser

/-- Lexical defects are lexical, all of them. -/
theorem Diagnostic.filterMap_lexical (errors : List LexicalError) :
    (errors.map Diagnostic.lexical).filterMap Diagnostic.lexical? = errors := by
  -- Each defect is wrapped and unwrapped again.
  rw [List.filterMap_map]
  exact List.filterMap_some

namespace Parser

variable {p : Parser} {defects : List LexicalError}

/-- The lexical defects that a parser has recorded. -/
def lexicalErrors (p : Parser) : List LexicalError :=
  p.diagnostics.toList.filterMap Diagnostic.lexical?

/-- A recorded syntax defect is none of the tokens. -/
@[simp] theorem lexicalErrors_record (p : Parser) (error : SyntaxError) :
    (p.record error).lexicalErrors = p.lexicalErrors := by
  -- The list of defects grows by one that is passed over here.
  simp [lexicalErrors, Parser.record, Parser.note, Diagnostic.lexical?]

/-- Moving on records the defects in front of the next token. -/
theorem lexicalErrors_pull (p : Parser) :
    p.pull.lexicalErrors = p.lexicalErrors ++ p.lexer.next.2.errors.toList := by
  -- All that moving on records is lexical.
  rw [lexicalErrors, toList_diagnostics_pull, List.filterMap_append, Diagnostic.filterMap_lexical]
  rfl

/-- A parser that holds no lexical defect back, and comes to certain ones up to the end. -/
structure Reporting (defects : List LexicalError) (p : Parser) : Prop where
  ready : p.Ready
  taken : p.lexer.errors = #[]
  all : p.lexicalErrors ++ p.lexer.drain.2.errors.toList = defects

/-- Moving on turns defects to come into recorded ones. -/
theorem reporting_pull (normal : p.lexer.mode = .normal) :
    p.pull.Reporting (p.lexicalErrors ++ p.lexer.drain.2.errors.toList) := by
  -- What the lexer finds up to the next token is recorded, and the rest is still to come.
  refine ⟨ready_pull normal, rfl, ?_⟩
  rw [lexicalErrors_pull, List.append_assoc, ← Lexer.drain_next p.lexer,
    Lexer.drain_errors p.lexer.next.2]
  rfl

/-- The log makes no difference to the lexical defects that a parser comes to. -/
theorem Reporting.note (reporting : p.Reporting defects) (event : Event) :
    (p.note event).Reporting defects := by
  -- Draining the lexer comes to the same defects, whatever is in the log.
  refine ⟨(reporting.ready.note event).1, reporting.taken, ?_⟩
  rw [← reporting.all, ← Lexer.drain_errors_note p.lexer event]
  rfl

/-- No step of a parser changes which lexical defects it comes to. -/
theorem lasting_reporting (defects : List LexicalError) : Lasting (Reporting defects) where
  -- Moving on is the only step that has to do with lexical defects.
  ready reporting := reporting.ready
  pull reporting _ := reporting.all ▸ reporting_pull reporting.ready.normal
  record {p error} reporting _ := by
    obtain ⟨-, taken, all⟩ := reporting.note (.syntaxError error)
    refine ⟨(reporting.ready.record error).1, taken, ?_⟩
    rw [lexicalErrors_record]
    exact all
  level reporting depth := ⟨reporting.ready.withDepth depth, reporting.taken, reporting.all⟩

/-- A parser in front of a source comes to the lexical defects of its tokens. -/
theorem reporting_ofSource (source : String) (limit : Nat) :
    (ofSource source limit).Reporting (tokenizeWithErrors source).2 := by
  -- Nothing has been recorded before the first token is read.
  have front := reporting_pull (p := unmoved (.ofSource source) limit) rfl
  exact front

/-- At the end of the source a parser has recorded all lexical defects that it comes to. -/
theorem Reporting.lexicalErrors_eq (reporting : p.Reporting defects) (ended : p.upcoming = []) :
    p.lexicalErrors = defects := by
  -- At the end nothing is held and nothing is still to come.
  have exhausted := reporting.ready.exhausted (reporting.ready.lookahead_eq_none_iff.mpr ended)
  rw [← reporting.all, Lexer.drain_errors_of_nil reporting.ready.normal exhausted, reporting.taken]
  exact (List.append_nil _).symm

/-- Where no token is left, a program is empty, and reading it records nothing. -/
theorem Ready.program_of_upcoming_eq_nil (ready : p.Ready) (ended : p.upcoming = []) :
    p.program.1 = ⟨[]⟩ ∧ p.program.2.diagnostics = p.diagnostics := by
  -- The events around the items are all that reading writes.
  have absent : (p.note .parsingStarted).kind? = none := by
    rw [kind?, Option.map_eq_none_iff]
    exact ready.lookahead_eq_none_iff.mpr ended
  have nothing : itemsWithin p.unread false (p.note .parsingStarted) =
      ([], p.note .parsingStarted) := Tandem.itemsWithin_of_none absent
  have items : p.program.1 = ⟨(itemsWithin p.unread false (p.note .parsingStarted)).1⟩ := rfl
  have after : p.program.2.diagnostics =
      (itemsWithin p.unread false (p.note .parsingStarted)).2.diagnostics := rfl
  rw [items, after, nothing]
  exact ⟨rfl, rfl⟩

end Parser

/-- The parser of a source stops where nothing is left, with all lexical defects of its tokens. -/
theorem Parser.program_ofSource (limit : Nat) (source : String) :
    (ofSource source limit).program.2.Reporting (tokenizeWithErrors source).2 ∧
      (ofSource source limit).program.2.upcoming = [] := by
  -- The parser begins with all defects to come and reads up to the end, and events change nothing.
  have reporting := (reporting_ofSource source limit).note .parsingStarted
  obtain ⟨reported, -⟩ := (lasting_reporting _).items reporting reporting.ready.length_upcoming_le
    (Nat.le_refl _) false
  have ended := reporting.ready.upcoming_itemsWithin reporting.ready.length_upcoming_le
  exact ⟨reported.note _, (reported.ready.note _).2.trans ended⟩

/-- The lexical defects that reading a source records are those of its tokens. -/
theorem lexicalErrors_parseWithin (limit : Nat) (source : String) :
    (parseWithin limit source).diagnostics.filterMap Diagnostic.lexical? =
      (tokenizeWithErrors source).2 := by
  -- At the end of the source, all defects to come have been recorded.
  obtain ⟨reporting, ended⟩ := program_ofSource limit source
  exact reporting.lexicalErrors_eq ended

/-- Whatever a source holds, the lexical defects that its parser records are those that its tokens
come with; the parser ends where nothing is left, so that reading on gives nothing more, and a run
prints these defects whether it lists the tokens or shows the tree. -/
theorem parseWithin_lexicalErrors (limit : Nat) (source : String) :
    (parseWithin limit source).diagnostics.filterMap Diagnostic.lexical? =
      (tokenizeWithErrors source).2 ∧
    (∀ after, after = (Parser.ofSource source limit).program.2 →
      after.lookahead = none ∧ after.lexer.rest = [] ∧
      after.program.1 = ⟨[]⟩ ∧ after.program.2.diagnostics = after.diagnostics) ∧
    ∀ log file, ∃ events events' closing,
      (run ⟨true, limit, log⟩ file (.ok source.toUTF8)).report = logOf log events ++
        (tokenizeWithErrors source).2.map (fun error => (Diagnostic.lexical error).report) ∧
      (run ⟨false, limit, log⟩ file (.ok source.toUTF8)).report = logOf log events' ++
        (parseWithin limit source).diagnostics.map Diagnostic.report ++ logOf log closing := by
  refine ⟨lexicalErrors_parseWithin limit source, ?_, fun log file => ?_⟩
  · -- The parser stops where no token is left, and stays there.
    rintro after rfl
    obtain ⟨⟨ready, -, -⟩, ended⟩ := program_ofSource limit source
    have absent := ready.lookahead_eq_none_iff.mpr ended
    exact ⟨absent, ready.exhausted absent, ready.program_of_upcoming_eq_nil ended⟩
  · -- Both ways of running read the same text.
    rw [run_toUTF8, run_toUTF8]
    exact ⟨_, _, _, rfl, rfl⟩

end Scriptlet
