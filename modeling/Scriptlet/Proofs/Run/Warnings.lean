import Scriptlet.Proofs.Parser.Lexical

/-! The warnings in the log of a run are the defects that it reports afterwards, one for each and in
the same order. -/

namespace Scriptlet

open Scriptlet.Parser

/-- The event that warns of a defect. -/
def Diagnostic.event : Diagnostic → Event
  | .lexical error => .lexicalError error
  | .syntactic error => .syntaxError error

namespace Event

/-- Something is wrong with the source. -/
def warns (event : Event) : Bool :=
  event.level == .warn

/-- Every defect is warned of. -/
@[simp] theorem warns_event (diagnostic : Diagnostic) : diagnostic.event.warns = true := by
  -- Both sorts of defects are warnings.
  cases diagnostic <;> rfl

/-- A warning shows the message of its defect, and the line. -/
theorem values_event (diagnostic : Diagnostic) :
    diagnostic.event.message = diagnostic.message ∧
      diagnostic.event.values = [("line", toString diagnostic.line)] := by
  -- Either event takes its message and its line from the defect.
  cases diagnostic <;> exact ⟨rfl, rfl⟩

/-- Among the events of defects all are warnings. -/
@[simp] theorem filter_warns_map_event (diagnostics : List Diagnostic) :
    (diagnostics.map Diagnostic.event).filter warns = diagnostics.map Diagnostic.event := by
  -- None of them is filtered out.
  simp [List.filter_eq_self]

end Event

/-- A log that shows no less important events than warnings shows the warnings alone. -/
theorem logOf_warn (events : List Event) :
    logOf (some .warn) events = (events.filter Event.warns).map Event.logLine := by
  -- No event is an error, which would be more important than a warning.
  have shows : ∀ event : Event, Level.warn.shows event.level = event.warns := by
    intro event
    cases event <;> rfl
  simp only [logOf, shows]

namespace Lexer

/-- Reading all tokens logs what is reported on the way. -/
theorem logs_drain (l : Lexer) : l.Logs l.drain.2 := by
  have read := logs_next l
  -- The lexer is drained by reading one token after another.
  induction l using drain.induct with
  | case1 l after none =>
    rw [none] at read
    rwa [drain_of_none none]
  | case2 l token after some _ _ _ ih =>
    rw [some] at read
    rw [drain_of_some some]
    exact read.trans (ih (logs_next after))

end Lexer

namespace Parser

variable {p : Parser}

/-- A parser whose warnings so far are the defects that it has recorded. -/
structure Logged (p : Parser) : Prop where
  ready : p.Ready
  taken : p.lexer.errors = #[]
  warnings : p.journal.toList.filter Event.warns = p.diagnostics.toList.map Diagnostic.event

/-- Moving on records what was logged on the way. -/
theorem logged_pull (normal : p.lexer.mode = .normal) (taken : p.lexer.errors = #[])
    (warnings : p.journal.toList.filter Event.warns = p.diagnostics.toList.map Diagnostic.event) :
    p.pull.Logged := by
  refine ⟨ready_pull normal, rfl, ?_⟩
  -- Nothing was held before, so that all that is recorded was found on the way.
  obtain ⟨found, errors, journal⟩ := Lexer.logs_next p.lexer
  rw [taken, Array.toList_empty, List.nil_append] at errors
  have logged : p.pull.journal.toList =
      p.journal.toList ++ (found.map Diagnostic.lexical).map Diagnostic.event := by
    rw [List.map_map]
    exact journal
  rw [logged, toList_diagnostics_pull, errors, List.filter_append, warnings,
    Event.filter_warns_map_event, List.map_append]

/-- An event that is no warning goes into the log alone. -/
theorem Logged.note (logged : p.Logged) {event : Event} (quiet : event.warns = false) :
    (p.note event).Logged := by
  -- The event is filtered out, and what remains is what was there before.
  refine ⟨(logged.ready.note event).1, logged.taken, ?_⟩
  have written : (p.note event).journal.toList = p.journal.toList ++ [event] := Array.toList_push
  rw [written, List.filter_append, List.filter_cons_of_neg (by simp [quiet]), List.filter_nil,
    List.append_nil]
  exact logged.warnings

/-- Every step of a parser logs the defects that it records. -/
theorem lasting_logged : Lasting Logged where
  ready logged := logged.ready
  pull logged _ := logged_pull logged.ready.normal logged.taken logged.warnings
  record {p error} logged _ := by
    refine ⟨(logged.ready.record error).1, logged.taken, ?_⟩
    -- The warning and the defect come last.
    have written : (p.record error).journal.toList = p.journal.toList ++ [.syntaxError error] :=
      Array.toList_push
    have recorded : (p.record error).diagnostics.toList =
        p.diagnostics.toList ++ [.syntactic error] := Array.toList_push
    rw [written, recorded, List.filter_append, logged.warnings, List.map_append]
    rfl
  level logged depth := ⟨logged.ready.withDepth depth, logged.taken, logged.warnings⟩

/-- The parser of a source ends with the warnings of all defects that it has recorded. -/
theorem logged_program (limit : Nat) (source : String) :
    (ofSource source limit).program.2.Logged := by
  -- The two events around the items are no warnings.
  have front : (ofSource source limit).Logged :=
    logged_pull (p := unmoved (.ofSource source) limit) rfl rfl rfl
  have started : ((ofSource source limit).note .parsingStarted).Logged := front.note rfl
  obtain ⟨ended, -⟩ := lasting_logged.items started started.ready.length_upcoming_le
    (Nat.le_refl _) false
  exact ended.note rfl

end Parser

/-- The journal of a run, up to where it is done with the source. -/
def journalOf (options : Options) (source : String) : List Event :=
  if options.tokens then (Lexer.ofSource source).drain.2.journal.toList
  else (Parser.ofSource source options.limit).program.2.journal.toList

/-- The defects that a run finds in a source. -/
def defectsOf (options : Options) (source : String) : List Diagnostic :=
  if options.tokens then (tokenizeWithErrors source).2.map .lexical
  else (parseWithin options.limit source).diagnostics

/-- The warnings in the journal of a run are the defects that it finds. -/
theorem filter_warns_journalOf (options : Options) (source : String) :
    (journalOf options source).filter Event.warns =
      (defectsOf options source).map Diagnostic.event := by
  rw [journalOf, defectsOf]
  split
  · -- A lexer has logged nothing before it begins.
    obtain ⟨found, errors, journal⟩ := Lexer.logs_drain (Lexer.ofSource source)
    have reported : (tokenizeWithErrors source).2 = found := errors
    have logged : (Lexer.ofSource source).drain.2.journal.toList =
        (found.map Diagnostic.lexical).map Diagnostic.event := by
      rw [List.map_map]
      exact journal
    rw [logged, reported, Event.filter_warns_map_event]
  · exact (logged_program options.limit source).warnings

/-- A run logs its journal, then reports its defects, and warns of nothing behind them. -/
theorem report_run (options : Options) (file source : String) :
    ∃ closing : List Event, closing.filter Event.warns = [] ∧
      ∀ log, (run { options with log } file (.ok source.toUTF8)).report =
        logOf log (.sourceRead file source.utf8ByteSize :: journalOf options source) ++
          (defectsOf options source).map Diagnostic.report ++ logOf log closing := by
  by_cases tokens : options.tokens = true
  · refine ⟨[], rfl, fun log => ?_⟩
    have nothing : logOf log [] = [] := by
      cases log <;> rfl
    rw [run_toUTF8, if_pos tokens, nothing, List.append_nil, journalOf, defectsOf, if_pos tokens,
      if_pos tokens, List.map_map]
    rfl
  · -- Only a program without syntax defects is mentioned at the end.
    refine ⟨if (parseWithin options.limit source).hasErrors then []
      else [.programAccepted (parseWithin options.limit source).program.size], ?_, fun log => ?_⟩
    · split <;> rfl
    · rw [run_toUTF8, if_neg tokens, journalOf, defectsOf, if_neg tokens, if_neg tokens]
      rfl

/-- The log of a run and its report agree: the warnings that are logged while the source is read are
exactly the defects that are reported afterwards, each with its message and its line, one for each
and in the same order, whether the tokens or the tree is asked for. -/
theorem run_warns_of_reported (options : Options) (file source : String) :
    (journalOf options source).filter Event.warns =
      (defectsOf options source).map Diagnostic.event ∧
    (∀ diagnostic : Diagnostic, diagnostic.event.message = diagnostic.message ∧
      diagnostic.event.values = [("line", toString diagnostic.line)] ∧
      diagnostic.report = s!"line {diagnostic.line}: {diagnostic.message}") ∧
    (∃ closing : List Event, closing.filter Event.warns = [] ∧
      ∀ log, (run { options with log } file (.ok source.toUTF8)).report =
        logOf log (.sourceRead file source.utf8ByteSize :: journalOf options source) ++
          (defectsOf options source).map Diagnostic.report ++ logOf log closing) ∧
    (run { options with log := some .warn } file (.ok source.toUTF8)).report =
      (defectsOf options source).map (fun diagnostic => diagnostic.event.logLine) ++
        (defectsOf options source).map Diagnostic.report := by
  have warnings := filter_warns_journalOf options source
  obtain ⟨closing, quiet, reports⟩ := report_run options file source
  refine ⟨warnings, fun diagnostic => ?_, ⟨closing, quiet, reports⟩, ?_⟩
  · exact ⟨(Event.values_event diagnostic).1, (Event.values_event diagnostic).2, rfl⟩
  · -- Reading the source and accepting the program are no warnings.
    have opening : Event.warns (.sourceRead file source.utf8ByteSize) = false := rfl
    rw [reports, logOf_warn, logOf_warn, quiet, List.filter_cons_of_neg (by simp [opening]),
      warnings, List.map_nil, List.append_nil, List.map_map]
    rfl

end Scriptlet
