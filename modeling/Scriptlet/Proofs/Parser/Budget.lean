import Mathlib.Tactic.Choose
import Scriptlet.Proofs.Parser.Acceptance
import Scriptlet.Proofs.Parser.Script

/-! Each level is paid for by a token: no parser is deeper than tokens have been taken, so that a
limit above the number of tokens is never met. -/

namespace Scriptlet

namespace Parser

variable {α β : Type} {p q : Parser} {levels : Nat} {starts : Option TokenKind → Prop}
  {reader : Parse α} {next : α → Parse β}

/-- Wherever a script asks for a level, the parser has gone down no further than it has taken
tokens, when some levels are free. -/
def Script.Affords (levels : Nat) (starts : Option TokenKind → Prop) (script : Script α) : Prop :=
  ∀ p, p.Ready → starts p.kind? → ∀ q ∈ script.asks p,
    q.depth + q.upcoming.length < p.depth + p.upcoming.length + levels

/-- A reader does what some script says that affords its levels. -/
def Scripted (levels : Nat) (starts : Option TokenKind → Prop) (reader : Parse α) : Prop :=
  ∃ script : Script α, script.read = reader ∧ script.Affords levels starts

/-- A single step asks for nothing. -/
theorem Single.scripted (single : Single reader) : Scripted levels starts reader :=
  -- The script is the step itself, and there is no attempt to go deeper in it.
  ⟨.step reader single, rfl, fun _ _ _ _ member => by cases member⟩

/-- What begins behind some tokens has these tokens to pay with. -/
theorem Scripted.behind (cost : Nat) (first : Scripted levels starts reader)
    (costs : ∀ p a q, p.Ready → starts p.kind? → reader p = .ok a q →
      q.upcoming.length + cost ≤ p.upcoming.length)
    (later : ∀ a, Scripted (levels + cost) anyKind (next a)) :
    Scripted levels starts (reader >>= next) := by
  obtain ⟨script, rfl, affords⟩ := first
  choose scripts reads affords' using later
  refine ⟨.row script scripts, ?_, fun p ready start q member => ?_⟩
  · simp only [Script.read, reads]
  · rw [Script.asks, List.mem_append] at member
    rcases member with own | member
    · exact affords p ready start q own
    · obtain ⟨consumed, recorded, moves, -⟩ := script.moves ready
      cases got : script.read p with
      | error error r =>
        rw [got] at member
        cases member
      | ok a r =>
        -- The depth is the same again, and fewer tokens are left.
        rw [got] at member moves
        have rest := affords' a r moves.ready trivial q member
        have shorter := costs p a r ready start got
        have level : r.depth = p.depth := moves.depth
        omega

/-- Readers in a row afford what each of them affords. -/
theorem Scripted.bind (first : Scripted levels starts reader)
    (later : ∀ a, Scripted levels anyKind (next a)) : Scripted levels starts (reader >>= next) := by
  refine Scripted.behind 0 first (fun p a q ready _ got => ?_) later
  -- No reader gives tokens back.
  obtain ⟨script, rfl, -⟩ := first
  obtain ⟨consumed, recorded, moves, -⟩ := script.moves ready
  rw [got] at moves
  have split := congrArg List.length moves.upcoming
  rw [List.length_append] at split
  exact Nat.le.intro ((Nat.add_comm _ _).trans split.symm)

/-- Passing over the next token leaves one token less. -/
theorem length_pull {token : Token} (front : p.lookahead = some token) :
    p.pull.upcoming.length + 1 ≤ p.upcoming.length :=
  -- The token that is passed over stood in front of all the others.
  Nat.le_of_eq (congrArg List.length (upcoming_eq_cons front)).symm

/-- A token that was taken is one token less. -/
theorem Ready.length_of_take (ready : p.Ready) {kind : TokenKind} {context : String} {token : Token}
    (took : take kind context p = .ok token q) : q.upcoming.length + 1 ≤ p.upcoming.length := by
  -- Taking either moves on over the lookahead or stops.
  rcases ready.take_cases kind context with ⟨other, front, -, took'⟩ | ⟨error, stop, -⟩
  · rw [took'] at took
    cases took
    exact length_pull (ready.head?_upcoming ▸ front)
  · rw [stop] at took
    cases took

/-- An identifier that was taken is one token less. -/
theorem Ready.length_of_name (ready : p.Ready) {context content : String}
    (took : name context p = .ok content q) : q.upcoming.length + 1 ≤ p.upcoming.length := by
  -- The token is taken first; a number in its place would stop the reading.
  rw [name, bind_apply] at took
  cases identifier : take .identifier context p with
  | error error r =>
    rw [identifier] at took
    cases took
  | ok token r =>
    rw [identifier] at took
    have shorter := ready.length_of_take identifier
    cases value : token.value with
    | text content' =>
      simp only [value] at took
      cases took
      exact shorter
    | number value' =>
      simp only [value] at took
      cases took

/-- A token that was passed over is one token less. -/
theorem Ready.length_of_expect (ready : p.Ready) {kind : TokenKind} {context : String}
    (passed : expect kind context p = .ok () q) : q.upcoming.length + 1 ≤ p.upcoming.length := by
  -- To pass over a token is to take it first.
  rw [show expect kind context = (take kind context >>= fun _ => pure ()) from rfl,
    bind_apply] at passed
  cases took : take kind context p with
  | error error r =>
    rw [took] at passed
    cases passed
  | ok token r =>
    rw [took] at passed
    cases passed
    exact ready.length_of_take took

/-- Passing over the lookahead asks for no level. -/
theorem scripted_skip : Scripted levels starts skip :=
  -- Neither taking the token nor forgetting it goes any deeper.
  Single.advance.scripted.bind fun _ => (Single.pure ()).scripted

/-- Passing over a token of a given kind asks for no level. -/
theorem scripted_expect (kind : TokenKind) (context : String) :
    Scripted levels starts (expect kind context) :=
  -- Neither taking the token nor forgetting it goes any deeper.
  (Single.take kind context).scripted.bind fun _ => (Single.pure ()).scripted

/-- Behind a token that is passed over, one level more may be asked for. -/
theorem scripted_past {kind : TokenKind} (inner : Scripted (levels + 1) anyKind reader) :
    Scripted levels (· = some kind) (skip >>= fun _ => reader) := by
  -- The token that is gone pays for the level.
  refine scripted_skip.behind 1 (fun p a q ready start got => ?_) fun _ => inner
  obtain ⟨token, front, -⟩ := Option.map_eq_some_iff.mp start
  rw [skip_apply p front] at got
  cases got
  exact length_pull front

/-- Behind a name that is taken, one level more may be asked for. -/
theorem scripted_name {next : String → Parse β} (context : String)
    (later : ∀ content, Scripted (levels + 1) anyKind (next content)) :
    Scripted levels starts (name context >>= next) :=
  -- The identifier that is gone pays for the level.
  (Single.name context).scripted.behind 1
    (fun _ _ _ ready _ took => ready.length_of_name took) later

/-- What is read behind a look at the next token may depend on its kind. -/
theorem scripted_peek {next : Option TokenKind → Parse β}
    (later : ∀ kind, Scripted levels (· = kind) (next kind)) :
    Scripted levels starts (peek >>= next) := by
  -- Each kind has its own script, and only that of the kind that is seen is run.
  choose scripts reads affords using later
  refine ⟨.row (.step peek .peek) scripts, ?_, fun p ready _ q member => ?_⟩
  · simp only [Script.read, reads]
  · exact affords p.kind? p ready rfl q member

/-- To read something one level deeper asks for one level more. -/
theorem Scripted.nested (scripted : Scripted levels anyKind reader) :
    Scripted (levels + 1) starts (nested reader) := by
  obtain ⟨script, rfl, affords⟩ := scripted
  refine ⟨.level script, rfl, fun p ready _ q member => ?_⟩
  rw [Script.asks, List.mem_cons] at member
  rcases member with rfl | inside
  · omega
  · split at inside
    · cases inside
    · -- One level further down, one more of the levels is spent.
      have deeper := affords _ (ready.withDepth (p.depth + 1)) trivial q inside
      have same : ({ p with depth := p.depth + 1 } : Parser).upcoming = p.upcoming := rfl
      rw [same] at deeper
      dsimp only at deeper
      omega

/-- Readers of expressions and items afford their levels. -/
theorem guided_scripted : Guided Scripted where
  -- Single steps ask for nothing, tokens pay for levels, and levels are what is paid for.
  pure a := (Single.pure a).scripted
  start := fun ⟨script, reads, affords⟩ =>
    ⟨script, reads, fun p ready _ => affords p ready trivial⟩
  more := fun ⟨script, reads, affords⟩ =>
    ⟨script, reads, fun p ready start q member =>
      Nat.lt_succ_of_lt (affords p ready start q member)⟩
  bind := Scripted.bind
  unexpected expected := (Single.unexpected expected).scripted
  peek := scripted_peek
  advance _ := Single.advance.scripted
  past _ := scripted_past
  accept _ := (Single.accept _).scripted
  take _ context := (Single.take _ context).scripted
  name := scripted_name
  nested := Scripted.nested

section Items

variable {body : StateM Parser (List Item)}

/-- The brace in front of a block pays for the level of its items. -/
theorem scripted_blockOf (inner : Scripted 1 anyKind (always body)) (context : String) :
    Scripted 1 starts (blockOf body context) := by
  -- The brace is gone when the level is entered, and what comes behind the items asks for none.
  refine (scripted_expect .leftBrace context).behind 1
    (fun _ _ _ ready _ passed => ready.length_of_expect passed) fun _ => ?_
  refine inner.nested.bind fun items => ?_
  exact (scripted_expect .rightBrace _).bind fun _ => (Single.pure items).scripted

/-- Reading items is reading an item and others, or recovering in front of others. -/
theorem always_itemsWithin (bound : Nat) (inBlock : Bool) (script : Script Item)
    (reads : script.read = itemOf (itemsWithin bound true) (bound + 1)) :
    always (itemsWithin (bound + 1) inBlock) = (get >>= fun p : Parser =>
      if p.atEnd inBlock then pure []
      else (script.rescue inBlock).read >>= fun first => match first with
        | some item => always (itemsWithin bound inBlock) >>= fun items => pure (item :: items)
        | none => always (itemsWithin bound inBlock)) := by
  -- A round that stops at a defect is rescued, so that both ways go on with the other items.
  funext p
  have round : always (itemsWithin (bound + 1) inBlock) p =
      .ok (itemsWithin (bound + 1) inBlock p).1 (itemsWithin (bound + 1) inBlock p).2 := rfl
  rw [round, itemsWithin_apply, bind_apply]
  show _ = (if p.atEnd inBlock = true then _ else _ : Parse (List Item)) p
  split
  · rfl
  · rw [bind_apply, Script.read_rescue, reads]
    cases itemOf (itemsWithin bound true) (bound + 1) p <;> rfl

/-- Items begin with one level that is free, and each of them gives it back. -/
theorem scripted_itemsWithin (bound : Nat) (inBlock : Bool) :
    Scripted 1 anyKind (always (itemsWithin bound inBlock)) := by
  -- The items of blocks have a smaller bound; each of them begins behind a brace of its own.
  induction bound generalizing inBlock with
  | zero => exact (Single.pure []).scripted
  | succ bound ih =>
    obtain ⟨script, reads, affords⟩ :
        Scripted 1 anyKind (itemOf (itemsWithin bound true) (bound + 1)) :=
      @Guided.itemOf _ guided_scripted 0 anyKind _ _ (scripted_blockOf (ih true))
        Single.get.scripted
    rw [always_itemsWithin bound inBlock script reads]
    refine Single.get.scripted.bind fun p => ?_
    split
    · exact (Single.pure []).scripted
    · refine Scripted.bind ⟨script.rescue inBlock, rfl, affords⟩ fun first => ?_
      cases first with
      | none => exact ih inBlock
      | some item => exact (ih inBlock).bind fun items => (Single.pure (item :: items)).scripted

/-- A program is its items, with an event in the log before and behind them. -/
theorem always_program : always program = ((fun p => .ok () (p.note .parsingStarted)) >>= fun _ =>
    (get >>= fun p : Parser => always (itemsWithin p.unread false)) >>= fun items =>
      (fun p => .ok () (p.note (.parsingFinished items.length p.diagnostics.size))) >>= fun _ =>
        pure ⟨items⟩ : Parse Program) :=
  -- The definition says the same, step by step.
  rfl

/-- A program affords its levels as its items do. -/
theorem scripted_program : Scripted 1 anyKind (always program) := by
  -- Writing events asks for no level, so that all that counts are the items.
  rw [always_program]
  refine (Single.note fun _ => .parsingStarted).scripted.bind fun _ => ?_
  have items : Scripted 1 anyKind (get >>= fun p : Parser => always (itemsWithin p.unread false)) :=
    Single.get.scripted.bind fun p => scripted_itemsWithin p.unread false
  refine items.bind fun items => ?_
  exact (Single.note fun p => .parsingFinished items.length p.diagnostics.size).scripted.bind
    fun _ => (Single.pure (Program.mk items)).scripted

end Items

/-- A script of a reader that never stops misses a level exactly if a defect about nesting is
recorded. -/
theorem Script.misses_iff_of_always {body : StateM Parser α} (script : Script α)
    (reads : script.read = always body) (ready : p.Ready) (clean : p.syntaxErrors = []) :
    script.Misses p ↔ ∃ error ∈ (body p).2.syntaxErrors, error.isNesting = true := by
  -- Nothing had been recorded before, and no defect is left over at the end.
  obtain ⟨consumed, recorded, moves, misses⟩ := script.moves ready
  rw [reads] at moves misses
  have all : (body p).2.syntaxErrors = recorded := by
    have recorded := moves.errors
    rw [clean] at recorded
    exact recorded
  rw [misses, all]
  exact or_iff_right Bool.false_ne_true

end Parser

open Scriptlet.Parser

/-- A defect about nesting is among the diagnostics exactly if it is among the syntax defects. -/
theorem Output.exists_nestingTooDeep_iff (output : Output) :
    (∃ limit line, .syntactic (.nestingTooDeep limit line) ∈ output.diagnostics) ↔
      ∃ error ∈ output.syntaxErrors, error.isNesting = true := by
  -- Such a defect is a syntax defect, and no other one is about nesting.
  constructor
  · rintro ⟨limit, line, member⟩
    exact ⟨_, List.mem_filterMap.mpr ⟨_, member, rfl⟩, rfl⟩
  · rintro ⟨error, member, nesting⟩
    obtain ⟨diagnostic, among, found⟩ := List.mem_filterMap.mp member
    cases diagnostic with
    | lexical error => cases found
    | syntactic error =>
      obtain rfl := Option.some.inj found
      cases error with
      | nestingTooDeep limit line => exact ⟨limit, line, among⟩
      | _ => cases nesting

/-- A script says how a program is read, whatever its source and its limit. It asks for a level
where none is left exactly if some defect of the source is about nesting; and wherever it asks for
one, the parser is no deeper than tokens have been taken. So with a limit above the number of tokens
no level is ever missing, and whatever the source holds, none of its defects is about nesting. -/
theorem depth_le_length_taken :
    ∃ script : Script Program, script.read = always Parser.program ∧
      ∀ (limit : Nat) (source : String),
        ((∃ limit' line,
          .syntactic (.nestingTooDeep limit' line) ∈ (parseWithin limit source).diagnostics) ↔
            ∃ q ∈ script.asks (ofSource source limit), q.limit ≤ q.depth) ∧
        (∀ q ∈ script.asks (ofSource source limit), ∃ taken,
          tokenize source = taken ++ q.upcoming ∧ q.depth ≤ taken.length) ∧
        ((tokenize source).length < limit → ∀ limit' line,
          .syntactic (.nestingTooDeep limit' line) ∉ (parseWithin limit source).diagnostics) := by
  obtain ⟨script, reads, affords⟩ := scripted_program
  refine ⟨script, reads, fun limit source => ?_⟩
  obtain ⟨ready, front, surface, bound, errors⟩ := ofSource_view source limit
  have paid (q : Parser) (member : q ∈ script.asks (ofSource source limit)) : ∃ taken,
      tokenize source = taken ++ q.upcoming ∧ q.depth ≤ taken.length := by
    obtain ⟨-, taken, split, -⟩ := script.spends_of_mem_asks ready member
    have covered := affords _ ready trivial q member
    have length := congrArg List.length split
    rw [List.length_append] at length
    exact ⟨taken, front ▸ split, by omega⟩
  have missing := (parseWithin limit source).exists_nestingTooDeep_iff.trans
    (script.misses_iff_of_always reads ready errors).symm
  refine ⟨missing, paid, fun enough limit' line member => ?_⟩
  -- Nobody is as deep as there are tokens, so that nobody misses a level.
  obtain ⟨q, asked, full⟩ := missing.mp ⟨limit', line, member⟩
  obtain ⟨taken, split, shallow⟩ := paid q asked
  have length := congrArg List.length split
  rw [List.length_append] at length
  rw [(script.spends_of_mem_asks ready asked).1, bound] at full
  omega

/-- Five levels are enough for four tokens that are no program. -/
theorem depth_le_length_taken_unfinished :
    (tokenize "!(-f").length < 5 ∧ ∀ limit' line,
      .syntactic (.nestingTooDeep limit' line) ∉ (parseWithin 5 "!(-f").diagnostics := by
  -- Four tokens are fewer than the levels, so that the limit is never met.
  obtain ⟨script, -, paid⟩ := depth_le_length_taken
  have few : (tokenize "!(-f").length < 5 := by decide +kernel
  exact ⟨few, (paid 5 "!(-f").2.2 few⟩

/-- As many levels as tokens need not be enough. -/
example : (parseWithin 1 "!").diagnostics = [.syntactic (.nestingTooDeep 1 1)] := by
  decide +kernel

end Scriptlet
