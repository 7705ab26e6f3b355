import Scriptlet.Proofs.Token.Lossless

/-! Whatever a lexer is in the middle of, its tokens do not depend on what it holds and has logged,
and all that it reports goes behind that. -/

namespace Scriptlet

/-- What a step comes to behind what was held and logged before. -/
def LexerStep.resuming (held : Array LexicalError) (logged : Array Event) : LexerStep → LexerStep
  | .exhausted final => .exhausted
    { final with errors := held ++ final.errors, journal := logged ++ final.journal }
  | .passed next => .passed
    { next with errors := held ++ next.errors, journal := logged ++ next.journal }
  | .found token next => .found token
    { next with errors := held ++ next.errors, journal := logged ++ next.journal }

namespace Lexer

/-- A lexer behind what was held and logged before. -/
def resuming (held : Array LexicalError) (logged : Array Event) (l : Lexer) : Lexer :=
  { l with errors := held ++ l.errors, journal := logged ++ l.journal }

section Resuming

variable (held : Array LexicalError) (logged : Array Event) (l : Lexer)

/-- Inside a comment the text alone decides, and what is reported goes behind all that was there. -/
theorem stepComment_resuming (openedAt : Nat) :
    (l.resuming held logged).stepComment openedAt =
      (l.stepComment openedAt).resuming held logged := by
  -- At each of the three ways through a comment, at most one defect is added behind.
  simp only [stepComment, resuming]
  split <;> simp [LexerStep.resuming, report]

/-- A string is read in the same way, and what is reported goes behind all that was there. -/
theorem stepString_resuming (source : List Char) :
    (l.resuming held logged).stepString source = (l.stepString source).resuming held logged := by
  -- Whether the string is closed is decided by the text.
  simp only [stepString, resuming]
  split <;> simp [LexerStep.resuming, report]

/-- A mark is read in the same way, and what is reported goes behind all that was there. -/
theorem stepMark_resuming (c : Char) (behind : List Char) :
    (l.resuming held logged).stepMark c behind = (l.stepMark c behind).resuming held logged := by
  -- Whether a mark begins here is decided by the text.
  simp only [stepMark, resuming]
  split <;> simp [LexerStep.resuming, report]

/-- Between lexemes the text alone decides as well. -/
theorem stepNormal_resuming : (l.resuming held logged).stepNormal =
    l.stepNormal.resuming held logged := by
  unfold stepNormal
  rw [show (l.resuming held logged).rest = l.rest from rfl]
  split
  · rfl
  · rfl
  · rfl
  · exact stepString_resuming held logged l _
  · -- Blanks, numbers and words are never reported.
    split
    · rfl
    · split
      · rfl
      · split
        · rfl
        · exact stepMark_resuming held logged l _ _

/-- A step does not depend on what was held and logged before. -/
theorem step_resuming : (l.resuming held logged).step = l.step.resuming held logged := by
  -- The mode tells which sort of step it is, and the mode is the same.
  unfold Lexer.step
  rw [show (l.resuming held logged).mode = l.mode from rfl]
  cases l.mode with
  | normal => exact stepNormal_resuming held logged l
  | blockComment openedAt => exact stepComment_resuming held logged l openedAt

/-- The next token does not depend on what was held and logged before. -/
theorem next_resuming :
    (l.resuming held logged).next = (l.next.1, l.next.2.resuming held logged) := by
  have step := step_resuming held logged l
  -- Both lexers take the same steps up to the token.
  induction l using next.induct with
  | case1 l final exhausted =>
    rw [exhausted] at step
    rw [next, step, next, exhausted]
    rfl
  | case2 l between passed ih =>
    rw [passed] at step
    rw [next, step, next, passed]
    exact ih (step_resuming held logged between)
  | case3 l token between found =>
    rw [found] at step
    rw [next, step, next, found]
    rfl

/-- What is left to read does not depend on what was held and logged before. -/
theorem drain_resuming :
    (l.resuming held logged).drain = (l.drain.1, l.drain.2.resuming held logged) := by
  -- Each token is read in the same way, and so are those behind it.
  have same := next_resuming held logged l
  induction l using drain.induct with
  | case1 l final none =>
    rw [none] at same
    rw [drain_of_none none, drain_of_none same]
  | case2 l token between some _ _ _ ih =>
    rw [some] at same
    rw [drain_of_some some, drain_of_some same, ih (next_resuming held logged between)]

end Resuming

variable {l after last other : Lexer}

/-- A lexer in the same place that holds nothing and has logged nothing. -/
def afresh (l : Lexer) : Lexer :=
  { l with errors := #[], journal := #[] }

/-- Every lexer is one that has begun afresh, behind what it holds and has logged. -/
theorem resuming_afresh (l : Lexer) : l.afresh.resuming l.errors l.journal = l := by
  -- What is put in front of nothing is all that there is.
  simp [afresh, resuming]

/-- The next token is the one that is read afresh. -/
theorem next_afresh (l : Lexer) :
    l.next = (l.afresh.next.1, l.afresh.next.2.resuming l.errors l.journal) := by
  -- The lexer is written as one that resumes, and resuming comes out of the reading.
  rw [← next_resuming, resuming_afresh]

/-- What is left to read is what is read afresh. -/
theorem drain_afresh (l : Lexer) :
    l.drain = (l.afresh.drain.1, l.afresh.drain.2.resuming l.errors l.journal) := by
  -- As for one token, so for all of them.
  rw [← drain_resuming, resuming_afresh]

section SamePlace

variable (rest : other.rest = l.rest) (line : other.line = l.line) (mode : other.mode = l.mode)

include rest line mode

/-- Lexers in the same place are the same afresh. -/
theorem afresh_congr : other.afresh = l.afresh := by
  -- A lexer without defects and without a log is its place.
  simp only [afresh, rest, line, mode]

/-- Lexers in the same place have the same tokens left. -/
theorem drain_tokens_congr : other.drain.1 = l.drain.1 := by
  -- The tokens are those that are read afresh, from the same place.
  rw [drain_afresh other, drain_afresh l, afresh_congr rest line mode]

/-- Lexers in the same place read the same token, report the same defects on the way, and stop in
the same place. -/
theorem next_of_same_place :
    other.next.1 = l.next.1 ∧ other.next.2.rest = l.next.2.rest ∧
      other.next.2.line = l.next.2.line ∧
      ∃ found, l.next.2.errors.toList = l.errors.toList ++ found ∧
        other.next.2.errors.toList = other.errors.toList ++ found := by
  -- Afresh both lexers find the same defects, which come behind what each of them held.
  rw [next_afresh other, next_afresh l, afresh_congr rest line mode]
  exact ⟨rfl, rfl, rfl, l.afresh.next.2.errors.toList, Array.toList_append, Array.toList_append⟩

end SamePlace

/-- The defects that are met up to the end come behind those that are held. -/
theorem drain_errors (l : Lexer) : l.drain.2.errors.toList =
    l.errors.toList ++ ({ l with errors := #[] } : Lexer).drain.2.errors.toList := by
  -- Both lexers are the same afresh, so that only what is in front of the common defects differs.
  have same : ({ l with errors := #[] } : Lexer).afresh = l.afresh := rfl
  rw [drain_afresh l, drain_afresh { l with errors := #[] }, same]
  simp [resuming]

/-- What was logged makes no difference to the defects up to the end. -/
theorem drain_errors_note (l : Lexer) (event : Event) :
    (l.note event).drain.2.errors = l.drain.2.errors := by
  -- The event stands in the log alone.
  have same : (l.note event).afresh = l.afresh := rfl
  rw [drain_afresh l, drain_afresh (l.note event), same]
  rfl

/-- Between two places of a lexer, each defect that comes to be held is logged at once. -/
def Logs (l after : Lexer) : Prop :=
  ∃ found : List LexicalError, after.errors.toList = l.errors.toList ++ found ∧
    after.journal.toList = l.journal.toList ++ found.map Event.lexicalError

/-- Where nothing is reported, nothing is logged. -/
theorem logs_of_eq (errors : after.errors = l.errors) (journal : after.journal = l.journal) :
    l.Logs after :=
  -- The list of what was found is empty.
  ⟨[], by simp [errors], by simp [journal]⟩

/-- A defect that is reported is logged. -/
theorem logs_report {error : LexicalError} (errors : after.errors = l.errors.push error)
    (journal : after.journal = l.journal.push (.lexicalError error)) : l.Logs after :=
  -- The one defect is pushed to what is held, and its event to the log.
  ⟨[error], by simp [errors], by simp [journal]⟩

/-- Where a lexer stays, nothing is logged. -/
theorem logs_self (l : Lexer) : l.Logs l :=
  -- Nothing was reported, and so nothing had to be logged.
  logs_of_eq rfl rfl

/-- What is logged first and then is logged in all. -/
theorem Logs.trans (first : l.Logs after) (second : after.Logs last) : l.Logs last := by
  -- What was found in both parts is found one after the other.
  obtain ⟨found, errors, journal⟩ := first
  obtain ⟨more, errors', journal'⟩ := second
  exact ⟨found ++ more, by rw [errors', errors, List.append_assoc],
    by rw [journal', journal, List.map_append, List.append_assoc]⟩

/-- A step of a lexer logs what it reports, and stays where it is once the source has ended. -/
def StepLogs (l : Lexer) : LexerStep → Prop
  | .exhausted final => final = l
  | .passed after | .found _ after => l.Logs after

/-- Inside a comment only its missing end is reported. -/
theorem stepLogs_comment (l : Lexer) (openedAt : Nat) : l.StepLogs (l.stepComment openedAt) := by
  -- At the end of the source the comment is reported; its end and any
  -- other character pass silently.
  unfold stepComment
  split
  · exact logs_report rfl rfl
  · exact logs_of_eq rfl rfl
  · exact logs_of_eq rfl rfl

/-- Only an open string is reported, and then it is logged. -/
theorem stepLogs_string (l : Lexer) (source : List Char) : l.StepLogs (l.stepString source) := by
  -- A closed string becomes a token, and an open one a defect.
  unfold stepString
  split
  · exact logs_of_eq rfl rfl
  · exact logs_report rfl rfl

/-- Only a character that begins nothing is reported, and then it is logged. -/
theorem stepLogs_mark (l : Lexer) (c : Char) (behind : List Char) :
    l.StepLogs (l.stepMark c behind) := by
  -- A mark becomes a token, and any other character a defect.
  unfold stepMark
  split
  · exact logs_of_eq rfl rfl
  · exact logs_report rfl rfl

/-- Between lexemes only open strings and characters that begin nothing are reported. -/
theorem stepLogs_normal (l : Lexer) : l.StepLogs l.stepNormal := by
  -- Blanks, comments, numbers and words pass silently, which leaves strings and marks.
  unfold stepNormal
  split
  · rfl
  · exact logs_of_eq rfl rfl
  · exact logs_of_eq rfl rfl
  · exact stepLogs_string l _
  · split
    · exact logs_of_eq rfl rfl
    · split
      · exact logs_of_eq rfl rfl
      · split
        · exact logs_of_eq rfl rfl
        · exact stepLogs_mark l _ _

/-- Every step logs what it reports. -/
theorem step_logs (l : Lexer) : l.StepLogs l.step := by
  -- Either mode has its own lemma.
  unfold Lexer.step
  cases l.mode with
  | normal => exact stepLogs_normal l
  | blockComment openedAt => exact stepLogs_comment l openedAt

/-- Reading a token logs what it reports. -/
theorem logs_next (l : Lexer) : l.Logs l.next.2 := by
  have step := step_logs l
  -- What the single steps log adds up.
  induction l using next.induct with
  | case1 l final exhausted =>
    rw [exhausted] at step
    rw [next, exhausted]
    exact step ▸ logs_self l
  | case2 l between passed ih =>
    rw [passed] at step
    rw [next, passed]
    exact Logs.trans step (ih (step_logs between))
  | case3 l token between found =>
    rw [found] at step
    rw [next, found]
    exact step

/-- Where there was no next token, there is none. -/
theorem next_of_none (read : l.next = (none, after)) : after.next = (none, after) := by
  induction l using next.induct with
  | case1 l final exhausted =>
    -- The lexer has stayed where it is.
    have step := step_logs l
    rw [exhausted] at step
    have stay : l.next = (none, final) := by rw [next, exhausted]
    rw [stay] at read
    cases read
    exact step ▸ stay
  | case2 l between passed ih =>
    rw [next, passed] at read
    exact ih read
  | case3 l token between found =>
    rw [next, found] at read
    cases read

/-- Reading a token first makes no difference to what a lexer comes to at the end. -/
theorem drain_next (l : Lexer) : l.next.2.drain.2 = l.drain.2 := by
  -- If there was a token, it is the first one of all; otherwise there is none from here on.
  cases read : l.next with
  | mk token after =>
    cases token with
    | some token => rw [drain_of_some read]
    | none => rw [drain_of_none read, drain_of_none (next_of_none read)]

/-- Draining a lexer takes what the next reading gives, and then what is left behind it. -/
theorem drain_eq (l : Lexer) : l.drain.1 = l.next.1.toList ++ l.next.2.drain.1 := by
  -- At the end, draining once more gives nothing.
  cases read : l.next with
  | mk token after =>
    cases token with
    | some token => simp [drain_of_some read]
    | none => simp [drain_of_none read, drain_of_none (next_of_none read)]

end Lexer

end Scriptlet
