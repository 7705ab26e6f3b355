import Scriptlet.Proofs.Token.Feed
import Scriptlet.Token.Session

/-! Whatever is asked of a lexer and in whatever order, its answers add up to one scan of the
source. -/

namespace Scriptlet

/-- The tokens that an answer hands over. -/
def LexerReply.handed : LexerReply → List Token
  | .token next => next.toList
  | .tokens rest => rest
  | .count _ | .errors _ => []

/-- The defects that an answer hands over for good; those that are merely shown stay held. -/
def LexerRequest.taken : LexerRequest → LexerReply → List LexicalError
  | .takeErrors, .errors held => held
  | _, _ => []

namespace Lexer

/-- The answers to some requests. -/
def replies (l : Lexer) (requests : List LexerRequest) : List LexerReply :=
  (l.answers requests).map Prod.fst

/-- The lexer that is left behind the answers to some requests. -/
def leaves (l : Lexer) (requests : List LexerRequest) : Lexer :=
  (l.answers requests).getLast?.elim l Prod.snd

/-- The tokens that were handed over by the answers to some requests. -/
def handed (l : Lexer) (requests : List LexerRequest) : List Token :=
  (l.replies requests).flatMap LexerReply.handed

/-- The defects that were handed over for good by the answers to some requests. -/
def taken (l : Lexer) (requests : List LexerRequest) : List LexicalError :=
  (requests.zipWith LexerRequest.taken (l.replies requests)).flatten

section Requests

variable (l : Lexer) (request : LexerRequest) (later : List LexerRequest)

/-- The first answer comes before those of the lexer that it leaves. -/
@[simp] theorem replies_cons :
    l.replies (request :: later) = (l.answer request).1 :: (l.answer request).2.replies later :=
  -- The answers are listed in the order of the requests.
  rfl

/-- The later requests go to the lexer that the first answer leaves. -/
@[simp] theorem leaves_cons :
    l.leaves (request :: later) = (l.answer request).2.leaves later := by
  -- Without later requests this is the lexer that is left.
  rw [leaves, leaves, answers, List.getLast?_cons]
  cases ((l.answer request).2.answers later).getLast? <;> rfl

/-- A request is answered by the lexer that is left behind the answers to the earlier ones. -/
theorem getElem?_answers (l : Lexer) (earlier later : List LexerRequest) (request : LexerRequest) :
    (l.answers (earlier ++ request :: later))[earlier.length]? =
      some ((l.leaves earlier).answer request) := by
  -- The earlier requests are answered one after another.
  induction earlier generalizing l with
  | nil => rfl
  | cons first earlier ih =>
    rw [leaves_cons, ← ih]
    rfl

/-- The tokens of the first answer come before those of the later ones. -/
@[simp] theorem handed_cons :
    l.handed (request :: later) =
      (l.answer request).1.handed ++ (l.answer request).2.handed later :=
  -- Each answer hands over what it hands over alone.
  rfl

/-- The defects of the first answer come before those of the later ones. -/
@[simp] theorem taken_cons :
    l.taken (request :: later) =
      request.taken (l.answer request).1 ++ (l.answer request).2.taken later :=
  -- Requests and answers stand side by side, so that the first of both go together.
  rfl

end Requests

variable {l : Lexer} {source : String} {tokens : List Token} {errors : List LexicalError}
  {request : LexerRequest}

/-- A lexer on its way through a source: the tokens and the defects that it has handed over add up,
with those that are still to come, to one scan. -/
structure Accounts (source : String) (tokens : List Token) (errors : List LexicalError)
    (l : Lexer) : Prop where
  normal : l.mode = .normal
  place : ∃ front back, l.Between source front back
  tokens : tokens ++ l.drain.1 = tokenize source
  errors : errors ++ l.drain.2.errors.toList = (tokenizeWithErrors source).2

/-- In front of a source nothing has been handed over. -/
theorem accounts_ofSource (source : String) : (ofSource source).Accounts source [] [] :=
  -- All tokens and all defects are still to come.
  ⟨rfl, ⟨[], Between.exists_ofSource source⟩, rfl, rfl⟩

/-- Every answer but a mere count hands over what comes next. -/
theorem Accounts.answer (accounts : l.Accounts source tokens errors) (shows : request ≠ .count) :
    (l.answer request).2.Accounts source (tokens ++ (l.answer request).1.handed)
      (errors ++ request.taken (l.answer request).1) := by
  obtain ⟨normal, ⟨front, back, between⟩, all, reported⟩ := accounts
  cases request with
  | next =>
    obtain ⟨passed, left, further, -⟩ := between.next normal
    refine ⟨(next_normal normal).1, ⟨front ++ passed, left, further⟩, ?_, ?_⟩
    · rw [← all, drain_eq l, ← List.append_assoc]
      rfl
    · show errors ++ [] ++ l.next.2.drain.2.errors.toList = _
      rw [List.append_nil, drain_next, reported]
  | count => exact absurd rfl shows
  | remaining =>
    -- Behind all tokens the lexer is at the end, and draining it again gives nothing.
    obtain ⟨rest, mode, passed⟩ := between.drain normal
    have again := drain_of_none (next_of_nil mode rest)
    refine ⟨mode, ⟨front ++ back, [], passed⟩, ?_, ?_⟩
    · show tokens ++ l.drain.1 ++ l.drain.2.drain.1 = _
      rw [again, List.append_nil, all]
    · show errors ++ [] ++ l.drain.2.drain.2.errors.toList = _
      rw [again, List.append_nil, reported]
  | errors =>
    -- Looking at the errors leaves the lexer as it is.
    refine ⟨normal, ⟨front, back, between⟩, ?_, ?_⟩
    · simpa [Lexer.answer, LexerReply.handed] using all
    · simpa [Lexer.answer, LexerRequest.taken] using reported
  | takeErrors =>
    refine ⟨normal, ⟨front, back, between.takeErrors⟩, ?_, ?_⟩
    · show tokens ++ [] ++ ({ l with errors := #[] } : Lexer).drain.1 = _
      rw [List.append_nil, ← all]
      exact congrArg (tokens ++ ·) (drain_tokens_congr rfl rfl rfl)
    · -- What was held comes before what is still to come.
      show errors ++ l.errors.toList ++ ({ l with errors := #[] } : Lexer).drain.2.errors.toList = _
      rw [List.append_assoc, ← drain_errors, reported]

/-- All answers together, none of them a mere count, hand over what comes next. -/
theorem Accounts.answers {requests : List LexerRequest}
    (accounts : l.Accounts source tokens errors) (uncounted : .count ∉ requests) :
    (l.leaves requests).Accounts source (tokens ++ l.handed requests)
      (errors ++ l.taken requests) := by
  -- The requests are answered one after another, each by the lexer that the one before it left.
  induction requests generalizing l tokens errors with
  | nil => simpa [leaves, Lexer.answers, handed, taken, replies] using accounts
  | cons request later ih =>
    rw [List.mem_cons, not_or] at uncounted
    have behind := ih (accounts.answer (Ne.symm uncounted.1)) uncounted.2
    rwa [List.append_assoc, List.append_assoc, ← handed_cons, ← taken_cons, ← leaves_cons] at behind

/-- What has been handed over and what is held are the tokens and the defects of the lexemes that
the lexer has come by. -/
theorem Accounts.front (accounts : l.Accounts source tokens errors) {front back : List Lexeme}
    (between : l.Between source front back) :
    tokens = Lexeme.tokens 1 front ∧ errors ++ l.errors.toList = Lexeme.defects 1 front := by
  obtain ⟨normal, -, all, reported⟩ := accounts
  -- One scan goes on with the other lexemes, and so does what is still to come.
  obtain ⟨left, defects, -⟩ :=
    drain_fitting (Lexeme.fitting_behind between.fitting) normal between.rest
  rw [left, tokenize, between.scan] at all
  rw [defects, ← List.append_assoc, between.scan] at reported
  exact ⟨List.append_cancel_right all, List.append_cancel_right reported⟩

/-- At the end of the source every answer leaves the lexer there, and there is no next token. -/
theorem answer_of_nil (normal : l.mode = .normal) (ended : l.rest = []) (request : LexerRequest) :
    (l.answer request).2.mode = .normal ∧ (l.answer request).2.rest = [] := by
  -- There is no token to read, and taking the errors does not move the lexer.
  have read := next_of_nil normal ended
  have drained := drain_of_none read
  cases request <;> simp only [answer, read, drained, takeErrors, normal, ended, and_self]

/-- Once there was no next token, or all tokens were read, the source has ended. -/
theorem rest_leaves {requests : List LexerRequest} (normal : l.mode = .normal)
    (ended : l.rest = [] ∨ .token none ∈ l.replies requests ∨ .remaining ∈ requests) :
    (l.leaves requests).rest = [] := by
  induction requests generalizing l with
  | nil => simpa [leaves, replies, Lexer.answers] using ended
  | cons request later ih =>
    rw [leaves_cons]
    obtain ⟨mode, exhausted⟩ := next_normal normal
    obtain ⟨lexemes, fitting, joined⟩ := Lexeme.exists_fitting l.rest
    obtain ⟨-, -, rest, drained, -⟩ := drain_fitting fitting normal joined.symm
    -- The source has ended before, with the first answer, or with one of the later ones.
    by_cases before : l.rest = []
    · obtain ⟨mode, still⟩ := answer_of_nil normal before request
      exact ih mode (.inl still)
    · simp only [before, replies_cons, List.mem_cons, false_or] at ended
      cases request with
      | next =>
        refine ih mode ?_
        rcases ended with (none | later) | (same | later)
        · exact .inl (exhausted (LexerReply.token.inj none).symm)
        · exact .inr (.inl later)
        · exact absurd same (by decide)
        · exact .inr (.inr later)
      | count => exact ih drained (.inl rest)
      | remaining => exact ih drained (.inl rest)
      | errors => exact ih normal (.inr (by simpa [Lexer.answer] using ended))
      | takeErrors => exact ih normal (.inr (by simpa [Lexer.answer] using ended))

end Lexer

open Scriptlet.Lexer

/-- Whatever is asked of the lexer of a source, short of merely counting its tokens, the tokens that
it hands over begin those of the source, and the defects that are taken and then those that are held
begin its defects; both are those of the text that has been read, on whose last line the lexer is,
between two lexemes. Once there was no next token, all tokens and defects have come, nothing is left
to read, and there is none ever after. The errors that are shown on the way are those held at that
moment, and taking them leaves none. -/
theorem answers_add_up (source : String) (requests : List LexerRequest)
    (uncounted : .count ∉ requests) :
    let l := ofSource source
    let after := l.leaves requests
    l.handed requests <+: tokenize source ∧
    l.taken requests ++ after.errors.toList <+: (tokenizeWithErrors source).2 ∧
    after.mode = .normal ∧
    (∃ read, source.toList = read ++ after.rest ∧ after.line = 1 + lineEnds read ∧
      l.handed requests = tokenize (String.ofList read) ∧
      l.taken requests ++ after.errors.toList = (tokenizeWithErrors (String.ofList read)).2) ∧
    (.token none ∈ l.replies requests ∨ .remaining ∈ requests →
      l.handed requests = tokenize source ∧
      l.taken requests ++ after.errors.toList = (tokenizeWithErrors source).2 ∧
      after.rest = [] ∧ after.answer .next = (.token none, after)) ∧
    ∀ earlier later,
      (requests = earlier ++ .errors :: later → (l.answers requests)[earlier.length]? =
        some (.errors (l.leaves earlier).errors.toList, l.leaves earlier)) ∧
      (requests = earlier ++ .takeErrors :: later → (l.answers requests)[earlier.length]? =
        some (.errors (l.leaves earlier).errors.toList,
          { l.leaves earlier with errors := #[] })) := by
  intro l after
  have accounts := (accounts_ofSource source).answers uncounted
  rw [List.nil_append, List.nil_append] at accounts
  obtain ⟨front, back, between⟩ := accounts.place
  obtain ⟨handed, shown⟩ := accounts.front between
  obtain ⟨normal, -, all, reported⟩ := accounts
  refine ⟨⟨_, all⟩, ?_, normal, ⟨Lexeme.joined front, ?_, between.line, ?_, ?_⟩, fun ended => ?_,
    fun earlier later => ⟨?_, ?_⟩⟩
  · rw [drain_errors, ← List.append_assoc] at reported
    exact ⟨_, reported⟩
  · rw [← between.joined, Lexeme.joined_append, between.rest]
  · rw [tokenize, between.scan_front, handed]
  · rw [between.scan_front, shown]
  · -- At the end nothing is still to come.
    have last : after.rest = [] := rest_leaves rfl (.inr ended)
    have none := next_of_nil normal last
    rw [drain_of_none none, List.append_nil] at all
    rw [drain_of_none none] at reported
    exact ⟨all, reported, last, by rw [Lexer.answer, none]⟩
  -- Each request is answered by the lexer that is left behind the earlier ones.
  · rintro rfl
    exact l.getElem?_answers earlier later .errors
  · rintro rfl
    exact l.getElem?_answers earlier later .takeErrors

/-- An illegal character, a number and a string that is left open, whose defects are taken in two
parts: the open string is reported once. -/
theorem answers_add_up_openString :
    LexerRequest.count ∉ [.next, .takeErrors, .next, .errors, .next, .takeErrors, .next] ∧
    (ofSource "@1\n\"2").handed [.next, .takeErrors, .next, .errors, .next, .takeErrors, .next] =
      tokenize "@1\n\"2" ∧
    (ofSource "@1\n\"2").taken [.next, .takeErrors, .next, .errors, .next, .takeErrors, .next] ++
        ((ofSource "@1\n\"2").leaves
          [.next, .takeErrors, .next, .errors, .next, .takeErrors, .next]).errors.toList =
      (tokenizeWithErrors "@1\n\"2").2 := by
  -- The last answer tells that the source has ended, and so all has come.
  have uncounted : LexerRequest.count ∉
      [.next, .takeErrors, .next, .errors, .next, .takeErrors, .next] := by decide
  obtain ⟨-, -, -, -, complete, -⟩ := answers_add_up "@1\n\"2" _ uncounted
  have ended : LexerReply.token none ∈ (ofSource "@1\n\"2").replies
      [.next, .takeErrors, .next, .errors, .next, .takeErrors, .next] := by decide +kernel
  exact ⟨uncounted, (complete (.inl ended)).1, (complete (.inl ended)).2.1⟩

end Scriptlet
