import Scriptlet.Proofs.Parser.Outcome

/-! Rules for readers of phrases: what the steps of a reader read, the reader reads in a row. -/

namespace Scriptlet

namespace Phrase

variable {α β : Type} {phrase wider : Phrase α} {between follow : Boundary}

/-- Where a given token is next, phrases of a wider sort are phrases of a narrower one. -/
def Narrows (phrase wider : Phrase α) (between follow : Boundary) (head : Option Token) : Prop :=
  ∀ tokens a n rest, wider tokens a n → follow rest.head? → (tokens ++ rest).head? = head →
    phrase tokens a n ∧ between rest.head?

/-- Behind some tokens the first one is theirs, or the next one. -/
theorem head?_append_of_look {front back behind : List Token}
    (look : behind.head? = back.head?) : (front ++ behind).head? = (front ++ back).head? := by
  -- Only without tokens in front does it matter what comes behind them.
  cases front with
  | nil => exact look
  | cons token front => rfl

/-- A defect in a narrower sort of phrases is one in the wider sort. -/
theorem Fault.widen {p : Parser} {front back : List Token} {error : SyntaxError}
    (fault : phrase.Fault between p front back error)
    (completes : phrase.Viable front → wider.Viable front)
    (exact : phrase.Narrows wider between follow p.upcoming.head?) :
    wider.Fault follow p front back error where
  upcoming := fault.upcoming
  blames := fault.blames
  viable other := completes (fault.viable other)
  excluded := by
    -- Another phrase begins with the same token, so it is of the narrower sort.
    intro tokens b n rest behind whole follows equal look
    have head : (tokens ++ rest).head? = p.upcoming.head? := by
      rw [equal, fault.upcoming]
      exact head?_append_of_look look
    obtain ⟨narrow, follows⟩ := exact _ _ _ _ whole follows head
    exact fault.excluded _ _ _ _ _ narrow follows equal look

/-- What is certain among phrases of a narrower sort is certain among those of the wider sort. -/
theorem Certain.widen {consumed back : List Token} {a : α}
    (certain : phrase.Certain between consumed a back.head?)
    (exact : phrase.Narrows wider between follow (consumed ++ back).head?) :
    wider.Certain follow consumed a back.head? := by
  -- Another phrase begins with the same token, so it is of the narrower sort.
  intro tokens b m rest behind other follows equal look
  have head : (tokens ++ rest).head? = (consumed ++ back).head? := by
    rw [equal]
    exact head?_append_of_look look
  obtain ⟨narrow, follows⟩ := exact _ _ _ _ other follows head
  exact certain _ _ _ _ _ narrow follows equal look

/-- Getting a meaning of a narrower sort is getting one of the wider sort. -/
theorem Succeeds.widen {p q : Parser} {a : α} (out : phrase.Succeeds between p a q)
    (sound : ∀ tokens a n, phrase tokens a n → wider tokens a n)
    (exact : phrase.Narrows wider between follow p.upcoming.head?) :
    wider.Succeeds follow p a q := by
  -- The tokens that were kept are a phrase of both sorts.
  obtain ⟨consumed, recorded, kept, n, moves, sublist, whole, room, clean, faulty⟩ := out
  refine ⟨consumed, recorded, kept, n, moves, sublist, sound _ _ _ whole, room, ?_, ?_⟩
  · intro none
    obtain ⟨same, certain⟩ := clean none
    exact ⟨same, certain.widen (moves.upcoming ▸ exact)⟩
  · intro error some
    obtain ⟨dropped, front, back, fault⟩ := faulty error some
    exact ⟨dropped, front, back, fault.widen (fun viable => viable.mono sound) exact⟩

/-- Stopping at a phrase of a narrower sort is stopping at one of the wider sort. -/
theorem Fails.widen {p q : Parser} {error : SyntaxError} (out : phrase.Fails between p error q)
    (sound : ∀ tokens a n, phrase tokens a n → wider tokens a n)
    (exact : phrase.Narrows wider between follow p.upcoming.head?) :
    wider.Fails follow p error q := by
  -- The first defect is one in both sorts.
  obtain ⟨consumed, recorded, moves, blames, faulty⟩ := out
  refine ⟨consumed, recorded, moves, blames, fun earliest some => ?_⟩
  obtain ⟨front, back, fault⟩ := faulty earliest some
  exact ⟨front, back, fault.widen (fun viable => viable.mono sound) exact⟩

end Phrase

namespace Parser

open Phrase

variable {α β : Type} {size : Nat} {starts between middle follow ends : Boundary}

/-- In front of at most so many tokens, with one of the given starts, a reader reads a phrase that
is not followed by what could go on with it, and leaves one of the given ends in front. -/
def Reads (size : Nat) (starts : Boundary) (reader : Parse α) (phrase : Phrase α)
    (follow ends : Boundary) : Prop :=
  ∀ p : Parser, p.Ready → p.upcoming.length ≤ size → starts p.upcoming.head? →
    match reader p with
    | .ok a q => phrase.Succeeds follow p a q ∧ ends q.upcoming.head?
    | .error error q => phrase.Fails follow p error q

/-- Nothing is asked of the next token. -/
def anything : Boundary :=
  fun _ => True

/-- A reader in front of another one hands its meaning on, or its defect. -/
theorem bind_apply (reader : Parse α) (next : α → Parse β) (p : Parser) :
    (reader >>= next) p = match reader p with
      | .ok a q => next a q
      | .error error q => .error error q := by
  -- The second reader goes on where the first one ended.
  show EStateM.bind reader next p = _
  unfold EStateM.bind
  cases reader p <;> rfl

/-- Reading nothing gives the meaning that was given. -/
theorem reads_pure (a : α) : Reads size starts (pure a) (Empty a) follow starts := by
  -- The phrase without tokens is the only one of its sort.
  intro p ready _ start
  refine ⟨⟨[], [], [], 0, ready.stays, List.Sublist.refl _, .intro, Nat.zero_le _, ?_, by simp⟩,
    start⟩
  refine fun _ => ⟨rfl, fun tokens b n rest behind other _ _ _ => ?_⟩
  cases other
  exact ⟨rfl, rfl⟩

/-- What is left behind a phrase is shorter by the length of the phrase at least. -/
theorem length_le_of_succeeds {phrase : Phrase α} {p q : Parser} {a : α}
    (out : phrase.Succeeds follow p a q) : q.Ready ∧ ∃ tokens n,
      phrase tokens a n ∧ tokens.length + q.upcoming.length ≤ p.upcoming.length := by
  -- The tokens that were kept are some of those that were consumed.
  obtain ⟨consumed, recorded, kept, n, moves, sublist, whole, -⟩ := out
  have shorter := sublist.length_le
  refine ⟨moves.ready, kept, n, whole, ?_⟩
  rw [moves.upcoming, List.length_append]
  omega

section Sequence

variable {left : Nat} {reader : Parse α} {next : α → Parse β} {first : Phrase α}
  {second : α → Phrase β}

/-- Readers of two phrases read both in a row; behind the first phrase fewer tokens are left. -/
theorem Reads.step (front : Reads size starts reader first between middle)
    (back : ∀ a, Reads left middle (next a) (second a) follow ends)
    (joins : Joins second between follow)
    (shrinks : ∀ tokens a n, first tokens a n → size ≤ tokens.length + left)
    [∀ a, (second a).Productive] :
    Reads size starts (reader >>= next) (Then first second) follow ends := by
  intro p ready fits start
  have read := front p ready fits start
  rw [bind_apply]
  -- A defect in the first phrase ends the reading, and otherwise the second one is next.
  cases got : reader p with
  | error error q =>
    rw [got] at read
    exact read.then joins
  | ok a q =>
    rw [got] at read
    obtain ⟨out, middle⟩ := read
    obtain ⟨ready', tokens, n, whole, shorter⟩ := length_le_of_succeeds out
    have enough := shrinks tokens a n whole
    have later := back a q ready' (by omega) middle
    show match next a q with | .ok b r => _ | .error error r => _
    cases got' : next a q with
    | error error r =>
      rw [got'] at later
      exact out.thenFails later joins
    | ok b r =>
      rw [got'] at later
      exact ⟨out.then later.1 joins, later.2⟩

/-- Readers of two phrases read both in a row. -/
theorem Reads.bind (front : Reads size starts reader first between middle)
    (back : ∀ a, Reads size middle (next a) (second a) follow ends)
    (joins : Joins second between follow) [∀ a, (second a).Productive] :
    Reads size starts (reader >>= next) (Then first second) follow ends :=
  -- The second reader gets the whole bound, whatever the first one has consumed.
  front.step back joins fun tokens _ _ _ => Nat.le_add_left size tokens.length

end Sequence

section Change

variable {reader : Parse α} {phrase wider : Phrase α}

/-- A reader of a narrower sort of phrases reads a wider sort where they begin alike. -/
theorem Reads.widen (reads : Reads size starts reader phrase between ends)
    (sound : ∀ tokens a n, phrase tokens a n → wider tokens a n)
    (exact : ∀ head, starts head → phrase.Narrows wider between follow head) :
    Reads size starts reader wider follow ends := by
  -- What was read, or the defect that was met, is taken for one of the wider sort.
  intro p ready fits start
  have read := reads p ready fits start
  cases got : reader p with
  | error error q =>
    rw [got] at read
    exact Fails.widen read sound (exact _ start)
  | ok a q =>
    rw [got] at read
    exact ⟨read.1.widen sound (exact _ start), read.2⟩

/-- A reader of phrases reads the same phrases by another name. -/
theorem Reads.convert (reads : Reads size starts reader phrase follow ends)
    (same : ∀ tokens a n, phrase tokens a n ↔ wider tokens a n) :
    Reads size starts reader wider follow ends :=
  -- No phrase is added or lost, so that nothing new may follow.
  reads.widen (fun _ _ _ => (same _ _ _).mp) fun _ _ _ _ _ _ other follows _ =>
    ⟨(same _ _ _).mpr other, follows⟩

/-- Less can be asked of the ends, and more of the size, the starts and what follows. -/
theorem Reads.mono {small : Nat} {narrow tight : Boundary} {late : Boundary}
    (reads : Reads size starts reader phrase follow ends) (fewer : small ≤ size)
    (begins : ∀ head, narrow head → starts head) (follows : ∀ head, tight head → follow head)
    (leaves : ∀ head, ends head → late head) : Reads small narrow reader phrase tight late := by
  -- The phrases stay the same, and what follows them is restricted further.
  have read : Reads size starts reader phrase tight ends := reads.widen (fun _ _ _ => id)
    fun _ _ _ _ _ _ other behind _ => ⟨other, follows _ behind⟩
  intro p ready fits start
  have out := read p ready (Nat.le_trans fits fewer) (begins _ start)
  cases got : reader p with
  | error error q =>
    rw [got] at out
    exact out
  | ok a q =>
    rw [got] at out
    exact ⟨out.1, leaves _ out.2⟩

/-- What is left in front need not be known. -/
theorem Reads.loose (reads : Reads size starts reader phrase follow ends) :
    Reads size starts reader phrase follow anything :=
  -- What is known of the next token is just forgotten.
  reads.mono (Nat.le_refl size) (fun _ => id) (fun _ => id) fun _ _ => trivial

/-- A reader that may start anywhere may start at fewer tokens, and at certain ones. -/
theorem Reads.within {small : Nat} (reads : Reads size anything reader phrase follow ends)
    (fewer : small ≤ size) : Reads small starts reader phrase follow ends :=
  -- Neither the bound nor the start is asked for more.
  reads.mono fewer (fun _ _ => trivial) (fun _ => id) fun _ => id

/-- Reading nothing gives the meaning that was given, whatever is next. -/
theorem reads_return (a : α) : Reads size starts (pure a) (Empty a) follow anything :=
  -- Nothing is consumed, and what follows is not looked at.
  (reads_pure a).loose

/-- In front of no tokens, none is next. -/
theorem Reads.exhausted (reads : Reads 0 (· = none) reader phrase follow ends) :
    Reads 0 starts reader phrase follow ends := by
  -- Whatever token the reader might start at, there is none.
  intro p ready fits _
  refine reads p ready fits ?_
  rw [List.length_eq_zero_iff.mp (Nat.le_zero.mp fits)]
  rfl

end Change

end Parser

end Scriptlet
