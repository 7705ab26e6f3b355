import Scriptlet.Proofs.Parser.Reads
import Scriptlet.Proofs.Parser.Stepwise

/-! Readers that get their meaning without recording a syntax defect, as those of expressions do. -/

namespace Scriptlet

namespace Parser

open Phrase

variable {α β : Type}

/-- Wherever a reader gets a meaning, it has recorded no syntax defect. -/
def Steady (reader : Parse α) : Prop :=
  ∀ p a q, reader p = .ok a q → q.syntaxErrors = p.syntaxErrors

section Steps

variable {reader : Parse α} {next : α → Parse β}

/-- Steady readers in a row are steady. -/
theorem Steady.bind (first : Steady reader) (later : ∀ a, Steady (next a)) :
    Steady (reader >>= next) := by
  -- Nothing is recorded by either reader.
  intro p b r got
  rw [bind_apply] at got
  cases read : reader p with
  | error error q =>
    rw [read] at got
    cases got
  | ok a q =>
    rw [read] at got
    rw [later a q b r got, first p a q read]

/-- To read nothing records no defect. -/
theorem steady_pure (a : α) : Steady (pure a) := by
  -- The parser stays where it is.
  intro p b q got
  cases got
  rfl

/-- To stop comes to no result, with a defect or without. -/
theorem steady_unexpected (expected : String) : Steady (unexpected expected : Parse α) := by
  -- Stopping gets no meaning.
  intro p a q got
  unfold unexpected at got
  split at got <;> cases got

/-- To take the lookahead records no syntax defect. -/
theorem steady_advance : Steady advance := by
  -- Moving on records lexical defects only.
  intro p a q got
  unfold advance at got
  split at got <;> cases got
  · exact syntaxErrors_pull p
  · rfl

/-- To look at the next token records no defect. -/
theorem steady_peek : Steady peek := by
  -- The parser stays where it is.
  intro p a q got
  cases got
  rfl

/-- To take the lookahead if it is of a given kind records no syntax defect. -/
theorem steady_accept (kind : TokenKind) : Steady (accept kind) := by
  -- The parser moves on or stays.
  intro p a q got
  unfold accept at got
  split at got <;> cases got
  · exact syntaxErrors_pull p
  · rfl

/-- To take a token of a given kind records no syntax defect. -/
theorem steady_take (kind : TokenKind) (context : String) : Steady (take kind context) := by
  -- The token is taken, or the reader stops at it.
  intro p a q got
  unfold take at got
  split at got
  · split at got
    · cases got
      exact syntaxErrors_pull p
    · exact steady_unexpected _ p a q got
  · exact steady_unexpected _ p a q got

/-- To take a name records no syntax defect. -/
theorem steady_name (context : String) : Steady (name context) := by
  -- A token without a name stops the reading, and then there is no result.
  refine (steady_take .identifier context).bind fun token => ?_
  cases token.value with
  | text content => exact steady_pure content
  | number number =>
    intro p a q got
    cases got

/-- Reading one level deeper records what is recorded there. -/
theorem Steady.nested (steady : Steady reader) : Steady (nested reader) := by
  -- The level makes no difference to what is recorded.
  intro p a q got
  unfold Parser.nested at got
  split at got
  · cases got
  · split at got
    next read =>
      cases got
      have same := steady _ _ _ read
      exact same
    next => cases got

end Steps

section Led

variable {size : Nat} {between follow ends : Boundary} {reader : Parse α} {phrase wider : Phrase α}
  {token : Token}

/-- A steady reader keeps the first token, so that its phrases are of a wider sort as soon as those
are that begin with this token. -/
theorem Reads.led (reads : Reads size (· = some token) reader phrase between ends)
    (steady : Steady reader) [wider.Productive] (nonempty : ∀ a n, ¬ phrase [] a n)
    (sound : ∀ more a n, phrase (token :: more) a n → wider (token :: more) a n)
    (exact : phrase.Narrows wider between follow (some token)) :
    Reads size (· = some token) reader wider follow ends := by
  intro p ready fits front
  have read := reads p ready fits front
  have narrows : phrase.Narrows wider between follow p.upcoming.head? := front ▸ exact
  -- What begins a phrase here is empty, or begins with the token.
  have completes (first back : List Token) (split : p.upcoming = first ++ back)
      (viable : phrase.Viable first) : wider.Viable first := by
    cases first with
    | nil => exact ‹wider.Productive›.inhabited
    | cons other first =>
      obtain ⟨more, a, n, whole⟩ := viable
      rw [split] at front
      obtain rfl := Option.some.inj front
      exact ⟨more, a, n, sound _ _ _ whole⟩
  cases got : reader p with
  | error error q =>
    rw [got] at read
    obtain ⟨consumed, recorded, moves, blames, faulty⟩ := read
    refine ⟨consumed, recorded, moves, blames, fun earliest some => ?_⟩
    obtain ⟨first, back, fault⟩ := faulty earliest some
    exact ⟨first, back, fault.widen (completes first back fault.upcoming) narrows⟩
  | ok a q =>
    rw [got] at read
    obtain ⟨⟨consumed, recorded, kept, n, moves, sublist, whole, room, clean, -⟩, after⟩ := read
    -- A meaning was got, so that nothing was recorded and no token was dropped.
    have none : recorded = [] := by
      have errors := moves.errors
      rw [steady p a q got] at errors
      simpa using errors.symm
    obtain ⟨rfl, certain⟩ := clean none
    refine ⟨⟨kept, recorded, kept, n, moves, sublist, ?_, room, fun _ => ⟨rfl, ?_⟩,
      by simp [none]⟩, after⟩
    · -- The tokens that were kept begin with the first one.
      cases kept with
      | nil => exact absurd whole (nonempty a n)
      | cons other kept =>
        rw [moves.upcoming] at front
        obtain rfl := Option.some.inj front
        exact sound _ _ _ whole
    · exact certain.widen (moves.upcoming ▸ narrows)

end Led

/-- Every single step is steady, and so are readers that are built from steady ones. -/
theorem stepwise_steady : Stepwise @Steady where
  -- Each step has its own lemma above.
  pure := steady_pure
  bind := Steady.bind
  unexpected := steady_unexpected
  peek := steady_peek
  advance := steady_advance
  accept := steady_accept
  take := steady_take
  name := steady_name
  nested := Steady.nested

end Parser

end Scriptlet
