import Scriptlet.Proofs.Parser.Reads

/-! Rules for the steps that readers are made of: looking at a token, taking it, and nesting. -/

namespace Scriptlet

namespace Parser

open Phrase

variable {α β : Type} {size : Nat} {starts follow ends : Boundary} {phrase : Phrase α} {p : Parser}

/-- The lookahead of a ready parser has the kind of the first upcoming token. -/
theorem Ready.kind?_eq (ready : p.Ready) : p.kind? = p.upcoming.head?.map Token.kind := by
  -- The lookahead is that token.
  rw [ready.head?_upcoming]
  rfl

/-- A parser that meets a token with which no phrase goes on has met the first defect. -/
theorem Ready.fails [phrase.Productive] {error : SyntaxError} (ready : p.Ready)
    (blames : error.Blames p.upcoming)
    (excluded : ∀ tokens a n rest, phrase tokens a n → follow rest.head? →
      (tokens ++ rest).head? = p.upcoming.head? → error.isNesting = true ∧ p.limit < p.depth + n) :
    phrase.Fails follow p error p := by
  -- Nothing was consumed, so that the defect lies in front of the whole phrase.
  refine ⟨[], [], ready.stays, blames, fun first some => ⟨[], p.upcoming, ?_⟩⟩
  obtain rfl : error = first := by simpa using some
  refine ⟨rfl, blames, fun _ => ‹phrase.Productive›.inhabited,
    fun tokens b n rest behind whole follows equal look =>
      excluded tokens b n rest whole follows ?_⟩
  rw [equal]
  exact look

/-- Stopping blames the lookahead, or the end of the source. -/
theorem Ready.unexpected_apply (ready : p.Ready) (expected : String) :
    ∃ error : SyntaxError, (unexpected expected : Parse α) p = .error error p ∧
      error.Blames p.upcoming ∧ error.isNesting = false := by
  -- Without a lookahead no token is left.
  have head := ready.head?_upcoming
  cases front : p.lookahead with
  | some token =>
    refine ⟨.unexpectedToken token expected token.line, ?_, head.trans front, rfl⟩
    simp only [unexpected, front]
  | none =>
    refine ⟨.unexpectedEnd expected p.currentLine, ?_, ready.lookahead_eq_none_iff.mp front, rfl⟩
    simp only [unexpected, front]

/-- Stopping is right where no phrase begins with the token that is next. -/
theorem reads_unexpected [phrase.Productive] (expected : String)
    (none : ∀ tokens a n rest, phrase tokens a n → follow rest.head? →
      ¬ starts (tokens ++ rest).head?) :
    Reads size starts (unexpected expected) phrase follow ends := by
  -- Every phrase would begin with a token that is not next.
  intro p ready _ start
  obtain ⟨error, stop, blames, -⟩ := ready.unexpected_apply (α := α) expected
  rw [stop]
  refine ready.fails blames fun tokens a n rest whole follows look => ?_
  exact absurd (look ▸ start) (none tokens a n rest whole follows)

/-- Taking the lookahead reads a phrase of one token. -/
theorem Ready.succeeds_pull (ready : p.Ready) {token : Token} {a : α}
    (front : p.upcoming.head? = some token) (whole : phrase [token] a 0)
    (only : ∀ tokens b n rest behind, phrase tokens b n → tokens ++ rest = token :: behind →
      tokens = [token] ∧ b = a) : phrase.Succeeds follow p a p.pull := by
  -- The token is all that was consumed, and it is kept.
  refine ⟨[token], [], [token], 0, ready.moves_pull front, List.Sublist.refl _, whole,
    Nat.zero_le _, ?_, by simp⟩
  exact fun _ => ⟨rfl, fun tokens b n rest behind other _ equal _ =>
    only tokens b n rest behind other equal⟩

/-- Taking a known token, for what it means, reads this token. -/
theorem reads_just {reader : Parse α} (token : Token) (a : α)
    (takes : ∀ p : Parser, p.lookahead = some token → reader p = .ok a p.pull) :
    Reads size (· = some token) reader (Just token a) follow anything := by
  intro p ready _ front
  -- Every phrase of this sort is the one token.
  rw [takes p (ready.head?_upcoming ▸ front)]
  refine ⟨ready.succeeds_pull front .intro fun tokens _ n rest behind other equal => ?_, trivial⟩
  cases other
  exact ⟨rfl, rfl⟩

/-- A known token is passed over. -/
theorem skip_apply {token : Token} (p : Parser) (front : p.lookahead = some token) :
    skip p = .ok () p.pull := by
  -- The token is taken, and then forgotten.
  show (advance >>= fun _ => pure ()) p = _
  rw [bind_apply, advance, front]
  rfl

/-- A token is taken for the literal that its value makes it. -/
theorem literal_apply {token : Token} (p : Parser) (front : p.lookahead = some token) :
    literal p = .ok (match token.value with
      | .number value => .number value
      | .text payload => .string payload) p.pull := by
  -- The value is a number or a text, and each makes a literal.
  rw [literal, bind_apply, advance, front]
  cases value : token.value <;> simp only [Option.map_some, value] <;> rfl

/-- A token of a given kind is taken, and any other one is blamed. -/
theorem Ready.take_cases (ready : p.Ready) (kind : TokenKind) (context : String) :
    (∃ token, p.upcoming.head? = some token ∧ token.kind = kind ∧
      take kind context p = .ok token p.pull) ∨
    ∃ error : SyntaxError, take kind context p = .error error p ∧ error.Blames p.upcoming ∧
      ∀ token, p.upcoming.head? = some token → token.kind ≠ kind := by
  -- The kinds of the lookahead and of the first upcoming token are the same.
  have head := ready.head?_upcoming
  obtain ⟨error, stop, blames, -⟩ :=
    ready.unexpected_apply (α := Token) (expectation kind context)
  cases front : p.lookahead with
  | none => exact .inr ⟨error, by rw [take, front, stop], blames, by simp [head, front]⟩
  | some token =>
    by_cases same : token.kind = kind
    · exact .inl ⟨token, head.trans front, same, by simp only [take, front, same, ↓reduceIte]⟩
    · exact .inr ⟨error, by simp only [take, front, same, stop, ↓reduceIte], blames,
        by simpa [head, front] using same⟩

/-- Passing over a token of a given kind reads a mark of this kind. -/
theorem reads_expect (kind : TokenKind) (context : String) :
    Reads size starts (expect kind context) (Mark kind) follow anything := by
  -- Without the mark the reader stops in front of it.
  intro p ready _ _
  rw [show expect kind context = (take kind context >>= fun _ => pure ()) from rfl, bind_apply]
  rcases ready.take_cases kind context with
    ⟨token, front, same, took⟩ | ⟨error, stop, blames, other⟩
  · rw [took]
    refine ⟨ready.succeeds_pull front (.intro same) fun tokens _ n rest behind whole equal => ?_,
      trivial⟩
    cases whole
    exact ⟨by simpa using (List.cons.inj equal).1, rfl⟩
  · rw [stop]
    refine ready.fails blames fun tokens a n rest whole _ look => ?_
    cases whole with
    | intro same => exact absurd same (other _ look.symm)

/-- A known identifier is taken for its name. -/
theorem name_apply {token : Token} {content : String} (kind : token.kind = .identifier)
    (value : token.value = .text content) (context : String) (p : Parser)
    (front : p.lookahead = some token) :
    name context p = .ok content p.pull := by
  -- The kind is right, and the value is the name.
  rw [name, bind_apply, take, front]
  simp only [kind, value, ↓reduceIte]
  rfl

/-- Taking an identifier for its name reads a name. -/
theorem reads_name (context : String) :
    Reads size starts (name context) Named follow anything := by
  intro p ready _ _
  rcases ready.take_cases .identifier context with
    ⟨token, front, same, took⟩ | ⟨error, stop, blames, other⟩
  · -- An identifier is written with its name, and not with a number.
    have look := ready.head?_upcoming ▸ front
    obtain ⟨content, value⟩ := (ready.written token look).text_of_kind (by simp [same])
    rw [name_apply same value context p look]
    refine ⟨ready.succeeds_pull front (.intro same value)
      fun tokens b n rest behind whole equal => ?_, trivial⟩
    cases whole with
    | intro kind value' =>
      obtain ⟨rfl, -⟩ := List.cons.inj equal
      exact ⟨rfl, by simpa [value] using value'.symm⟩
  · rw [name, bind_apply, stop]
    refine ready.fails blames fun tokens a n rest whole _ look => ?_
    cases whole with
    | intro same value => exact absurd same (other _ look.symm)

section Joins

variable {between : Boundary} {f : α → β} {kind : TokenKind}

/-- Anything stands behind. -/
theorem joins_anything {second : α → Phrase β} : Joins second anything follow :=
  -- Nothing is asked of what stands behind.
  fun _ _ _ _ _ _ _ => trivial

/-- Where nothing more is read, what follows stands behind. -/
theorem joins_empty (less : ∀ next, follow next → between next) :
    Joins (fun a => Empty (f a)) between follow := by
  -- No token comes between the phrase and what follows it.
  intro a tokens b n rest none follows
  cases none
  exact less _ follows

/-- Where a mark is read next, it stands behind. -/
theorem joins_mark {second : α → Unit → Phrase β}
    (marks : ∀ token : Token, token.kind = kind → between (some token)) :
    Joins (fun a => Then (Mark kind) (second a)) between follow := by
  -- The first token behind the phrase is the mark.
  intro a tokens b n rest whole _
  obtain ⟨token, back, same, rfl, -⟩ := (mark_then kind).mp whole
  exact marks token same

/-- Where a mark or nothing more is read next, the mark or what follows stands behind. -/
theorem joins_optional {taken : α → Phrase β}
    (marks : ∀ token : Token, token.kind = kind → between (some token))
    (less : ∀ next, follow next → between next) :
    Joins (fun a => Optional kind (taken a) (Empty (f a))) between follow := by
  -- Either the mark stands behind, or nothing but what follows.
  intro a tokens b n rest whole follows
  cases whole with
  | taken same more => exact marks _ same
  | passed none =>
    cases none
    exact less _ follows

end Joins

/-- A mark at the end of a phrase is expected, and the meaning of the phrase given. -/
theorem reads_closed (kind : TokenKind) (context : String) (a : α) :
    Reads size starts (expect kind context >>= fun _ => pure a)
      (Then (Mark kind) fun _ => Empty a) follow anything :=
  -- Behind the mark nothing more is read.
  (reads_expect kind context).bind (fun _ => reads_pure a) joins_anything

section Choice

variable {reader : Parse α}

/-- What is read may depend on the token that is next. -/
theorem reads_at (reads : ∀ head, starts head → (∀ token, head = some token → token.Written) →
      Reads size (· = head) reader phrase follow ends) :
    Reads size starts reader phrase follow ends := by
  -- All that stands in front of a parser was written by the lexer.
  intro p ready fits start
  refine reads _ start (fun token front => ?_) p ready fits rfl
  exact ready.written token (ready.head?_upcoming ▸ front)

/-- Looking at the next token tells its kind. -/
theorem reads_peek {next : Option TokenKind → Parse α} {head : Option Token}
    (reads : Reads size (· = head) (next (head.map Token.kind)) phrase follow ends) :
    Reads size (· = head) (peek >>= next) phrase follow ends := by
  -- The lookahead is the first of the upcoming tokens.
  intro p ready fits front
  have read := reads p ready fits front
  rwa [← front, ← ready.kind?_eq] at read

/-- Where a token is next, its line is the current one. -/
theorem reads_get {next : Parser → Parse α} {token : Token}
    (reads : ∀ here : Parser, here.currentLine = token.line →
      Reads size (· = some token) (next here) phrase follow ends) :
    Reads size (· = some token) (get >>= next) phrase follow ends := by
  -- A ready parser keeps the line of its lookahead.
  intro p ready fits front
  have look := ready.head?_upcoming ▸ front
  exact reads p (ready.currentLine_of_some look) p ready fits front

/-- A known token is taken for what it means, and the rest is read behind it. -/
theorem Reads.behind {left : Nat} {token : Token} {a : α} {reader : Parse α} {next : α → Parse β}
    {second : α → Phrase β} (reads : ∀ a, Reads left anything (next a) (second a) follow ends)
    (takes : ∀ p : Parser, p.lookahead = some token → reader p = .ok a p.pull)
    (fewer : size ≤ left + 1) [∀ a, (second a).Productive] :
    Reads size (· = some token) (reader >>= next) (Then (Just token a) second) follow ends := by
  -- The token that is taken makes room for the smaller bound.
  refine (reads_just token a takes).step reads joins_anything ?_
  intro tokens _ _ whole
  cases whole
  simp only [List.length_cons, List.length_nil]
  omega

/-- Where a phrase begins with a known token, the reader of what the token asks for reads it. -/
theorem Reads.formed {reader : Parse α} {form whole : Phrase α} {token : Token}
    {formed : List Token → α → Nat → Prop}
    (reads : Reads size (· = some token) reader form follow ends)
    (exact : ∀ tokens a n, form tokens a n ↔ ∃ back, tokens = token :: back ∧ formed back a n)
    (cons_iff : ∀ back a n, whole (token :: back) a n ↔ formed back a n)
    (nonempty : ∀ a n, ¬ whole [] a n) :
    Reads size (· = some token) reader whole follow ends := by
  -- The token that is next is the first one of every phrase.
  refine reads.widen (fun tokens a n part => ?_) ?_
  · obtain ⟨back, rfl, more⟩ := (exact _ _ _).mp part
    exact (cons_iff _ _ _).mpr more
  · intro head same tokens a n rest phrase follows look
    cases tokens with
    | nil => exact absurd phrase (nonempty a n)
    | cons first back =>
      obtain rfl := Option.some.inj (look.trans same)
      exact ⟨(exact _ _ _).mpr ⟨back, rfl, (cons_iff _ _ _).mp phrase⟩, follows⟩

/-- A token of a given kind is taken if it is next, and decides what is read then. -/
theorem reads_optional {kind : TokenKind} {yes no : Parse α} {taken passed : Phrase α}
    {left : Nat} (reads : Reads left anything yes taken follow ends) (fewer : size ≤ left + 1)
    (other : Reads size (fun head => starts head ∧ ∀ token, head = some token → token.kind ≠ kind)
      no passed follow ends)
    (apart : ∀ tokens a n rest token, passed tokens a n → follow rest.head? →
      (tokens ++ rest).head? = some token → token.kind ≠ kind)
    [taken.Productive] :
    Reads size starts (accept kind >>= fun found => if found then yes else no)
      (Optional kind taken passed) follow ends := by
  intro p ready fits start
  -- The next token decides, since phrases of the other way begin otherwise.
  rw [bind_apply, accept, ready.kind?_eq]
  by_cases found : p.upcoming.head?.map Token.kind = some kind
  · -- The token is passed over, like any known one.
    obtain ⟨token, front, same⟩ := Option.map_eq_some_iff.mp found
    have chosen : Reads size (· = some token) (skip >>= fun _ => yes)
        (Optional kind taken passed) follow ends := by
      refine (Reads.behind (fun _ => reads) skip_apply fewer).widen ?_ ?_
      · intro tokens a n whole
        obtain ⟨back, rfl, more⟩ := (just_then token ()).mp whole
        exact .taken same more
      · intro head front tokens a n rest whole follows look
        subst front
        cases whole with
        | taken same more =>
          obtain rfl := Option.some.inj look
          exact ⟨(just_then _ ()).mpr ⟨_, rfl, more⟩, follows⟩
        | passed more => exact absurd same (apart _ _ _ _ _ more follows look)
    have read := chosen p ready fits front
    rw [bind_apply, skip_apply p (ready.head?_upcoming ▸ front)] at read
    simpa only [found, ↓reduceIte] using read
  · -- The token stays, and is none that the other way begins with.
    simp only [found, ↓reduceIte]
    have none : ∀ token, p.upcoming.head? = some token → token.kind ≠ kind := by
      intro token front same
      exact found (by rw [front, ← same]; rfl)
    have chosen : Reads size (fun head => starts head ∧
          ∀ token, head = some token → token.kind ≠ kind)
        no (Optional kind taken passed) follow ends := by
      refine other.widen (fun _ _ _ whole => .passed whole) ?_
      intro head different tokens a n rest whole follows look
      cases whole with
      | taken same more => exact absurd same (different.2 _ look.symm)
      | passed more => exact ⟨more, follows⟩
    exact chosen p ready fits ⟨start, none⟩

end Choice

section Lists

variable {element : Parse α} {one : Phrase α} {many : Phrase (List α)} {between : Boundary}

/-- The next token is of a given kind. -/
def At (kind : TokenKind) : Boundary :=
  fun next => ∃ token, next = some token ∧ token.kind = kind

/-- A reader of elements between commas reads a list of them up to a parenthesis. -/
theorem reads_separated (list : Nat → Parse (List α)) {top bound : Nat}
    (zero : list 0 = element >>= fun first => pure [first])
    (succ : ∀ bound, list (bound + 1) = element >>= fun first => accept .comma >>= fun found =>
      if found then list bound >>= fun rest => pure (first :: rest) else pure [first])
    (elements : Reads top anything element one between anything)
    (commas : ∀ token : Token, token.kind = .comma → between (some token))
    (closes : ∀ next, At .rightParen next → between next)
    (same : ∀ tokens values n, Then one (fun first => Optional .comma
      (Then many fun rest => Empty (first :: rest)) (Empty [first])) tokens values n ↔
        many tokens values n)
    (nonempty : ∀ tokens a n, one tokens a n → tokens ≠ []) [many.Productive]
    (within : bound ≤ top) :
    Reads bound anything (list bound) many (At .rightParen) anything := by
  -- The bound is on the tokens that are left, and each comma is one of them.
  induction bound with
  | zero =>
    -- In front of no tokens a list is a single element at most.
    have first : Reads 0 (· = none) element one between anything :=
      elements.within (Nat.zero_le top)
    have only : Reads 0 (· = none) (element >>= fun first => pure [first])
        (Then one fun first => Empty [first]) (At .rightParen) anything :=
      first.bind (fun first => reads_pure [first]) (joins_empty closes)
    rw [zero]
    refine (only.widen (fun tokens values n whole => ?_) ?_).exhausted
    · obtain ⟨a, single, rfl⟩ := (then_empty _).mp whole
      exact (same _ _ _).mp (then_iff.mpr ⟨_, _, a, n, 0, (List.append_nil _).symm, by simp, single,
        .passed .intro⟩)
    · -- Where no token is next, no list begins.
      intro next none tokens values n rest whole _ look
      obtain ⟨front, back, a, k, m, rfl, -, head, -⟩ := then_iff.mp ((same _ _ _).mpr whole)
      have empty := List.head?_eq_none_iff.mp (look.trans none)
      simp only [List.append_eq_nil_iff] at empty
      exact absurd empty.1.1 (nonempty _ _ _ head)
  | succ bound ih =>
    have first : Reads (bound + 1) anything element one between anything := elements.within within
    rw [succ]
    refine (first.bind (fun first => ?_) (joins_optional commas closes)).convert same
    -- The comma leaves fewer tokens for the elements behind it.
    have more : Reads bound anything (list bound >>= fun rest => pure (first :: rest))
        (Then many fun rest => Empty (first :: rest)) (At .rightParen) anything :=
      (ih (by omega)).bind (fun rest => reads_pure (first :: rest)) (joins_empty fun _ => id)
    refine reads_optional more (Nat.le_refl _) (reads_return [first]) ?_
    intro tokens values n rest token none follows look
    cases none
    -- The parenthesis behind a list is no comma.
    obtain ⟨other, front, paren⟩ := follows
    obtain rfl := Option.some.inj (look.symm.trans front)
    simp [paren]

/-- A list is read unless the parenthesis behind it is next. -/
theorem reads_unclosed {list : Parse (List α)} {maybe : Phrase (List α)}
    (reads : Reads size anything list many (At .rightParen) anything)
    (apart : ∀ tokens values n, many tokens values n →
      ∃ token more, tokens = token :: more ∧ token.kind ≠ .rightParen)
    (same : ∀ tokens values n, maybe tokens values n ↔
      Empty [] tokens values n ∨ many tokens values n) :
    Reads size starts (peek >>= fun kind => if kind = some .rightParen then pure [] else list)
      maybe (At .rightParen) anything := by
  refine reads_at fun head _ _ => reads_peek ?_
  by_cases closed : head.map Token.kind = some .rightParen
  · -- No list begins with the parenthesis.
    rw [if_pos closed]
    have none : Reads size (· = head) (pure ([] : List α)) (Empty []) (At .rightParen) anything :=
      reads_return []
    refine none.widen (fun tokens values n whole => (same _ _ _).mpr (.inl whole)) ?_
    intro next front tokens values n rest whole follows look
    rcases (same _ _ _).mp whole with none | some
    · exact ⟨none, follows⟩
    · obtain ⟨token, more, rfl, other⟩ := apart _ _ _ some
      rw [← front, ← look] at closed
      exact absurd (Option.some.inj closed) other
  · -- Something stands in front of the parenthesis.
    rw [if_neg closed]
    have some : Reads size (· = head) list many (At .rightParen) anything :=
      reads.within (Nat.le_refl _)
    refine some.widen (fun tokens values n whole => (same _ _ _).mpr (.inr whole)) ?_
    intro next front tokens values n rest whole follows look
    rcases (same _ _ _).mp whole with none | some
    · cases none
      obtain ⟨token, first, paren⟩ := follows
      refine absurd ?_ closed
      rw [← front, ← look, List.nil_append, first, ← paren]
      rfl
    · exact ⟨some, follows⟩

end Lists

section Depth

variable {body : Parse α}

/-- Coming back from one level deeper is a move on the level outside. -/
theorem Moves.lowered {q : Parser} {consumed : List Token} {recorded : List SyntaxError}
    (moves : Moves { p with depth := p.depth + 1 } q consumed recorded) :
    p.Moves { q with depth := q.depth - 1 } consumed recorded where
  ready := moves.ready.withDepth _
  upcoming := moves.upcoming
  depth := by
    -- The level that was entered is left again.
    show q.depth - 1 = p.depth
    rw [moves.depth]
    rfl
  limit := moves.limit
  errors := moves.errors

/-- A defect one level deeper is one in the deeper phrase. -/
theorem fault_lowered {front back : List Token} {error : SyntaxError}
    (fault : phrase.Fault follow { p with depth := p.depth + 1 } front back error) :
    (Deeper phrase).Fault follow p front back error where
  upcoming := fault.upcoming
  blames := fault.blames
  viable other := by
    -- The deeper phrase nests one level more, and so does the limit for what is inside.
    obtain ⟨more, a, n, whole⟩ := fault.viable other
    exact ⟨more, a, n + 1, .intro whole⟩
  excluded := by
    intro tokens b n rest behind whole follows equal look
    cases whole with
    | intro inner =>
      obtain ⟨nesting, deep⟩ := fault.excluded _ _ _ _ _ inner follows equal look
      have deeper : p.limit < p.depth + 1 + _ := deep
      exact ⟨nesting, by omega⟩

/-- Reading one level deeper reads a deeper phrase. -/
theorem Reads.nested (reads : Reads size starts body phrase follow ends) [phrase.Productive] :
    Reads size starts (nested body) (Deeper phrase) follow ends := by
  intro p ready fits start
  rw [Parser.nested]
  by_cases full : p.limit ≤ p.depth
  · -- No level is left, and every phrase takes one at least.
    rw [if_pos full]
    refine ready.fails trivial fun tokens a n rest whole _ _ => ?_
    cases whole with
    | intro inner => exact ⟨rfl, by omega⟩
  · rw [if_neg full]
    have read := reads _ (ready.withDepth (p.depth + 1)) fits start
    cases got : body { p with depth := p.depth + 1 } with
    | error error q =>
      rw [got] at read
      -- Stopping inside leaves the level again.
      obtain ⟨consumed, recorded, moves, blames, faulty⟩ := read
      refine ⟨consumed, recorded, moves.lowered, blames, fun first some => ?_⟩
      obtain ⟨front, back, fault⟩ := faulty first some
      exact ⟨front, back, fault_lowered fault⟩
    | ok a q =>
      rw [got] at read
      obtain ⟨⟨consumed, recorded, kept, n, moves, sublist, whole, room, clean, faulty⟩, after⟩ :=
        read
      -- One level is taken by the phrase itself, and the others are left for what is inside.
      have level : n ≤ p.limit - (p.depth + 1) := room
      refine ⟨⟨consumed, recorded, kept, n + 1, moves.lowered, sublist, .intro whole, by omega,
        fun none => ?_, fun first some => ?_⟩, after⟩
      · obtain ⟨same, certain⟩ := clean none
        refine ⟨same, fun tokens b m rest behind other follows equal look => ?_⟩
        cases other with
        | intro inner => exact certain _ _ _ _ _ inner follows equal look
      · obtain ⟨dropped, front, back, fault⟩ := faulty first some
        exact ⟨dropped, front, back, fault_lowered fault⟩

end Depth

end Parser

end Scriptlet
