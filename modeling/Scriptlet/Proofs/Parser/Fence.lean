import Scriptlet.Proofs.Parser.Concatenation
import Scriptlet.Proofs.Parser.Detached
import Scriptlet.Proofs.Parser.Rounds

/-! A block without braces inside ends at its closing brace, whatever stands in front of that: no
item goes beyond the brace, and no defect drops it. -/

namespace Scriptlet

namespace Parser

variable {α β : Type} {p q : Parser} {tail inner rest : List Token} {errors : List SyntaxError}

/-- There are no braces among some tokens. -/
def Braceless (tokens : List Token) : Prop :=
  ∀ token ∈ tokens, token.kind.isBrace = false

/-- Two braces with tokens between them that are no braces. -/
structure Braced (opening : Token) (inner : List Token) (closing : Token) : Prop where
  opens : opening.kind = .leftBrace
  bare : Braceless inner
  closes : closing.kind = .rightBrace

/-- The tokens in front of the body of a function with a name and without parameters. -/
structure Heads (name : String) (word named left right : Token) : Prop where
  function : word.kind = .functionWord
  identifier : named.kind = .identifier
  spelled : named.value = .text name
  opens : left.kind = .leftParen
  closes : right.kind = .rightParen

/-- A parser that has recorded some defects stands in front of tokens without braces, and behind
these comes a closing brace with what follows it. -/
structure Fenced (tail : List Token) (errors : List SyntaxError) (p : Parser) : Prop where
  ready : p.Ready
  stands : ∃ inner, Braceless inner ∧ p.upcoming = inner ++ tail
  errors : p.syntaxErrors = errors
  closes : At .rightBrace tail.head?

namespace Fenced

/-- The next token is the closing brace, and otherwise it is no brace. -/
theorem front (fenced : Fenced tail errors p) :
    p.upcoming = tail ∧ p.kind? = some .rightBrace ∨
      ∃ token inner, p.upcoming = token :: (inner ++ tail) ∧ p.kind? = some token.kind ∧
        token.kind.isBrace = false ∧ Braceless inner := by
  -- The lookahead is the first token in front of the brace, or the brace if there is none.
  obtain ⟨inner, bare, stands⟩ := fenced.stands
  have kind := fenced.ready.kind?_eq
  rw [stands] at kind
  cases inner with
  | nil =>
    obtain ⟨closing, first, brace⟩ := fenced.closes
    refine .inl ⟨stands, ?_⟩
    rw [kind, List.nil_append, first, Option.map_some, brace]
  | cons token inner =>
    obtain ⟨own, bare⟩ := List.forall_mem_cons.mp bare
    exact .inr ⟨token, inner, stands, kind, own, bare⟩

/-- No opening brace is next. -/
theorem kind?_ne_leftBrace (fenced : Fenced tail errors p) : p.kind? ≠ some .leftBrace := by
  -- Next is the closing brace, or a token that is no brace.
  intro opening
  rcases fenced.front with ⟨-, kind⟩ | ⟨token, -, -, kind, bare, -⟩
  · cases kind.symm.trans opening
  · obtain same := Option.some.inj (kind.symm.trans opening)
    rw [same] at bare
    exact absurd bare (by decide)

/-- Passing over a token that is no brace stays in front of the closing one. -/
theorem pull (fenced : Fenced tail errors p) {kind : TokenKind} (next : p.kind? = some kind)
    (bare : kind.isBrace = false) : Fenced tail errors p.pull := by
  -- The closing brace is not passed over, so that it is a token of the inside.
  rcases fenced.front with ⟨-, closing⟩ | ⟨token, inner, stands, -, -, bare⟩
  · rw [next, Option.some.injEq] at closing
    rw [closing] at bare
    exact absurd bare (by decide)
  · obtain ⟨-, ready, behind⟩ := fenced.ready.pull_of_cons stands
    exact ⟨ready, ⟨inner, bare, behind⟩, (syntaxErrors_pull p).trans fenced.errors, fenced.closes⟩

/-- The level makes no difference to where a parser stands. -/
theorem level (fenced : Fenced tail errors p) (depth : Nat) : Fenced tail errors { p with depth } :=
  -- The level is no part of the fence.
  ⟨fenced.ready.withDepth depth, fenced.stands, fenced.errors, fenced.closes⟩

/-- Recovering from a defect records it, and does not drop the closing brace. -/
theorem recover (fenced : Fenced tail errors p) (error : SyntaxError) :
    Fenced tail (errors ++ [error]) (recover error true p).2 := by
  -- A closing brace is what recovering in a block does not drop.
  have recorded : Fenced tail (errors ++ [error]) (p.record error) := by
    obtain ⟨ready, same⟩ := fenced.ready.record error
    exact ⟨ready, same ▸ fenced.stands, by rw [syntaxErrors_record, fenced.errors], fenced.closes⟩
  rw [recover_apply]
  split
  · exact recorded
  next drops =>
    rcases fenced.front with ⟨-, closing⟩ | ⟨token, -, -, kind, bare, -⟩
    · exact absurd (by rw [atEnd, closing]; rfl) drops
    · exact recorded.pull kind bare

/-- Where items end, the closing brace is next. -/
theorem upcoming_of_atEnd (fenced : Fenced tail errors p) (ended : p.atEnd true = true) :
    p.upcoming = tail := by
  -- Items of a block end at a closing brace, and inside of the fence there is only the one.
  rcases fenced.front with ⟨same, -⟩ | ⟨token, -, -, kind, bare, -⟩
  · exact same
  · simp only [atEnd, kind, Bool.true_and, beq_iff_eq] at ended
    rw [ended] at bare
    exact absurd bare (by decide)

end Fenced

/-- In front of certain tokens, a reader does not get beyond the closing brace, and records
nothing. -/
def Keeps (tail : List Token) (errors : List SyntaxError) (starts : Option TokenKind → Prop)
    (reader : Parse α) : Prop :=
  ∀ p, Fenced tail errors p → starts p.kind? → Fenced tail errors (endOf (reader p))

section Steps

variable {starts : Option TokenKind → Prop} {reader : Parse α} {next : α → Parse β}
  {kind : TokenKind}

/-- To read nothing keeps in front of the closing brace. -/
theorem keeps_pure (a : α) : Keeps tail errors starts (pure a : Parse α) :=
  -- The parser stays where it is.
  fun _ fenced _ => fenced

/-- Readers in a row keep in front of the closing brace if each of them does. -/
theorem Keeps.bind (first : Keeps tail errors starts reader)
    (later : ∀ a, Keeps tail errors anyKind (next a)) :
    Keeps tail errors starts (reader >>= next) := by
  -- A defect of the first one stops both, in front of the brace as well.
  intro p fenced start
  have kept := first p fenced start
  rw [bind_apply]
  cases got : reader p with
  | error error q =>
    rw [got] at kept
    exact kept
  | ok a q =>
    rw [got] at kept
    exact later a q kept trivial

/-- To stop keeps in front of the closing brace. -/
theorem keeps_unexpected (expected : String) :
    Keeps tail errors starts (unexpected expected : Parse α) := by
  -- Nothing is taken on the way to a defect.
  intro p fenced _
  rw [unexpected_apply]
  exact fenced

/-- To take a token that is no brace keeps in front of the closing one. -/
theorem keeps_advance (bare : kind.isBrace = false) :
    Keeps tail errors (· = some kind) advance := by
  -- Where there is no token, nothing is taken.
  intro p fenced start
  unfold advance
  split
  · exact fenced.pull start bare
  · exact fenced

/-- To take the lookahead if it is of a given kind, which is no brace, keeps in front of the closing
one. -/
theorem keeps_accept (bare : kind.isBrace = false) : Keeps tail errors starts (accept kind) := by
  -- A token of another kind is left where it is.
  intro p fenced _
  rw [accept]
  split
  next found => exact fenced.pull found bare
  next => exact fenced

/-- To take a token of a given kind, which is no brace, keeps in front of the closing one. -/
theorem keeps_take (bare : kind.isBrace = false) (context : String) :
    Keeps tail errors starts (take kind context) := by
  -- A token of another kind stops the reading in front of it.
  intro p fenced _
  rcases fenced.ready.take_cases kind context with
    ⟨token, front, same, took⟩ | ⟨error, stop, -⟩
  · rw [took]
    exact fenced.pull (by rw [fenced.ready.kind?_eq, front, Option.map_some, same]) bare
  · rw [stop]
    exact fenced

/-- To take a name keeps in front of the closing brace. -/
theorem keeps_name (context : String) : Keeps tail errors starts (name context) := by
  -- No identifier is a brace, and looking at its value takes nothing more.
  refine (keeps_take rfl context).bind fun token => ?_
  cases token.value <;> exact fun p fenced _ => fenced

/-- A block does not begin in front of the closing brace without an opening one. -/
theorem keeps_blockOf (body : StateM Parser (List Item)) (context : String) :
    Keeps tail errors starts (blockOf body context) := by
  intro p fenced _
  rcases fenced.ready.take_cases .leftBrace context with
    ⟨token, front, same, -⟩ | ⟨error, stop, -⟩
  -- Neither the tokens in front of the closing brace nor this one could begin a block.
  · have opening : p.kind? = some .leftBrace := by
      rw [fenced.ready.kind?_eq, front, Option.map_some, same]
    exact absurd opening fenced.kind?_ne_leftBrace
  · have stops : blockOf body context p = .error error p := by
      rw [blockOf, bind_apply,
        show expect .leftBrace context = (take .leftBrace context >>= fun _ => pure ()) from rfl,
        bind_apply, stop]
    rw [stops]
    exact fenced

/-- To read something one level deeper keeps in front of the closing brace if the reading does. -/
theorem Keeps.nested (keeps : Keeps tail errors anyKind reader) :
    Keeps tail errors starts (nested reader) := by
  intro p fenced _
  by_cases full : p.limit ≤ p.depth
  · rw [nested_of_full full]
    exact fenced
  · -- The level makes no difference to what is left.
    rw [nested_of_room full]
    have kept := keeps _ (fenced.level (p.depth + 1)) trivial
    cases got : reader { p with depth := p.depth + 1 } <;> rw [got] at kept <;>
      exact kept.level _

end Steps

/-- Readers of expressions and items keep in front of the closing brace. -/
theorem guided_keeps : Guided fun _ starts reader => Keeps tail errors starts reader where
  -- No level is counted here; what matters is that each token that is taken is no brace.
  pure := keeps_pure
  start keeps := fun p fenced _ => keeps p fenced trivial
  more := id
  bind := Keeps.bind
  unexpected := keeps_unexpected
  peek later := fun p fenced _ => later p.kind? p fenced rfl
  advance := keeps_advance
  past bare later := ((keeps_advance bare).bind fun _ => keeps_pure ()).bind fun _ => later
  accept := keeps_accept
  take := keeps_take
  name context later := (keeps_name context).bind later
  nested := Keeps.nested

/-- An item keeps in front of the closing brace. -/
theorem keeps_item : Keeps tail errors anyKind item := by
  -- Items of blocks are readers of that sort, and only an opening brace would lead any deeper.
  intro p fenced _
  exact @Guided.itemOf _ guided_keeps 0 anyKind (itemsWithin p.unread true) p.unread
    (fun context => keeps_blockOf _ context) (fun _ fenced _ => fenced) p fenced trivial

/-- Rounds keep in front of the closing brace, and record each defect that they meet. -/
theorem Fenced.rounds {items : List Item} {met : List SyntaxError} (fenced : Fenced tail errors p)
    (rounds : Rounds true p items met q) : Fenced tail (errors ++ met) q := by
  -- The defects so far grow by the one that a round meets.
  induction rounds generalizing errors with
  | ended done =>
    rw [List.append_nil]
    exact fenced
  | @read p q r first items met unfinished got rest ih =>
    have kept := keeps_item p fenced trivial
    rw [got] at kept
    exact ih kept
  | @met p q r error items met unfinished got rest ih =>
    have kept := keeps_item p fenced trivial
    rw [got] at kept
    have later := ih (kept.recover error)
    rwa [List.append_assoc] at later

section Blocks

variable {opening closing : Token} {bound : Nat}

/-- A token of the kind that is expected is passed over. -/
theorem expect_apply {token : Token} (front : p.lookahead = some token) (context : String) :
    expect token.kind context p = .ok () p.pull := by
  -- The test for the kind comes out true.
  rw [show expect token.kind context = (take token.kind context >>= fun _ => pure ()) from rfl,
    bind_apply, take, front]
  simp only [↓reduceIte]
  rfl

/-- In front of a closing brace, behind tokens that are no braces, items are read in rounds up to
that brace, with any bound that covers the tokens. -/
theorem Ready.itemsWithin_braceless (ready : p.Ready)
    (stands : p.upcoming = inner ++ closing :: rest) (bare : Braceless inner)
    (closes : closing.kind = .rightBrace) (fits : p.upcoming.length ≤ bound) :
    ∃ items errors q, itemsWithin bound true p = (items, q) ∧ Rounds true p items errors q ∧
      p.Moves q inner errors ∧ q.upcoming = closing :: rest := by
  obtain ⟨errors, rounds⟩ := ready.rounds fits true
  -- The rounds end in front of the closing brace, on the level where they began.
  have fenced : Fenced (closing :: rest) p.syntaxErrors p :=
    ⟨ready, ⟨inner, bare, stands⟩, rfl, closing, rfl, closes⟩
  have kept := fenced.rounds rounds
  have left := kept.upcoming_of_atEnd rounds.atEnd
  obtain ⟨⟨_, _, _, _, moved, -⟩, -⟩ := reads_itemsWithin bound true p ready fits trivial
  exact ⟨_, errors, _, rfl, rounds,
    ⟨kept.ready, by rw [stands, left], moved.depth, moved.limit, kept.errors⟩, left⟩

/-- Between its braces a block is read in rounds up to the closing one, with any bound that covers
its tokens. -/
theorem Ready.blockOf_braced (ready : p.Ready) (room : p.depth < p.limit)
    (stands : p.upcoming = opening :: (inner ++ closing :: rest))
    (braced : Braced opening inner closing) (fits : p.upcoming.length ≤ bound + 1)
    (context : String) :
    ∃ items errors q r, blockOf (itemsWithin bound true) context p = .ok items q ∧
      q.Ready ∧ q.upcoming = rest ∧ q.depth = p.depth ∧ q.limit = p.limit ∧
      q.syntaxErrors = p.syntaxErrors ++ errors ∧
      Rounds true { p.pull with depth := p.depth + 1 } items errors r := by
  -- Behind the opening brace the body is read one level deeper.
  obtain ⟨first, opened, behind⟩ := ready.pull_of_cons stands
  let inside : Parser := { p.pull with depth := p.depth + 1 }
  have fits' : inside.upcoming.length ≤ bound := by
    rw [stands, List.length_cons] at fits
    rw [show inside.upcoming = inner ++ closing :: rest from behind]
    exact Nat.le_of_succ_le_succ fits
  obtain ⟨items, errors, r, read, rounds, moves, left⟩ :=
    (opened.withDepth (p.depth + 1)).itemsWithin_braceless behind braced.bare braced.closes fits'
  -- In front of the closing brace the level is left again.
  let outside : Parser := { r with depth := r.depth - 1 }
  obtain ⟨last, closed, after⟩ := (moves.ready.withDepth (r.depth - 1)).pull_of_cons left
  have opens : expect .leftBrace context p = .ok () p.pull :=
    braced.opens ▸ expect_apply first context
  have body : nested (always (itemsWithin bound true)) p.pull = .ok items outside := by
    rw [nested_of_room (show ¬ p.pull.limit ≤ p.pull.depth from Nat.not_le_of_lt room)]
    show raised (.ok (itemsWithin bound true inside).1 (itemsWithin bound true inside).2) = _
    rw [read]
    rfl
  have closes : expect .rightBrace "after block" outside = .ok () outside.pull :=
    braced.closes ▸ expect_apply last _
  refine ⟨items, errors, outside.pull, r, ?_, closed, after, ?_, moves.limit, ?_, rounds⟩
  · simp only [blockOf, bind_apply, opens, body, closes]
    rfl
  · exact Nat.sub_eq_of_eq_add moves.depth
  · rw [syntaxErrors_pull, ← syntaxErrors_pull p]
    exact moves.errors

end Blocks

section Functions

variable {body : StateM Parser (List Item)} {bound : Nat} {word named left right : Token}

/-- Between two parentheses no parameter is read. -/
theorem parametersWithin_nil (look : p.lookahead = some left) (opens : left.kind = .leftParen)
    (look' : p.pull.lookahead = some right) (closes : right.kind = .rightParen) :
    parametersWithin bound p = .ok [] p.pull.pull := by
  -- A closing parenthesis behind the opening one leaves no room for a name.
  have opened : expect .leftParen "before parameters" p = .ok () p.pull :=
    opens ▸ expect_apply look _
  have closed : expect .rightParen "after parameters" p.pull = .ok () p.pull.pull :=
    closes ▸ expect_apply look' _
  have kind : p.pull.kind? = some .rightParen := by rw [kind?, look', Option.map_some, closes]
  rw [parametersWithin, bind_apply, opened]
  show (peek >>= fun kind => _) p.pull = _
  rw [bind_apply, peek, kind]
  show (expect .rightParen "after parameters" >>= fun _ => _) p.pull = _
  rw [bind_apply, closed]
  rfl

/-- A function with a name is made of its parameters and its block. -/
theorem functionOf_named {line : Nat} {name : String} {parameters : List String} {items : List Item}
    {r : Parser} (look : p.lookahead = some named) (identifier : named.kind = .identifier)
    (spelled : named.value = .text name) (list : parametersWithin bound p.pull = .ok parameters q)
    (block : blockOf body "before function body" q = .ok items r) :
    functionOf body bound line p = .ok (.function line (some name) parameters items) r := by
  -- Each part is read where the one before it stops.
  have kind : p.kind? = some .identifier := by rw [kind?, look, Option.map_some, identifier]
  rw [functionOf, bind_apply, peek, kind]
  show (some <$> Parser.name "after 'function'" >>= fun _ => _) p = _
  rw [map_eq_pure_bind, bind_apply, bind_apply, name_apply identifier spelled _ p look]
  show (parametersWithin bound >>= fun _ => _) p.pull = _
  rw [bind_apply, list]
  show (blockOf body _ >>= fun _ => _) q = _
  rw [bind_apply, block]
  rfl

/-- Behind its keyword a function is read, on the line of the keyword. -/
theorem Ready.itemOf_functionWord (ready : p.Ready) (look : p.lookahead = some word)
    (kind : word.kind = .functionWord) :
    itemOf body bound p = functionOf body bound word.line p.pull := by
  -- The line is noted in front of the keyword.
  have seen : p.kind? = some .functionWord := by rw [kind?, look, Option.map_some, kind]
  rw [itemOf, bind_apply]
  show (peek >>= fun kind => _) p = _
  rw [bind_apply, peek, seen]
  show (skip >>= fun _ => functionOf body bound p.currentLine) p = _
  rw [bind_apply, skip_apply p look, ready.currentLine_of_some look]

/-- A function without parameters is read up to the brace that closes its body, whatever else stands
between its braces. -/
theorem Ready.itemOf_function (begins : p.Ready) (room : p.depth < p.limit)
    {opening closing : Token} {name : String} (front : p.upcoming =
      word :: named :: left :: right :: opening :: (inner ++ closing :: rest))
    (heads : Heads name word named left right) (braced : Braced opening inner closing)
    (fits : p.upcoming.length ≤ bound + 1) :
    ∃ items q, itemOf (itemsWithin bound true) (bound + 1) p =
        .ok (.function word.line (some name) [] items) q ∧
      q.Ready ∧ q.upcoming = rest ∧ q.depth = p.depth ∧ q.limit = p.limit := by
  -- Four tokens stand in front of the opening brace.
  obtain ⟨look, ready, stands⟩ := begins.pull_of_cons front
  obtain ⟨look₁, ready, stands₁⟩ := ready.pull_of_cons stands
  obtain ⟨look₂, ready, stands₂⟩ := ready.pull_of_cons stands₁
  obtain ⟨look₃, ready, stands₃⟩ := ready.pull_of_cons stands₂
  have fits' : p.pull.pull.pull.pull.upcoming.length ≤ bound + 1 := by
    rw [front] at fits
    rw [stands₃]
    simp only [List.length_cons] at fits ⊢
    omega
  obtain ⟨items, errors, q, -, block, still, behind, level, same, -⟩ :=
    ready.blockOf_braced room stands₃ braced fits' "before function body"
  have list : parametersWithin (bound + 1) p.pull.pull = .ok [] p.pull.pull.pull.pull :=
    parametersWithin_nil look₂ heads.opens look₃ heads.closes
  have whole : itemOf (itemsWithin bound true) (bound + 1) p =
      .ok (.function word.line (some name) [] items) q :=
    (begins.itemOf_functionWord look heads.function).trans
      (functionOf_named look₁ heads.identifier heads.spelled list block)
  exact ⟨items, q, whole, still, behind, level, same⟩

end Functions

end Parser

open Scriptlet.Parser

section Sources

variable {opening closing : Token} {inner : List Token}

/-- Behind a function whose body has no braces inside, a source is read as what stands there is read
alone, apart from its lines. -/
theorem parseWithin_function {limit distance : Nat} {source other name : String}
    {word named left right : Token} (positive : 1 ≤ limit)
    (heads : Heads name word named left right) (braced : Braced opening inner closing)
    (front : tokenize source = word :: named :: left :: right :: opening ::
      (inner ++ closing :: (tokenize other).map (Token.mapLine (· + distance)))) :
    ∃ body, (parseWithin limit source).program.items =
      .function word.line (some name) [] body ::
        Item.mapAllLines (· + distance) (parseWithin limit other).program.items := by
  obtain ⟨ready, stands, depth, same, -⟩ := ofSource_view source limit
  obtain ⟨ready', stands', depth', same', -⟩ := ofSource_view other limit
  obtain ⟨bound, size⟩ : ∃ bound, (tokenize source).length = bound + 1 :=
    ⟨_, by rw [front, List.length_cons]⟩
  have room : (ofSource source limit).depth < (ofSource source limit).limit := by
    rw [depth, same]
    exact positive
  have fits : (ofSource source limit).upcoming.length ≤ bound + 1 := by
    rw [stands]
    exact Nat.le_of_eq size
  obtain ⟨body, q, read, readyBehind, behind, level, still⟩ :=
    ready.itemOf_function room (stands.trans front) heads braced fits
  have smaller : (tokenize other).length ≤ bound := by
    rw [front] at size
    simp only [List.length_cons, List.length_append, List.length_map] at size
    omega
  -- Behind the function stand the tokens of the other source, further down.
  have detached : (ofSource other limit).Detached (· + distance) id q := by
    refine ⟨ready', readyBehind, ?_, by rw [level, depth, depth'], by rw [still, same, same']⟩
    rw [behind, stands', show Token.mapLine id = id from funext fun _ => rfl, List.map_id]
  have rest := Tandem.itemsWithin_side_by_side
    (T := Tandem.detached (· + distance) id fun line => ⟨line + distance, rfl⟩) (fun _ _ => rfl)
    detached (stands' ▸ Nat.le_refl _) smaller false
  have items : Item.mapAllLines (· + distance)
      (itemsWithin (tokenize other).length false (ofSource other limit)).1 =
        Item.mapAllLines id (itemsWithin bound false q).1 :=
    (rest.resolve_left id).1
  -- The first round of the whole source is the function.
  have unfinished : ¬ (ofSource source limit).atEnd false = true := by
    rw [ready.atEnd_iff, stands, front]
    simp [Finishes]
  refine ⟨body, ?_⟩
  rw [parseWithin_eq limit source (Nat.le_refl _), parseWithin_eq limit other (Nat.le_refl _), size,
    itemsWithin_apply, if_neg unfinished, read, items, Item.mapAllLines_id]

/-- The errors in a block stay in the block: whatever stands between its braces, a block is read up
to the closing one, with each defect that was met inside recorded; and behind a function with such a
body a source is read as what stands there is read alone, apart from its lines. -/
theorem braced_fences (braced : Braced opening inner closing) :
    (∀ (p : Parser) (rest : List Token) (context : String), p.Ready → p.depth < p.limit →
      p.upcoming = opening :: (inner ++ closing :: rest) →
      ∃ items errors q r, block context p = .ok items q ∧ q.upcoming = rest ∧
        q.depth = p.depth ∧ q.limit = p.limit ∧ q.syntaxErrors = p.syntaxErrors ++ errors ∧
        Rounds true { p.pull with depth := p.depth + 1 } items errors r) ∧
    ∀ (limit distance : Nat) (source other name : String) (word named left right : Token),
      1 ≤ limit → Heads name word named left right →
      tokenize source = word :: named :: left :: right :: opening ::
        (inner ++ closing :: (tokenize other).map (Token.mapLine (· + distance))) →
      ∃ body, (parseWithin limit source).program.items =
        .function word.line (some name) [] body ::
          Item.mapAllLines (· + distance) (parseWithin limit other).program.items := by
  -- The first part is the lemma about blocks, with the bound that the parser gives; the second
  -- part is the one about functions.
  refine ⟨fun p rest context ready room stands => ?_,
    fun limit distance source other name word named left right positive heads front =>
      parseWithin_function positive heads braced front⟩
  obtain ⟨items, errors, q, r, read, -, left⟩ := ready.blockOf_braced room stands braced
    (Nat.le_succ_of_le ready.length_upcoming_le) context
  exact ⟨items, errors, q, r, read, left⟩

/-- An open condition with an "else" inside and a sum that breaks off at the closing brace do not
reach the assignment behind that, in a block alone and as the body of a function. -/
theorem braced_fences_garbage :
    (∃ items errors q r,
      block "before function body" (ofSource "\x7b if ( else ) = ; 1 + \x7d\ny = 2;" 1) =
        .ok items q ∧
      q.upcoming = (tokenize "y = 2;").map (Token.mapLine (· + 1)) ∧ q.depth = 0 ∧
      Rounds true { (ofSource "\x7b if ( else ) = ; 1 + \x7d\ny = 2;" 1).pull with depth := 1 }
        items errors r) ∧
    ∃ body, (parseWithin 1 "function f() \x7b if ( else ) = ; 1 + \x7d\ny = 2;").program.items =
      [.function 1 (some "f") [] body, .assignment 2 "y" (.number (.int 2))] := by
  -- The tokens between the braces are none themselves, and what stands
  -- behind is one line further down.
  have braced : Braced (.fixed .leftBrace 1) [.fixed .ifWord 1, .fixed .leftParen 1,
      .fixed .elseWord 1, .fixed .rightParen 1, .fixed .assign 1, .fixed .semicolon 1,
      ⟨.number, .number (.int 1), 1⟩, .fixed .plus 1] (.fixed .rightBrace 1) :=
    ⟨rfl, by unfold Braceless; decide, rfl⟩
  have heads : Heads "f" (.fixed .functionWord 1) (.word "f" 1) (.fixed .leftParen 1)
      (.fixed .rightParen 1) := ⟨rfl, rfl, rfl, rfl, rfl⟩
  obtain ⟨fences, behind⟩ := braced_fences braced
  constructor
  · obtain ⟨ready, stands, depth, limit, -⟩ :=
      ofSource_view "\x7b if ( else ) = ; 1 + \x7d\ny = 2;" 1
    obtain ⟨items, errors, q, r, read, left, level, -, -, rounds⟩ :=
      fences _ ((tokenize "y = 2;").map (Token.mapLine (· + 1))) "before function body" ready
        (by rw [depth, limit]; decide) (stands.trans (by decide +kernel))
    rw [depth] at level rounds
    exact ⟨items, errors, q, r, read, left, level, rounds⟩
  · obtain ⟨body, items⟩ := behind 1 1 "function f() \x7b if ( else ) = ; 1 + \x7d\ny = 2;"
      "y = 2;" "f" _ _ _ _ (Nat.le_refl 1) heads (by decide +kernel)
    have alone : Item.mapAllLines (· + 1) (parseWithin 1 "y = 2;").program.items =
        [.assignment 2 "y" (.number (.int 2))] := by decide +kernel
    exact ⟨body, items.trans (congrArg _ alone)⟩

end Sources

end Scriptlet
