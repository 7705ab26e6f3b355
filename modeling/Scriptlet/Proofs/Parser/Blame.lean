import Scriptlet.Proofs.Parser.Layout

/-! No token is blamed twice: each defect is charged to a token of its own, and a brace that is left
for the block around it is taken before anything else can be met there. -/

namespace Scriptlet

namespace SyntaxError

/-- The token that is blamed, if there is one. -/
def found? : SyntaxError → Option Token
  | .unexpectedToken found _ _ => some found
  | .unexpectedEnd _ _ | .nestingTooDeep _ _ => none

/-- The token that is blamed, with the number that is given for its line. -/
def numbered? : SyntaxError → Option (Token × Nat)
  | .unexpectedToken found _ number => some (found, number)
  | .unexpectedEnd _ _ | .nestingTooDeep _ _ => none

/-- A defect with another number for its line, which blames the same token. -/
def withNumber (number : Nat) : SyntaxError → SyntaxError
  | .unexpectedToken found expected _ => .unexpectedToken found expected number
  | .unexpectedEnd expected _ => .unexpectedEnd expected number
  | .nestingTooDeep limit _ => .nestingTooDeep limit number

/-- Another number leaves the token that is blamed. -/
@[simp] theorem found?_withNumber (number : Nat) (error : SyntaxError) :
    (error.withNumber number).found? = error.found? := by
  -- A number is all that is changed.
  cases error <;> rfl

/-- Numbers aside, the same tokens are blamed. -/
theorem map_fst_numbered? (error : SyntaxError) : error.numbered?.map Prod.fst = error.found? := by
  -- Only a token that is in the way is blamed, and it is blamed with its number.
  cases error <;> rfl

end SyntaxError

/-- The last ones of so many tokens, each with the number of those in front of it. -/
def numbered (total : Nat) : List Token → List (Token × Nat)
  | [] => []
  | token :: rest => (token, total - (rest.length + 1)) :: numbered total rest

/-- Without the first token the others keep their numbers. -/
theorem numbered_tail_sublist (total : Nat) (tokens : List Token) :
    (numbered total tokens.tail).Sublist (numbered total tokens) := by
  -- Tokens are numbered from the end, where nothing changes.
  cases tokens with
  | nil => exact .refl _
  | cons token rest => exact List.sublist_cons_self _ _

/-- Where no token is in front, the numbers begin with zero. -/
theorem numbered_eq_zipIdx (tokens : List Token) (start : Nat) :
    numbered (start + tokens.length) tokens = tokens.zipIdx start := by
  -- Behind the first token the others have one more in front of them.
  induction tokens generalizing start with
  | nil => rfl
  | cons token rest ih =>
    have further := ih (start + 1)
    rw [Nat.add_assoc, Nat.add_comm 1] at further
    rw [numbered, List.zipIdx_cons, List.length_cons, Nat.add_sub_cancel, further]

namespace Parser

variable {α β : Type} {total size slack : Nat} {p q r : Parser} {left : List Token}
  {recorded further : List SyntaxError} {error : SyntaxError}

/-- A defect with the number of tokens in front of where it is met, out of so many ones. -/
def counting (total : Nat) (error : SyntaxError) (p : Parser) : SyntaxError :=
  error.withNumber (total - p.upcoming.length)

/-- What is recorded between two parsers blames tokens in front of the ones that are left, each of
them once, and comes to fewer defects than tokens, or to not more with some slack. -/
structure Pays (total slack : Nat) (left : List Token) (p q : Parser)
    (recorded : List SyntaxError) : Prop where
  ready : q.Ready
  errors : q.syntaxErrors = p.syntaxErrors ++ recorded
  shorter : q.upcoming.length ≤ p.upcoming.length
  blamed : (recorded.filterMap SyntaxError.numbered? ++ numbered total left).Sublist
    (numbered total p.upcoming)
  fewer : recorded = [] ∨ recorded.length + q.upcoming.length < p.upcoming.length + slack

/-- Where nothing is read, nothing has to be paid for. -/
theorem Ready.pays (ready : p.Ready) : Pays total slack p.upcoming p p [] where
  -- All tokens that were there to be blamed still are, and none has been.
  ready := ready
  errors := (List.append_nil _).symm
  shorter := Nat.le_refl _
  blamed := .refl _
  fewer := .inl rfl

/-- Behind the token in front there is one token fewer. -/
theorem Ready.length_upcoming (ready : p.Ready) {token : Token}
    (front : p.upcoming.head? = some token) :
    p.upcoming.length = p.pull.upcoming.length + 1 := by
  -- Moving on takes exactly the token in front.
  rw [(ready.moves_pull front).upcoming]
  rfl

/-- Whoever moves on leaves one token fewer to be blamed. -/
theorem Ready.pays_pull (ready : p.Ready) {token : Token}
    (front : p.upcoming.head? = some token) : Pays total slack p.pull.upcoming p p.pull [] := by
  -- The token in front is left out of those that may be blamed later.
  have moves := ready.moves_pull front
  refine ⟨moves.ready, moves.errors, ?_, ?_, .inl rfl⟩
  · rw [ready.length_upcoming front]
    exact Nat.le_succ _
  · rw [moves.upcoming]
    exact List.sublist_cons_self _ _

namespace Pays

/-- What is paid for in two parts is paid for in all. -/
theorem trans (small : slack ≤ 1) (first : Pays total slack q.upcoming p q recorded)
    (second : Pays total slack left q r further) :
    Pays total slack left p r (recorded ++ further) where
  ready := second.ready
  errors := by rw [second.errors, first.errors, List.append_assoc]
  shorter := Nat.le_trans second.shorter first.shorter
  blamed := by
    -- What the second part blames is among the tokens that the first one leaves.
    rw [List.filterMap_append, List.append_assoc]
    exact ((List.append_sublist_append_left _).mpr second.blamed).trans first.blamed
  fewer := by
    have shorter := first.shorter
    have shorter' := second.shorter
    -- If both parts record something, one of them makes up for the slack.
    rcases first.fewer with rfl | fewer <;> rcases second.fewer with rfl | fewer'
    · exact .inl rfl
    all_goals right
    all_goals simp only [List.length_append, List.length_nil]
    all_goals omega

/-- More slack does no harm. -/
theorem slacken (pays : Pays total 0 left p q recorded) : Pays total slack left p q recorded :=
  -- Slack is only ever on the larger side.
  ⟨pays.ready, pays.errors, pays.shorter, pays.blamed, pays.fewer.imp_right (by omega)⟩

/-- A token in front makes up for the slack. -/
theorem behind {token : Token} (pays : Pays total 1 left p.pull q recorded) (ready : p.Ready)
    (front : p.upcoming.head? = some token) : Pays total 0 left p q recorded := by
  -- The token is one more in front of the parser than behind it, which is what the slack asks for.
  have length := ready.length_upcoming front
  refine ⟨pays.ready, ?_, ?_, ?_, ?_⟩
  · rw [pays.errors, syntaxErrors_pull]
  · have shorter := pays.shorter
    omega
  · refine pays.blamed.trans ?_
    rw [(ready.moves_pull front).upcoming]
    exact List.sublist_cons_self _ _
  · exact pays.fewer.imp_right (by omega)

/-- The depth makes no difference to what is paid for. -/
theorem level {depth : Nat} (pays : Pays total slack left { p with depth } q recorded)
    (depth' : Nat) : Pays total slack left p { q with depth := depth' } recorded :=
  -- Neither the tokens nor the defects show the depth.
  ⟨pays.ready.withDepth depth', pays.errors, pays.shorter, pays.blamed, pays.fewer⟩

end Pays

/-- What a reader comes to is paid for, and a defect that stops it blames the next token, if any. -/
def Settles (total slack : Nat) (p : Parser) : EStateM.Result SyntaxError Parser α → Prop
  | .ok _ q => ∃ recorded, Pays total slack q.upcoming p q recorded
  | .error error q => error.Blames q.upcoming ∧ ∃ recorded, Pays total slack q.upcoming p q recorded

/-- A token in front makes up for the slack. -/
theorem Settles.behind {result : EStateM.Result SyntaxError Parser α} {token : Token}
    (settles : p.pull.Settles total 1 result) (ready : p.Ready)
    (front : p.upcoming.head? = some token) : p.Settles total 0 result := by
  -- This is so for a result and for a defect alike.
  cases result with
  | ok a q =>
    obtain ⟨recorded, pays⟩ := settles
    exact ⟨recorded, pays.behind ready front⟩
  | error error q =>
    obtain ⟨blames, recorded, pays⟩ := settles
    exact ⟨blames, recorded, pays.behind ready front⟩

/-- Whatever a reader records in front of at most so many tokens is paid for. -/
def Fair (total size : Nat) (reader : Parse α) : Prop :=
  ∀ p : Parser, p.Ready → p.upcoming.length ≤ size → p.Settles total 0 (reader p)

section Steps

variable {reader : Parse α} {next : α → Parse β}

/-- To read nothing is fair. -/
theorem fair_pure (a : α) : Fair total size (pure a) :=
  -- Nothing is recorded, and nothing is blamed.
  fun _ ready _ => ⟨[], ready.pays⟩

/-- Fair readers in a row are fair. -/
theorem Fair.bind (first : Fair total size reader) (later : ∀ a, Fair total size (next a)) :
    Fair total size (reader >>= next) := by
  -- The second reader begins where the first one has left its tokens to be blamed.
  intro p ready fits
  have settles := first p ready fits
  rw [bind_apply]
  cases got : reader p with
  | error error q =>
    rw [got] at settles
    exact settles
  | ok a q =>
    rw [got] at settles
    obtain ⟨recorded, pays⟩ := settles
    have settles' := later a q pays.ready (Nat.le_trans pays.shorter fits)
    show p.Settles total 0 (next a q)
    cases got' : next a q with
    | error error r =>
      rw [got'] at settles'
      obtain ⟨blames, further, pays'⟩ := settles'
      exact ⟨blames, _, pays.trans (Nat.zero_le 1) pays'⟩
    | ok b r =>
      rw [got'] at settles'
      obtain ⟨further, pays'⟩ := settles'
      exact ⟨_, pays.trans (Nat.zero_le 1) pays'⟩

/-- To stop at the lookahead is fair. -/
theorem fair_unexpected (expected : String) : Fair total size (unexpected expected : Parse α) := by
  -- The token that is blamed is still in front, and has not been blamed before.
  intro p ready _
  obtain ⟨error, stop, blames, -⟩ := ready.unexpected_apply (α := α) expected
  rw [stop]
  exact ⟨blames, [], ready.pays⟩

/-- To look up the state is fair. -/
theorem fair_get : Fair total size (get : Parse Parser) :=
  -- The parser stays where it is.
  fun _ ready _ => ⟨[], ready.pays⟩

/-- To look at the next token is fair. -/
theorem fair_peek : Fair total size peek :=
  -- The token stays where it is.
  fun _ ready _ => ⟨[], ready.pays⟩

/-- To take the lookahead is fair. -/
theorem fair_advance : Fair total size advance := by
  -- A token that is taken is out of the way; where there is none, nothing happens.
  intro p ready _
  have head := ready.head?_upcoming
  unfold advance
  split
  next token front => exact ⟨[], ready.pays_pull (head.trans front)⟩
  next => exact ⟨[], ready.pays⟩

/-- To take the lookahead if it is of a given kind is fair. -/
theorem fair_accept (kind : TokenKind) : Fair total size (accept kind) := by
  -- A token of another kind is neither taken nor blamed.
  intro p ready _
  unfold accept
  split
  next found =>
    obtain ⟨token, front, -⟩ := Option.map_eq_some_iff.mp found
    exact ⟨[], ready.pays_pull (ready.head?_upcoming.trans front)⟩
  next => exact ⟨[], ready.pays⟩

/-- To take a token of a given kind is fair. -/
theorem fair_take (kind : TokenKind) (context : String) :
    Fair total size (take kind context) := by
  -- A token of that kind is taken, and any other one is blamed where it stands.
  intro p ready _
  rcases ready.take_cases kind context with ⟨token, front, -, took⟩ | ⟨error, stop, blames, -⟩
  · rw [took]
    exact ⟨[], ready.pays_pull front⟩
  · rw [stop]
    exact ⟨blames, [], ready.pays⟩

/-- To take a name is fair. -/
theorem fair_name (context : String) : Fair total size (name context) := by
  intro p ready _
  rcases ready.take_cases .identifier context with
    ⟨token, front, kind, -⟩ | ⟨error, stop, blames, -⟩
  · -- What is taken was written as an identifier, and so with its name.
    obtain ⟨content, value⟩ := (ready.written_of_mem (List.mem_of_head? front)).text_of_kind
      (by simp [kind])
    rw [name_apply kind value context p (ready.head?_upcoming ▸ front)]
    exact ⟨[], ready.pays_pull front⟩
  · rw [name, bind_apply, stop]
    exact ⟨blames, [], ready.pays⟩

/-- To read something fair one level deeper is fair. -/
theorem Fair.nested (fair : Fair total size reader) : Fair total size (nested reader) := by
  -- A level that is missing is met before anything is read.
  intro p ready fits
  unfold Parser.nested
  split
  · exact ⟨trivial, [], ready.pays⟩
  · have settles := fair { p with depth := p.depth + 1 } (ready.withDepth _) fits
    cases got : reader { p with depth := p.depth + 1 } with
    | error error q =>
      rw [got] at settles
      obtain ⟨blames, recorded, pays⟩ := settles
      exact ⟨blames, recorded, pays.level _⟩
    | ok a q =>
      rw [got] at settles
      obtain ⟨recorded, pays⟩ := settles
      exact ⟨recorded, pays.level _⟩

end Steps

/-- Every single step is fair, and so are readers that are built from fair ones. -/
theorem stepwise_fair (total size : Nat) : Stepwise fun reader => Fair total size reader where
  -- Each step has its own lemma above.
  pure := fair_pure
  bind := Fair.bind
  unexpected := fair_unexpected
  peek := fair_peek
  advance := fair_advance
  accept := fair_accept
  take := fair_take
  name := fair_name
  nested := Fair.nested

/-- The tokens that are left to be blamed behind items; the brace that closes a block may have been
blamed before. -/
def blameless (p : Parser) (inBlock : Bool) : List Token :=
  if inBlock then p.upcoming.tail else p.upcoming

/-- Whoever leaves all tokens to be blamed leaves those that are blameless. -/
theorem Pays.blameless (pays : Pays total slack q.upcoming p q recorded) (inBlock : Bool) :
    Pays total slack (q.blameless inBlock) p q recorded := by
  -- The tokens without the first one are among all of them.
  refine ⟨pays.ready, pays.errors, pays.shorter, ?_, pays.fewer⟩
  refine .trans ((List.append_sublist_append_left _).mpr ?_) pays.blamed
  rw [Parser.blameless]
  split
  · exact numbered_tail_sublist total q.upcoming
  · exact .refl _

/-- Items are read up to their end in front of at most so many tokens, and what is recorded is paid
for. -/
def FairItems (total size : Nat) (inBlock : Bool) (body : StateM Parser (List Item)) : Prop :=
  ∀ p : Parser, p.Ready → p.upcoming.length ≤ size →
    Finishes inBlock (body p).2.upcoming.head? ∧
      ∃ recorded, Pays total 1 ((body p).2.blameless inBlock) p (body p).2 recorded

section Blocks

variable {body : StateM Parser (List Item)}

/-- Behind the items of a block its closing brace is taken, even if it was blamed, or the source has
ended. -/
theorem settles_closing (finishes : Finishes true q.upcoming.head?)
    (pays : Pays total 1 (q.blameless true) p q recorded) (items : List Item) :
    p.Settles total 1 ((expect .rightBrace "after block" >>= fun _ => pure items) q) := by
  rw [show expect .rightBrace "after block" = (take .rightBrace "after block" >>= fun _ => pure ())
    from rfl, bind_apply, bind_apply]
  rcases pays.ready.take_cases .rightBrace "after block" with
    ⟨token, front, -, took⟩ | ⟨error, stop, blames, other⟩
  · rw [took]
    -- The brace is passed over, and the tokens behind it are all that is left.
    have moves := pays.ready.moves_pull front
    have tail : q.upcoming = token :: q.pull.upcoming := moves.upcoming
    have blamed := pays.blamed
    have shorter := pays.shorter
    have fewer := pays.fewer
    rw [tail, List.length_cons] at shorter fewer
    rw [blameless, if_pos rfl, tail] at blamed
    exact ⟨recorded, moves.ready, by rw [syntaxErrors_pull, pays.errors], by omega, blamed,
      fewer.imp_right (by omega)⟩
  · rw [stop]
    -- Without a brace the items have ended with the source.
    have ended : q.upcoming = [] := by
      rcases finishes with none | ⟨-, token, front, brace⟩
      · exact List.head?_eq_none_iff.mp none
      · exact absurd brace (other token front)
    have blamed := pays.blamed
    rw [blameless, if_pos rfl, ended] at blamed
    exact ⟨blames, recorded, pays.ready, pays.errors, pays.shorter, ended ▸ blamed, pays.fewer⟩

/-- What stands behind the opening brace of a block is paid for. -/
theorem settles_block (items : FairItems total size true body) (ready : p.Ready)
    (fits : p.upcoming.length ≤ size) :
    p.Settles total 1 ((nested (always body) >>= fun items =>
      expect .rightBrace "after block" >>= fun _ => pure items) p) := by
  -- The items are read one level deeper, and what they record there is paid for on this level too.
  rw [bind_apply, nested]
  by_cases full : p.limit ≤ p.depth
  · rw [if_pos full]
    exact ⟨trivial, [], ready.pays⟩
  · rw [if_neg full]
    obtain ⟨finishes, recorded, pays⟩ :=
      items { p with depth := p.depth + 1 } (ready.withDepth _) fits
    exact settles_closing (q := { (body { p with depth := p.depth + 1 }).2 with
      depth := (body { p with depth := p.depth + 1 }).2.depth - 1 }) finishes (pays.level _) _

/-- Blocks are fair if the items in them are. -/
theorem fair_blockOf (items : FairItems total size true body) (context : String) :
    Fair total (size + 1) (blockOf body context) := by
  intro p ready fits
  rw [blockOf, show expect .leftBrace context = (take .leftBrace context >>= fun _ => pure ())
    from rfl, bind_apply, bind_apply]
  rcases ready.take_cases .leftBrace context with ⟨token, front, -, took⟩ | ⟨error, stop, blames, -⟩
  · -- The opening brace is the token of its own that a block adds.
    have length := ready.length_upcoming front
    have settles := settles_block items (ready.moves_pull front).ready (by omega)
    rw [took]
    show p.Settles total 0 ((nested (always body) >>= fun items =>
      expect .rightBrace "after block" >>= fun _ => pure items) p.pull)
    exact settles.behind ready front
  · rw [stop]
    exact ⟨blames, [], ready.pays⟩

end Blocks

section Rounds

variable {bound : Nat} {inBlock : Bool}

/-- A round of reading items takes a token, whatever it records. -/
theorem Ready.spends_itemRound (ready : p.Ready) (blame : SyntaxError → Parser → SyntaxError)
    (fits : p.upcoming.length ≤ bound + 1) (unfinished : ¬ p.atEnd inBlock = true) :
    Spends 1 p (itemRound blame (itemsBlaming blame bound true) (bound + 1) inBlock p).2 := by
  -- Beside itself a parser can always be followed.
  let T := Tandem.alongside id p.finalLine p.finalLine blame (fun _ _ => True) fun _ _ => trivial
  have beside : T.beside p p :=
    ⟨⟨ready, ready, rfl, rfl, rfl, rfl, rfl⟩, by simp⟩
  rcases Tandem.round_side_by_side (T := T) (Tandem.follows_itemOf
    (Tandem.follows_items (Nat.le_refl bound) true) (Nat.le_refl _) (Nat.le_refl _)) beside fits
    unfinished with strayed | ⟨-, -, spends⟩
  · exact strayed.elim
  · exact spends

/-- The token in front can be blamed, and then those behind it are left. -/
theorem blamed_counting (blames : error.Blames q.upcoming) :
    ((counting total error q).numbered?.toList ++ numbered total q.upcoming.tail).Sublist
      (numbered total q.upcoming) := by
  -- No other defect than one about a token blames it.
  cases error with
  | unexpectedToken found expected line =>
    obtain ⟨rest, front⟩ := List.head?_eq_some_iff.mp blames
    rw [counting, front, List.tail_cons, numbered, List.length_cons]
    exact .refl _
  | unexpectedEnd expected line =>
    rw [show q.upcoming = [] from blames]
    exact .refl _
  | nestingTooDeep limit line => exact numbered_tail_sublist total q.upcoming

/-- A defect that stops an item is paid for by a token that the item takes, or by the one that is
dropped behind it. -/
theorem Pays.recovered (pays : Pays total 0 q.upcoming p q recorded)
    (blames : error.Blames q.upcoming)
    (spends : Spends 1 p (recover (counting total error q) inBlock q).2) :
    Pays total 1 q.upcoming.tail p (recover (counting total error q) inBlock q).2
      (recorded ++ [counting total error q]) := by
  obtain ⟨dropped, moves, -⟩ := pays.ready.moves_recover (counting total error q) inBlock
  have shorter := spends.length_le
  have shorter' : (recover (counting total error q) inBlock q).2.upcoming.length ≤
      q.upcoming.length := by
    rw [moves.upcoming, List.length_append]
    omega
  refine ⟨moves.ready, ?_, by omega, ?_, .inr ?_⟩
  · rw [moves.errors, pays.errors, List.append_assoc]
  · have single : [counting total error q].filterMap SyntaxError.numbered? =
        (counting total error q).numbered?.toList := by
      cases found : (counting total error q).numbered? <;> simp [found]
    rw [List.filterMap_append, single, List.append_assoc]
    exact ((List.append_sublist_append_left _).mpr (blamed_counting blames)).trans pays.blamed
  · -- Unless the item has a token to spare, this is its first defect, and the round took one.
    rw [List.length_append, List.length_singleton]
    rcases pays.fewer with rfl | fewer
    · rw [List.length_nil]
      omega
    · omega

/-- Behind a defect the token in front was dropped, or items end there. -/
theorem upcoming_recover (ready : q.Ready) (error : SyntaxError) (inBlock : Bool) :
    (recover error inBlock q).2.upcoming = q.upcoming.tail ∨
      (recover error inBlock q).2.atEnd inBlock = true ∧
        (recover error inBlock q).2.blameless inBlock = q.upcoming.tail := by
  obtain ⟨ready', same⟩ := ready.record error
  rw [recover_apply]
  split
  next ended =>
    rcases (ready.atEnd_iff inBlock).mp ended with none | ⟨inside, -⟩
    · -- At the end of the source there is nothing to drop.
      rw [same, List.head?_eq_none_iff.mp none]
      exact .inl rfl
    · -- The brace is left for the block around it.
      exact .inr ⟨ended, by rw [blameless, if_pos inside, same]⟩
  next drops =>
    obtain ⟨token, front⟩ := Option.ne_none_iff_exists'.mp (lookahead_ne_none drops)
    have head : (q.record error).upcoming.head? = some token := by
      rw [same, ready.head?_upcoming, front]
    have moves := ready'.moves_pull head
    rw [← same, moves.upcoming]
    exact .inl rfl

/-- What a round records is paid for, and if it leaves a blamed token then the items end there. -/
theorem pays_itemRound {body : StateM Parser (List Item)}
    (item : Fair total bound (itemOf body bound)) (ready : p.Ready)
    (fits : p.upcoming.length ≤ bound)
    (spends : Spends 1 p (itemRound (counting total) body bound inBlock p).2) :
    ∃ recorded left, Pays total 1 left p (itemRound (counting total) body bound inBlock p).2
        recorded ∧
      (left = (itemRound (counting total) body bound inBlock p).2.upcoming ∨
        (itemRound (counting total) body bound inBlock p).2.atEnd inBlock = true ∧
          left = (itemRound (counting total) body bound inBlock p).2.blameless inBlock) := by
  -- An item that is read leaves all tokens to be blamed, and one that is not leaves the next one.
  have settles := item p ready fits
  rw [itemRound] at spends ⊢
  cases got : itemOf body bound p with
  | ok first q =>
    rw [got] at settles
    obtain ⟨recorded, pays⟩ := settles
    exact ⟨recorded, q.upcoming, pays.slacken, .inl rfl⟩
  | error error q =>
    rw [got] at settles spends
    obtain ⟨blames, recorded, pays⟩ := settles
    refine ⟨_, _, pays.recovered blames spends, ?_⟩
    exact (upcoming_recover pays.ready _ inBlock).imp Eq.symm (And.imp_right Eq.symm)

end Rounds

/-- What is recorded while items are read is paid for. -/
theorem fairItems (total bound : Nat) (inBlock : Bool) :
    FairItems total bound inBlock (itemsBlaming (counting total) bound inBlock) := by
  -- Each round takes a token, so that the others have the smaller bound.
  induction bound generalizing inBlock with
  | zero =>
    intro p ready fits
    have ended := List.length_eq_zero_iff.mp (Nat.le_zero.mp fits)
    have left : p.blameless inBlock = p.upcoming := by
      rw [blameless, ended]
      exact ite_self _
    exact ⟨.inl (by rw [itemsBlaming, ended]; rfl), [], left ▸ ready.pays⟩
  | succ bound ih =>
    intro p ready fits
    by_cases ended : p.atEnd inBlock = true
    · rw [itemsBlaming, if_pos ended]
      exact ⟨(ready.atEnd_iff inBlock).mp ended, [], ready.pays.blameless inBlock⟩
    · have item : Fair total (bound + 1)
          (itemOf (itemsBlaming (counting total) bound true) (bound + 1)) :=
        (stepwise_fair total (bound + 1)).itemOf (bound + 1)
          (fun context => fair_blockOf (ih true) context) fair_get
      have spends := ready.spends_itemRound (counting total) fits ended
      obtain ⟨recorded, left, pays, rest⟩ := pays_itemRound item ready fits spends
      have shorter := spends.length_le
      obtain ⟨finishes, further, pays'⟩ := ih inBlock _ pays.ready (by omega)
      rw [show (itemsBlaming (counting total) (bound + 1) inBlock p).2 = _ from
        congrArg Prod.snd (itemsBlaming_round ended)]
      refine ⟨finishes, ?_⟩
      rcases rest with rfl | ⟨done, rfl⟩
      · exact ⟨_, pays.trans (Nat.le_refl 1) pays'⟩
      · -- Where the items end, nothing more is read.
        rw [show (itemsBlaming (counting total) bound inBlock _).2 = _ from
          congrArg Prod.snd (itemsBlaming_of_atEnd done)]
        exact ⟨recorded, pays⟩

end Parser

open Scriptlet.Parser

/-- No token is blamed twice: the tokens that are blamed stand in the source in the order of their
defects. This holds of the very places where the defects are met: with the number of tokens in front
of it for its line, each defect blames its token at another place of the source. There are no more
defects than tokens, those at the end of the source and those about the nesting limit included. -/
theorem parseWithin_blames_once (limit : Nat) (source : String) :
    ((parseWithin limit source).syntaxErrors.filterMap SyntaxError.found?).Sublist
      (tokenize source) ∧
    (parseBlaming (counting (tokenize source).length) limit source).syntaxErrors.filterMap
        SyntaxError.found? =
      (parseWithin limit source).syntaxErrors.filterMap SyntaxError.found? ∧
    ((parseBlaming (counting (tokenize source).length) limit source).syntaxErrors.filterMap
        SyntaxError.numbered?).Sublist (tokenize source).zipIdx ∧
    (parseWithin limit source).syntaxErrors.length ≤ (tokenize source).length := by
  obtain ⟨ready, front, -, -, none⟩ := ofSource_view source limit
  obtain ⟨-, recorded, -, all, -, blamed, fewer⟩ := fairItems (tokenize source).length
    (tokenize source).length false _ ready (Nat.le_of_eq (congrArg List.length front))
  rw [none, List.nil_append] at all
  rw [front] at blamed fewer
  have counted : (parseBlaming (counting (tokenize source).length) limit source).syntaxErrors =
      recorded := all
  rw [counted]
  -- Counting does not change which defects are met.
  have same : List.Forall₂ (fun recorded error => recorded.found? = error.found?) recorded
      (parseWithin limit source).syntaxErrors := by
    rw [← counted]
    refine (parseBlaming_eq _ limit source).2.imp ?_
    rintro recorded error ⟨p, -, rfl⟩
    exact error.found?_withNumber _
  have found : recorded.filterMap SyntaxError.found? =
      (parseWithin limit source).syntaxErrors.filterMap SyntaxError.found? := by
    have each : recorded.map SyntaxError.found? =
        (parseWithin limit source).syntaxErrors.map SyntaxError.found? := by
      rwa [← List.forall₂_eq_eq_eq, List.forall₂_map_left_iff, List.forall₂_map_right_iff]
    simpa [List.filterMap_map] using congrArg (List.filterMap id) each
  have places : (recorded.filterMap SyntaxError.numbered?).Sublist (tokenize source).zipIdx := by
    have numbers := numbered_eq_zipIdx (tokenize source) 0
    rw [Nat.zero_add] at numbers
    rw [← numbers]
    exact (List.sublist_append_left _ _).trans blamed
  refine ⟨?_, found, places, ?_⟩
  · -- Without their places, these are the tokens that are blamed.
    have tokens := places.map Prod.fst
    rwa [List.map_filterMap, funext SyntaxError.map_fst_numbered?, found, List.zipIdx_map_fst]
      at tokens
  · rw [← same.length_eq]
    rcases fewer with rfl | fewer
    · exact Nat.zero_le _
    · omega

/-- A brace that ends an item too early and then its block is blamed once, like the same brace
behind it. -/
example : (parseBlaming (counting 8) 4 "if (x) \x7b y \x7d \x7d").syntaxErrors.filterMap
    SyntaxError.numbered? = [(.fixed .rightBrace 1, 6), (.fixed .rightBrace 1, 7)] := by
  decide +kernel

end Scriptlet
