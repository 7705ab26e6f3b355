import Scriptlet.Proofs.Token.Feed
import Scriptlet.Proofs.Token.Number
import Scriptlet.Run

/-! A listing tells its tokens: each entry shows where it ends, whatever comes behind it. So what a
run prints when it lists the tokens of a source tells the tokens. -/

namespace Scriptlet

open Scriptlet.Binary64

namespace TokenKind

/-- A kind is found under its name. -/
theorem ofName?_name (kind : TokenKind) : ofName? kind.name = some kind := by
  -- All kinds have names of their own.
  cases kind <;> decide

/-- No kind has a space in its name. -/
theorem space_notMem_name (kind : TokenKind) : ' ' ∉ kind.name.toList := by
  -- Each name is a single word.
  cases kind <;> decide

/-- A word that is no identifier is spelled as its kind is. -/
theorem spelling?_ofWord (word : String) :
    ofWord word = .identifier ∨ (ofWord word).spelling? = some word := by
  -- The keyword is found by its spelling.
  unfold ofWord keyword?
  cases found : keywords.find? fun kind => kind.spelling? == some word with
  | none => exact .inl rfl
  | some kind =>
    have spelled := List.find?_some found
    exact .inr (beq_iff_eq.mp spelled)

end TokenKind

/-- A character that stands in neither of two texts tells where they end. -/
theorem eq_of_append_stop {stop : Char} {front front' back back' : List Char}
    (noStop : stop ∉ front) (noStop' : stop ∉ front')
    (same : front ++ stop :: back = front' ++ stop :: back') : front = front' ∧ back = back' := by
  -- Both texts are all characters up to the first one of that sort.
  have taken {text behind : List Char} (absent : stop ∉ text) :
      (text ++ stop :: behind).takeWhile (· != stop) = text := by
    have before : ∀ c ∈ text, (c != stop) = true := fun c member =>
      bne_iff_ne.mpr fun equal => absent (equal ▸ member)
    rw [List.takeWhile_append_of_pos before]
    simp
  have fronts : front = front' := by
    rw [← taken noStop, same, taken noStop']
  subst fronts
  exact ⟨rfl, (List.cons.inj (List.append_cancel_left same)).2⟩

namespace Token

variable {token token' : Token} {rest rest' : List Char}

/-- What a token of each sort holds. -/
inductive Shown : Token → Prop where
  /-- An identifier is a word. -/
  | identifier {word : List Char} (parts : ∀ c ∈ word, Lexeme.WordPart c) (line : Nat) :
      Shown ⟨.identifier, .text (String.ofList word), line⟩
  /-- A string has text that may stand between quotes. -/
  | string {payload : List Char} (escaped : Escaped payload) (line : Nat) :
      Shown ⟨.string, .text (String.ofList payload), line⟩
  /-- A number is that of a literal. -/
  | number {value : Number} (literal : value.Literal) (line : Nat) :
      Shown ⟨.number, .number value, line⟩
  /-- Other tokens are spelled as their kind is. -/
  | fixed {kind : TokenKind} {spelling : String} (spelled : kind.spelling? = some spelling)
      (line : Nat) : Shown ⟨kind, .text spelling, line⟩

/-- Written tokens hold what their sort does. -/
theorem Written.shown (written : token.Written) : token.Shown := by
  -- Each class of lexemes has tokens of its own sort, but for words, which have two.
  obtain ⟨lexeme, next, line, fits, own⟩ := written
  cases lexeme with
  | word spelling =>
    obtain rfl := Option.some.inj own
    obtain ⟨⟨first, more, rfl, start, parts⟩, -⟩ := fits
    have all : ∀ c ∈ first :: more, Lexeme.WordPart c := by
      intro c member
      rcases List.mem_cons.mp member with rfl | later
      · exact start.imp_left fun letter => by simp [Char.isAlphanum, letter]
      · exact parts c later
    rcases TokenKind.spelling?_ofWord (String.ofList (first :: more)) with identifier | keyword
    · rw [Token.word, identifier]
      exact .identifier all line
    · exact .fixed keyword line
  | number whole fraction =>
    obtain rfl := Option.some.inj own
    exact .number ⟨whole, fraction, rfl⟩ line
  | string payload =>
    obtain rfl := Option.some.inj own
    exact .string fits line
  | mark kind =>
    obtain rfl := Option.some.inj own
    obtain ⟨-, spelling, spelled, -⟩ := fits.1
    rw [Token.fixed, spelled]
    exact .fixed spelled line
  | _ => cases own

/-- The description of an identifier ends with the quote behind its word. -/
theorem description_identifier (word : List Char) (line : Nat) (rest : List Char) :
    (description ⟨.identifier, .text (String.ofList word), line⟩).toList ++ rest =
      "identifier '".toList ++ (word ++ '\'' :: rest) := by
  -- What comes behind the description comes behind the quote.
  show ("identifier '" ++ String.ofList word ++ "'").toList ++ rest = _
  simp [String.toList_append]

/-- The description of an identifier tells the word, whatever comes behind its line end. -/
theorem word_of_description {word word' : List Char} {line line' : Nat}
    (parts : ∀ c ∈ word, Lexeme.WordPart c) (parts' : ∀ c ∈ word', Lexeme.WordPart c)
    (same : (description ⟨.identifier, .text (String.ofList word), line⟩).toList ++ '\n' :: rest =
      (description ⟨.identifier, .text (String.ofList word'), line'⟩).toList ++ '\n' :: rest') :
    word = word' ∧ rest = rest' := by
  rw [description_identifier, description_identifier] at same
  -- A quote is no part of a word, so that the first one ends it.
  have noQuote {word : List Char} (parts : ∀ c ∈ word, Lexeme.WordPart c) : '\'' ∉ word :=
    fun member => absurd (parts _ member) (by unfold Lexeme.WordPart; decide)
  obtain ⟨words, behind⟩ := eq_of_append_stop (noQuote parts) (noQuote parts')
    (List.append_cancel_left same)
  exact ⟨words, (List.cons.inj behind).2⟩

/-- The description of a string ends with the quote behind its payload. -/
theorem description_string (payload : List Char) (line : Nat) (rest : List Char) :
    (description ⟨.string, .text (String.ofList payload), line⟩).toList ++ rest =
      "string \"".toList ++ (payload ++ '"' :: rest) := by
  -- Here too, what comes behind the description comes behind the quote.
  show ("string \"" ++ String.ofList payload ++ "\"").toList ++ rest = _
  simp [String.toList_append]

/-- The description of a string tells the payload, whatever comes behind its line end. -/
theorem payload_of_description {payload payload' : List Char} {line line' : Nat}
    (escaped : Escaped payload) (escaped' : Escaped payload')
    (same : (description ⟨.string, .text (String.ofList payload), line⟩).toList ++ '\n' :: rest =
      (description ⟨.string, .text (String.ofList payload'), line'⟩).toList ++ '\n' :: rest') :
    payload = payload' ∧ rest = rest' := by
  rw [description_string, description_string] at same
  -- The first quote without a backslash ends the payload, whatever looks like an entry in it.
  have closed := congrArg Lexer.payload? (List.append_cancel_left same)
  rw [Lexer.payload?_closed escaped, Lexer.payload?_closed escaped', Option.some.injEq,
    Prod.mk.injEq] at closed
  exact ⟨closed.1, (List.cons.inj closed.2).2⟩

/-- The description of a number ends with its text. -/
theorem description_number (value : Number) (line : Nat) (rest : List Char) :
    (description ⟨.number, .number value, line⟩).toList ++ rest =
      "number ".toList ++ (value.text.toList ++ rest) := by
  -- There is no quote, so that the text itself has to show where it ends.
  show ("number " ++ value.text).toList ++ rest = _
  rw [String.toList_append, List.append_assoc]

/-- The description of a literal tells its number, whatever comes behind its line end. -/
theorem number_of_description {value value' : Number} {line line' : Nat} (literal : value.Literal)
    (literal' : value'.Literal)
    (same : (description ⟨.number, .number value, line⟩).toList ++ '\n' :: rest =
      (description ⟨.number, .number value', line'⟩).toList ++ '\n' :: rest') :
    value = value' ∧ rest = rest' := by
  rw [description_number, description_number] at same
  -- The line end itself ends the text.
  obtain ⟨texts, behind⟩ := eq_of_append_stop literal.lineEnd_notMem literal'.lineEnd_notMem
    (List.append_cancel_left same)
  exact ⟨literal.eq_of_text literal' (String.toList_inj.mp texts), behind⟩

/-- Tokens of a kind with a spelling have that spelling as their value. -/
theorem Shown.value_eq (shown : token.Shown) {spelling : String}
    (spelled : token.kind.spelling? = some spelling) : token.value = .text spelling := by
  -- Words, strings and numbers are of kinds without a spelling.
  cases shown with
  | fixed own line => rw [Option.some.inj (own.symm.trans spelled)]
  | _ => cases spelled

/-- The description of a token tells its value, whatever comes behind the end of its line. -/
theorem Shown.value_of_description (shown : token.Shown) (shown' : token'.Shown)
    (kinds : token.kind = token'.kind)
    (same : token.description.toList ++ '\n' :: rest =
      token'.description.toList ++ '\n' :: rest') :
    token.value = token'.value ∧ rest = rest' := by
  cases spelled : token'.kind.spelling? with
  | some spelling =>
    -- The kind alone tells the value, and both describe themselves alike.
    have values := (shown.value_eq (kinds ▸ spelled)).trans (shown'.value_eq spelled).symm
    have described : token.description = token'.description := by
      rw [description, description, kinds, values]
    rw [described] at same
    exact ⟨values, (List.cons.inj (List.append_cancel_left same)).2⟩
  | none =>
    -- Both are of the same one of the three sorts that vary.
    cases shown with
    | identifier parts line =>
      cases shown' with
      | identifier parts' line' =>
        obtain ⟨rfl, behind⟩ := word_of_description parts parts' same
        exact ⟨rfl, behind⟩
      | fixed own => cases own.symm.trans spelled
      | _ => cases kinds
    | string escaped line =>
      cases shown' with
      | string escaped' line' =>
        obtain ⟨rfl, behind⟩ := payload_of_description escaped escaped' same
        exact ⟨rfl, behind⟩
      | fixed own => cases own.symm.trans spelled
      | _ => cases kinds
    | number literal line =>
      cases shown' with
      | number literal' line' =>
        obtain ⟨rfl, behind⟩ := number_of_description literal literal' same
        exact ⟨rfl, behind⟩
      | fixed own => cases own.symm.trans spelled
      | _ => cases kinds
    | fixed own => cases own.symm.trans (kinds ▸ spelled)

/-- The entry of a token as characters: its line and its kind between blanks, and its
description. -/
theorem toList_entry (token : Token) (rest : List Char) : token.entry.toList ++ rest =
    List.replicate (4 - (Nat.toDigits 10 token.line).length) ' ' ++
      (Nat.toDigits 10 token.line ++ ' ' :: ' ' :: (token.kind.name.toList ++
        ' ' :: (List.replicate (10 - token.kind.name.toList.length) ' ' ++
          (token.description.toList ++ rest)))) := by
  -- The columns are filled up on their left and on their right.
  show (Listing.lineColumn.fit (toString token.line) ++ "  " ++
    Listing.kindColumn.fit token.kind.name ++ " " ++ token.description).toList ++ rest = _
  have line : (Listing.lineColumn.fit (toString token.line)).toList =
      List.replicate (4 - (Nat.toDigits 10 token.line).length) ' ' ++
        Nat.toDigits 10 token.line := by
    simp [Listing.lineColumn, Field.fit, Field.shown, Alignment.leading, Nat.toString_eq_repr,
      Nat.toList_repr]
  have kind : (Listing.kindColumn.fit token.kind.name).toList ++ [' '] =
      token.kind.name.toList ++
        ' ' :: List.replicate (10 - token.kind.name.toList.length) ' ' := by
    rw [← List.replicate_succ, List.replicate_succ']
    simp [Listing.kindColumn, Field.fit, Field.shown, Alignment.leading]
  calc (Listing.lineColumn.fit (toString token.line) ++ "  " ++
        Listing.kindColumn.fit token.kind.name ++ " " ++ token.description).toList ++ rest
      = (Listing.lineColumn.fit (toString token.line)).toList ++ ' ' :: ' ' ::
          (((Listing.kindColumn.fit token.kind.name).toList ++ [' ']) ++
            (token.description.toList ++ rest)) := by simp [String.toList_append]
    _ = _ := by rw [line, kind, List.append_assoc, List.append_assoc, List.cons_append]

/-- No digit is a space. -/
theorem space_notMem_toDigits (n : Nat) : ' ' ∉ Nat.toDigits 10 n :=
  -- All characters are digits, and the space is none.
  fun member => absurd (digits_toDigits n _ member) (by decide)

/-- Behind the spaces in front of a line stands the line. -/
theorem dropWhile_spaces (count n : Nat) (rest : List Char) :
    (List.replicate count ' ' ++ (Nat.toDigits 10 n ++ rest)).dropWhile (· == ' ') =
      Nat.toDigits 10 n ++ rest := by
  rw [List.dropWhile_append_of_pos fun c member => beq_iff_eq.mpr (List.eq_of_mem_replicate member)]
  -- The first digit is no space.
  have space := space_notMem_toDigits n
  cases digits : Nat.toDigits 10 n with
  | nil => exact absurd digits Nat.toDigits_ne_nil
  | cons first more =>
    rw [digits] at space
    have other : ¬ (first == ' ') = true := fun equal =>
      space (beq_iff_eq.mp equal ▸ List.mem_cons_self)
    exact List.dropWhile_cons_of_neg other

/-- The entry of a token tells the token, whatever comes behind the end of its line. -/
theorem Shown.eq_of_entry (shown : token.Shown) (shown' : token'.Shown)
    (same : token.entry.toList ++ '\n' :: rest = token'.entry.toList ++ '\n' :: rest') :
    token = token' ∧ rest = rest' := by
  rw [toList_entry, toList_entry] at same
  -- The line is read first, then the kind, and the description as the kind has it.
  have unpadded := congrArg (List.dropWhile (· == ' ')) same
  rw [dropWhile_spaces, dropWhile_spaces] at unpadded
  obtain ⟨lines, behindLine⟩ := eq_of_append_stop (space_notMem_toDigits _)
    (space_notMem_toDigits _) unpadded
  obtain ⟨names, behindName⟩ := eq_of_append_stop token.kind.space_notMem_name
    token'.kind.space_notMem_name (List.cons.inj behindLine).2
  have line : token.line = token'.line := by
    rw [← @Nat.ofDigitChars_ten_toDigits token.line, lines, Nat.ofDigitChars_ten_toDigits]
  have kind : token.kind = token'.kind := by
    have found := congrArg TokenKind.ofName? (String.toList_inj.mp names)
    rwa [TokenKind.ofName?_name, TokenKind.ofName?_name, Option.some.injEq] at found
  rw [names] at behindName
  obtain ⟨value, behind⟩ :=
    shown.value_of_description shown' kind (List.append_cancel_left behindName)
  obtain ⟨kind₀, value₀, line₀⟩ := token
  exact ⟨by rw [show kind₀ = _ from kind, show value₀ = _ from value, show line₀ = _ from line],
    behind⟩

end Token

/-- The entries of some tokens, each with a line end behind it, tell the tokens. -/
theorem eq_of_entries {tokens tokens' : List Token} (shown : ∀ token ∈ tokens, token.Shown)
    (shown' : ∀ token ∈ tokens', token.Shown)
    (same : tokens.flatMap (fun token => token.entry.toList ++ ['\n']) =
      tokens'.flatMap (fun token => token.entry.toList ++ ['\n'])) : tokens = tokens' := by
  -- One entry after another is read off the front of both texts.
  induction tokens generalizing tokens' with
  | nil =>
    cases tokens' with
    | nil => rfl
    | cons token' more' => simp at same
  | cons token more ih =>
    cases tokens' with
    | nil => simp at same
    | cons token' more' =>
      rw [List.flatMap_cons, List.flatMap_cons, List.append_assoc, List.append_assoc] at same
      obtain ⟨rfl, behind⟩ := (shown token List.mem_cons_self).eq_of_entry
        (shown' token' List.mem_cons_self) same
      rw [ih (fun other later => shown other (List.mem_cons_of_mem _ later))
        (fun other later => shown' other (List.mem_cons_of_mem _ later)) behind]

/-- Printed lines are one after another, each with a line end behind it. -/
theorem Outcome.toList_printed (lines : List String) :
    (printed lines).toList = lines.flatMap fun line => line.toList ++ ['\n'] := by
  -- Lines are joined with nothing between them.
  simp [printed, String.toList_join, List.flatMap_map, String.toList_append]

/-- The tokens of a source hold what their sort does. -/
theorem shown_of_mem_tokenize {source : String} {token : Token}
    (member : token ∈ tokenize source) : token.Shown :=
  -- All tokens of a source are left at its front.
  (Lexer.written_of_mem_drain (l := Lexer.ofSource source) rfl member).shown

/-- A run that lists tokens prints their entries. -/
theorem stdout_listing (limit : Nat) (log : Option Level) (file source : String) :
    (run ⟨true, limit, log⟩ file (.ok source.toUTF8)).stdout =
      Outcome.printed (listing (tokenize source)) := by
  -- The bytes of the file are the source, and the options ask for a listing.
  rw [run_toUTF8]
  rfl

/-- Runs over two sources print the same tokens exactly if these have the same kinds and values and
stand on the same lines, whatever the strings among them look like, and whatever else the runs are
asked to do. -/
theorem stdout_eq_iff_tokenize_eq (first second : String) (limit limit' : Nat)
    (log log' : Option Level) (file file' : String) :
    (run ⟨true, limit, log⟩ file (.ok first.toUTF8)).stdout =
        (run ⟨true, limit', log'⟩ file' (.ok second.toUTF8)).stdout ↔
      tokenize first = tokenize second := by
  -- What is printed are the entries of the tokens, and nothing else of a run is shown on that side.
  rw [stdout_listing, stdout_listing]
  constructor
  · intro same
    refine eq_of_entries (fun _ => shown_of_mem_tokenize) (fun _ => shown_of_mem_tokenize) ?_
    have letters := congrArg String.toList same
    simpa only [Outcome.toList_printed, listing, List.flatMap_map] using letters
  · intro same
    rw [same]

end Scriptlet
