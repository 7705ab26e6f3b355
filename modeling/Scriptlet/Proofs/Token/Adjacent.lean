import Mathlib.Data.List.Chain
import Scriptlet.Proofs.Writing.Spelling

/-! Lexemes written one after another: which neighbours need a blank between them, and that all
others may stand close together. -/

namespace Scriptlet

namespace Lexeme

/-- Without a blank between them, the first of two lexemes goes on into the second one. -/
def Merges : Lexeme → Lexeme → Prop
  | .word _, .word _ | .word _, .number _ _ | .number _ _, .number _ _ => True
  | .mark first, .mark second =>
    first ∈ [TokenKind.assign, .not, .less, .greater] ∧ second ∈ [TokenKind.assign, .equal] ∨
      first = .divide ∧ second ∈ [TokenKind.divide, .times]
  | _, _ => False

/-- Lexemes as they are written, each with the blanks behind it. -/
def written (pieces : List (Lexeme × List Char)) : List Char :=
  pieces.flatMap fun (lexeme, gap) => lexeme.text ++ gap

/-- Each piece is a lexeme, and the blanks behind it are its gap. -/
def separated (pieces : List (Lexeme × List Char)) : List Lexeme :=
  pieces.flatMap fun (lexeme, gap) => lexeme :: gap.map blank

/-- What a lexeme of words, numbers, strings and marks may begin with. -/
def Begins (c : Char) : Lexeme → Prop
  | .word _ => Lexer.isWordStart c = true
  | .number _ _ => c.isDigit = true
  | .string _ => c = '"'
  | .mark kind => Lexer.isWordPart c = false ∧ (c = '=' → kind ∈ [TokenKind.assign, .equal]) ∧
    (c = '/' → kind = .divide) ∧ (c = '*' → kind = .times)
  | _ => False

section Seams

variable {first second : Lexeme} {c : Char}

/-- A mark of two characters has the same one twice, or ends with an equals sign. -/
theorem pair_of_spells {kind : TokenKind} {first : Char} (spells : kind.Spells [first, c]) :
    first ∈ ['&', '|'] ∨ c = '=' ∧ first ∈ ['=', '!', '<', '>'] := by
  obtain ⟨noKeyword, spelling, spelled, same⟩ := spells
  -- Each mark is looked at by itself.
  cases kind <;> simp [TokenKind.spelling?, TokenKind.isKeyword, TokenKind.keywords]
    at spelled noKeyword <;> subst spelled <;> simp at same <;>
    obtain ⟨rfl, rfl⟩ := same <;> decide

/-- Only an equals sign makes a longer mark of another one. -/
theorem spells_longer {kind longer : TokenKind} {text : List Char} (spells : kind.Spells text)
    (more : longer.Spells (text ++ [c])) :
    c = '=' ∧ kind ∈ [TokenKind.assign, .not, .less, .greater] := by
  -- The longer mark has two characters, and the first of them spells the other one.
  obtain ⟨first, rfl⟩ : ∃ first, text = [first] := by
    have some := (Lexer.spells_length spells).1
    have few := (Lexer.spells_length more).2
    rw [List.length_append, List.length_singleton] at few
    exact List.length_eq_one_iff.mp (by omega)
  have found : Lexer.mark? ([first] ++ []) = some (kind, []) :=
    Lexer.mark?_of_spells spells fun _ _ absent => by cases absent
  rcases pair_of_spells more with joint | ⟨rfl, front⟩
  · rcases List.mem_pair.mp joint with rfl | rfl <;> cases found
  · refine ⟨rfl, ?_⟩
    simp only [List.mem_cons, List.not_mem_nil, or_false] at front
    rcases front with rfl | rfl | rfl | rfl <;> cases found <;> decide

/-- A mark begins with no character of words, and few marks begin with an equals sign, a slash or
a star. -/
theorem begins_mark {kind : TokenKind} {text : List Char} (spells : kind.Spells text) :
    ∃ c, text.head? = some c ∧ c ≠ '.' ∧ Begins c (.mark kind) := by
  obtain ⟨noKeyword, spelling, spelled, rfl⟩ := spells
  -- Each mark is looked at by itself.
  cases kind <;> simp [TokenKind.spelling?, TokenKind.isKeyword, TokenKind.keywords]
    at spelled noKeyword <;> subst spelled <;>
    exact ⟨_, rfl, by decide, by decide, by decide, by decide, by decide⟩

/-- The solid lexemes are words, numbers, strings with an escaped payload, and marks. -/
theorem solid_iff : first.Solid ↔ match first with
    | .word spelling => ∃ c more, spelling = c :: more ∧ WordStart c ∧ ∀ d ∈ more, WordPart d
    | .number whole fraction =>
      whole ≠ [] ∧ (∀ d ∈ whole, d.isDigit = true) ∧
        ∀ decimals, fraction = some decimals → ∀ d ∈ decimals, d.isDigit = true
    | .string payload => Escaped payload
    | .mark kind => kind.Spells (text (.mark kind))
    | _ => False := by
  -- At the end of a source nothing stands behind a lexeme that could go on with it.
  refine ⟨fun solid => ?_, fun inClass => ?_⟩
  · have fits := solid.fits
    have meant := solid.meant
    cases first with
    | number whole fraction => cases fraction <;> simp_all [Fits]
    | _ => simp_all [Fits, content?, token?]
  · cases first with
    | number whole fraction => cases fraction <;> exact ⟨by simp_all [Fits], rfl⟩
    | word _ | string _ | mark _ => exact ⟨by simp_all [Fits], rfl⟩
    | _ => exact inClass.elim

/-- Each solid lexeme begins as its class does, and none with a point. -/
theorem Solid.begins (solid : first.Solid) :
    ∃ c, first.text.head? = some c ∧ c ≠ '.' ∧ Begins c first := by
  -- Each sort of solid lexeme has a first character of its own class.
  have fits := solid.fits
  cases first with
  | word spelling =>
    obtain ⟨⟨c, more, rfl, start, -⟩, -⟩ := fits
    have begins := Lexer.isWordStart_iff.mpr start
    exact ⟨c, rfl, by rintro rfl; exact absurd begins (by decide), begins⟩
  | number whole fraction =>
    obtain ⟨⟨c, more, spelled, digit⟩, -⟩ := Lexer.first_of_number fits
    exact ⟨c, by rw [spelled]; rfl, by rintro rfl; exact absurd digit (by decide), digit⟩
  | string payload => exact ⟨'"', rfl, by decide, rfl⟩
  | mark kind => exact begins_mark fits.1
  | _ => exact absurd solid.meant Bool.false_ne_true

/-- What begins with an equals sign, a slash or a star is a mark. -/
theorem exists_mark_of_begins (begins : Begins c second) (special : c = '=' ∨ c = '/' ∨ c = '*') :
    ∃ kind, second = .mark kind := by
  -- Words, numbers and strings begin with other characters.
  have outside : Lexer.isWordPart c = false ∧ c ≠ '"' := by
    rcases special with rfl | rfl | rfl <;> decide
  cases second with
  | mark kind => exact ⟨kind, rfl⟩
  | word _ => exact absurd (Lexer.isWordPart_of_isWordStart begins) (by simp [outside.1])
  | number _ _ => exact absurd (Lexer.isWordPart_of_isDigit begins) (by simp [outside.1])
  | string _ => exact absurd begins outside.2
  | _ => exact begins.elim

/-- Solid lexemes that do not go on into each other may stand close together. -/
theorem Solid.fits_close (solid : first.Solid) (next : second.Solid)
    (apart : ¬ first.Merges second) : first.Fits second.text.head? := by
  have fits := solid.fits
  obtain ⟨c, front, noPoint, begins⟩ := next.begins
  rw [front]
  cases first with
  | string payload => exact fits
  | word spelling =>
    -- A word goes on in front of words and numbers only.
    have outside : Lexer.isWordPart c = false := by
      cases second with
      | word _ | number _ _ => exact absurd trivial apart
      | string _ => exact begins ▸ rfl
      | mark _ => exact begins.1
      | _ => exact begins.elim
    refine ⟨fits.1, fun d same part => ?_⟩
    obtain rfl := Option.some.inj same
    exact absurd (Lexer.isWordPart_iff.mpr part) (by simp [outside])
  | number whole fraction =>
    -- A number goes on in front of numbers only.
    have noDigit : c.isDigit = false := by
      cases second with
      | word _ => exact Lexer.isDigit_of_isWordStart begins
      | number _ _ => exact absurd trivial apart
      | string _ => exact begins ▸ rfl
      | mark _ =>
        rw [← Bool.not_eq_true]
        intro digit
        exact absurd (Lexer.isWordPart_of_isDigit digit) (by simp [begins.1])
      | _ => exact begins.elim
    have stop : ∀ d, some c = some d → d.isDigit = false := by
      intro d same
      exact Option.some.inj same ▸ noDigit
    cases fraction with
    | none => exact ⟨fits.1, fits.2.1, fun point => noPoint (Option.some.inj point), stop⟩
    | some fraction => exact ⟨fits.1, fits.2.1, fits.2.2.1, stop⟩
  | mark kind =>
    -- A mark goes on in front of an equals sign, and a slash in front of one more or of a star.
    refine ⟨fits.1, fun d longer same spells => ?_, fun slash => ⟨fun same => ?_, fun same => ?_⟩⟩
    · obtain rfl := Option.some.inj same
      obtain ⟨rfl, merging⟩ := spells_longer fits.1 spells
      obtain ⟨other, rfl⟩ := exists_mark_of_begins begins (.inl rfl)
      exact apart (.inl ⟨merging, begins.2.1 rfl⟩)
    · obtain rfl := Option.some.inj same
      obtain ⟨other, rfl⟩ := exists_mark_of_begins begins (.inr (.inl rfl))
      exact apart (.inr ⟨slash, by simp [begins.2.2.1 rfl]⟩)
    · obtain rfl := Option.some.inj same
      obtain ⟨other, rfl⟩ := exists_mark_of_begins begins (.inr (.inr rfl))
      exact apart (.inr ⟨slash, by simp [begins.2.2.2 rfl]⟩)
  | _ => exact absurd solid.meant Bool.false_ne_true

end Seams

section Pieces

variable {pieces : List (Lexeme × List Char)}

/-- Blanks in front of lexemes that fit are lexemes that fit. -/
theorem fitting_gap {gap : List Char} (blanks : ∀ c ∈ gap, c ∈ [' ', '\t', '\x0b', '\r', '\n'])
    {more : List Lexeme} (fitting : Fitting more) : Fitting (gap.map blank ++ more) := by
  -- A blank fits in front of anything.
  induction gap with
  | nil => exact fitting
  | cons c gap ih =>
    exact ⟨blanks c (by simp), ih fun d member => blanks d (List.mem_cons_of_mem c member)⟩

/-- The text of blanks is these blanks. -/
theorem joined_gap (gap : List Char) : joined (gap.map blank) = gap := by
  -- Each blank is a lexeme of one character.
  induction gap with
  | nil => rfl
  | cons c gap ih => exact congrArg (c :: ·) ih

/-- Blanks have no tokens and no defects. -/
theorem silent_gap (gap : List Char) (line : Nat) :
    tokens line (gap.map blank) = [] ∧ defects line (gap.map blank) = [] := by
  -- The line goes on at a line end, and nothing else does.
  induction gap generalizing line with
  | nil => exact ⟨rfl, rfl⟩
  | cons c gap ih =>
    rw [List.map_cons, tokens_cons, defects_cons, (ih _).1, (ih _).2]
    exact ⟨rfl, rfl⟩

/-- A lexeme in front of others is written first, and then its gap. -/
theorem written_cons (lexeme : Lexeme) (gap : List Char) (pieces : List (Lexeme × List Char)) :
    written ((lexeme, gap) :: pieces) = lexeme.text ++ (gap ++ written pieces) := by
  -- The pieces are written in a row.
  simp [written]

/-- The lexemes of some pieces are written as these pieces are. -/
theorem joined_separated (pieces : List (Lexeme × List Char)) :
    joined (separated pieces) = written pieces := by
  -- Each piece is its lexeme, and then the blanks of its gap.
  induction pieces with
  | nil => rfl
  | cons piece pieces ih =>
    obtain ⟨lexeme, gap⟩ := piece
    have blanks := joined_gap gap
    simp only [joined, separated, written, List.flatMap_cons, List.flatMap_append,
      List.append_assoc] at ih blanks ⊢
    rw [ih, blanks]

/-- Solid lexemes fall into these lexemes again if a blank stands between any two that would go on
into each other. -/
theorem fitting_separated (solid : ∀ piece ∈ pieces, piece.1.Solid)
    (blanks : ∀ piece ∈ pieces, ∀ c ∈ piece.2, c ∈ [' ', '\t', '\x0b', '\r', '\n'])
    (apart : pieces.IsChain fun first second => first.1.Merges second.1 → first.2 ≠ []) :
    Fitting (separated pieces) := by
  induction pieces with
  | nil => trivial
  | cons piece pieces ih =>
    obtain ⟨lexeme, gap⟩ := piece
    obtain ⟨own, others⟩ := List.forall_mem_cons.mp solid
    obtain ⟨blank, later⟩ := List.forall_mem_cons.mp blanks
    refine ⟨?_, fitting_gap blank (ih others later apart.tail)⟩
    -- What stands behind the lexeme is its gap, or the next one.
    show lexeme.Fits (joined (gap.map .blank ++ separated pieces)).head?
    rw [joined, List.flatMap_append, ← joined, ← joined, joined_gap, joined_separated]
    cases gap with
    | cons c gap =>
      exact own.fits_blank (Lexer.isBlank_iff.mpr (blank c (by simp)))
    | nil =>
      cases pieces with
      | nil => exact own.fits
      | cons second pieces =>
        -- Close together, the first lexeme is in front of the first character of the second one.
        have next := others second (by simp)
        obtain ⟨c, front, -⟩ := next.begins
        have close := own.fits_close next fun merges =>
          (List.isChain_cons_cons.mp apart).1 merges rfl
        have same : (written (second :: pieces)).head? = second.1.text.head? := by
          simp [written, front]
        exact same ▸ close

/-- The tokens of solid lexemes are one for each, on the line that the text in front of it has come
to. -/
theorem tokens_separated (solid : ∀ piece ∈ pieces, piece.1.Solid) (line : Nat) :
    (tokens line (separated pieces)).map some = pieces.mapIdx fun i piece =>
      piece.1.token? (line + Lexer.lineEnds (written (pieces.take i))) := by
  induction pieces generalizing line with
  | nil => rfl
  | cons piece pieces ih =>
    obtain ⟨lexeme, gap⟩ := piece
    obtain ⟨own, solid⟩ := List.forall_mem_cons.mp solid
    obtain ⟨token, meant⟩ := own.exists_token line
    -- The first lexeme has its token on this line, and the others are further down.
    show (tokens line (lexeme :: (gap.map blank ++ separated pieces))).map some = _
    rw [tokens_cons, tokens_append, (silent_gap gap _).1, meant, joined_gap, List.mapIdx_cons]
    simp only [List.take_zero, show lexeme.token? (line + Lexer.lineEnds (written [])) = some token
      from meant, Option.toList_some, List.nil_append, List.singleton_append,
      List.map_cons, ih solid, List.take_succ_cons, written_cons,
      Lexer.lineEnds_append, Nat.add_assoc]

/-- Solid lexemes have no defects. -/
theorem defects_separated (solid : ∀ piece ∈ pieces, piece.1.Solid) (line : Nat) :
    defects line (separated pieces) = [] := by
  induction pieces generalizing line with
  | nil => rfl
  | cons piece pieces ih =>
    obtain ⟨lexeme, gap⟩ := piece
    obtain ⟨own, solid⟩ := List.forall_mem_cons.mp solid
    -- Neither the lexeme nor its gap has any.
    show defects line (lexeme :: (gap.map blank ++ separated pieces)) = []
    rw [defects_cons, defects_append, own.no_defect, (silent_gap gap _).2, ih solid]
    rfl

end Pieces

end Lexeme

end Scriptlet
