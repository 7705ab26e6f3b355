import Scriptlet.Proofs.Grammar.Leaves
import Scriptlet.Proofs.Parser.Acceptance
import Scriptlet.Proofs.Parser.Reachable
import Scriptlet.Proofs.Token.Literal
import Scriptlet.Proofs.Writing.Spelling

/-! The names and literals of every tree are well formed, since its tokens are: what a token holds
goes by its kind, wherever a parser stands. -/

namespace Scriptlet

/-- A name is a word and no keyword, a number has no sign, and a payload has no quote and no
backslash at its end that another backslash does not precede. -/
def Leaf.Proper : Leaf → Prop
  | .name spelling => IsName spelling
  | .number value => value.Unsigned
  | .string payload => Escaped payload.toList

namespace TokenKind

/-- A word that is an identifier is no keyword. -/
theorem keyword?_of_ofWord {word : String} (identifier : ofWord word = .identifier) :
    keyword? word = none := by
  cases found : keyword? word with
  | none => rfl
  | some kind =>
    -- No keyword has the kind of identifiers.
    have keyword : kind ∈ keywords := List.mem_of_find?_eq_some found
    rw [ofWord, found, Option.getD_some] at identifier
    rw [identifier] at keyword
    exact absurd keyword (by decide)

end TokenKind

namespace Token.Written

variable {token : Token} {name payload : String}

/-- An identifier that is written is a word and no keyword. -/
theorem isName (written : token.Written) (kind : token.kind = .identifier)
    (value : token.value = .text name) : IsName name := by
  obtain ⟨lexeme, next, line, fits, own⟩ := written
  cases lexeme with
  | word spelling =>
    obtain rfl := Option.some.inj own
    obtain rfl := TokenValue.text.inj value
    refine ⟨?_, TokenKind.keyword?_of_ofWord kind⟩
    rw [String.toList_ofList]
    exact fits.1
  | mark mark =>
    -- Identifiers are not spelled in one way.
    obtain rfl := Option.some.inj own
    obtain ⟨-, spelling, spelled, -⟩ := fits.1
    rw [show mark = .identifier from kind] at spelled
    cases spelled
  | number _ _ | string _ =>
    obtain rfl := Option.some.inj own
    cases kind
  | _ => cases own

/-- The payload of a string that is written ends at the first quote that no backslash takes. -/
theorem escaped (written : token.Written) (kind : token.kind = .string)
    (value : token.value = .text payload) : Escaped payload.toList := by
  obtain ⟨lexeme, next, line, fits, own⟩ := written
  cases lexeme with
  | string spelling =>
    obtain rfl := Option.some.inj own
    obtain rfl := TokenValue.text.inj value
    rw [String.toList_ofList]
    exact fits
  | word spelling =>
    -- A word is a keyword or an identifier.
    obtain rfl := Option.some.inj own
    rcases TokenKind.ofWord_cases (String.ofList spelling) with keyword | identifier
    · rw [show TokenKind.ofWord (String.ofList spelling) = .string from kind] at keyword
      exact absurd keyword (by decide)
    · cases identifier.symm.trans kind
  | mark mark =>
    obtain rfl := Option.some.inj own
    obtain ⟨-, spelling, spelled, -⟩ := fits.1
    rw [show mark = .string from kind] at spelled
    cases spelled
  | number _ _ =>
    obtain rfl := Option.some.inj own
    cases kind
  | _ => cases own

/-- What a token that is written brings along is well formed. -/
theorem proper (written : token.Written) {leaf : Leaf} (same : token.content = leaf.content) :
    leaf.Proper := by
  obtain ⟨kind, value⟩ := Prod.mk.inj same
  -- Numbers go by the value alone, since no other token has a numeric one.
  cases leaf with
  | name spelling => exact written.isName kind value
  | number value' => exact (written.literal value).unsigned
  | string payload => exact written.escaped kind value

end Token.Written

namespace Parser

variable {p q : Parser} {token : Token} {context : String}

/-- An identifier that has been taken has a name, and is taken for it. -/
theorem Ready.name_of_take (ready : p.Ready) (took : take .identifier context p = .ok token q) :
    ∃ spelling, token.value = .text spelling ∧ IsName spelling ∧
      name context p = .ok spelling q := by
  rcases ready.take_cases .identifier context with ⟨_, front, kind, took'⟩ | ⟨error, stop, -⟩
  · -- What was taken is the first token, and written tokens of this kind have text.
    cases took'.symm.trans took
    have look := ready.head?_upcoming ▸ front
    have written := ready.written token look
    obtain ⟨spelling, value⟩ := written.text_of_kind (by simp [kind])
    exact ⟨spelling, value, written.isName kind value, name_apply kind value context p look⟩
  · cases stop.symm.trans took

/-- Where a number comes next, it is taken, and is the number of its token. -/
theorem Ready.primaryOf_number (ready : p.Ready) (next : p.kind? = some .number)
    (expression : Parse Expr) (bound : Nat) :
    ∃ token value, advance p = .ok (some token) p.pull ∧ token.value = .number value ∧
      primaryOf expression bound p = .ok (.number value) p.pull := by
  -- A token in front of a ready parser was written as its kind tells, so it holds a number.
  obtain ⟨token, front, kind⟩ := Option.map_eq_some_iff.mp next
  obtain ⟨value, holds⟩ := (ready.written token front).number_iff.mp kind
  refine ⟨token, value, by rw [advance, front], holds, ?_⟩
  rw [primaryOf, bind_apply, peek, next]
  exact (literal_apply p front).trans (by rw [holds])

/-- Where a string comes next, it is taken, and is the string of its token. -/
theorem Ready.primaryOf_string (ready : p.Ready) (next : p.kind? = some .string)
    (expression : Parse Expr) (bound : Nat) :
    ∃ token payload, advance p = .ok (some token) p.pull ∧ token.value = .text payload ∧
      primaryOf expression bound p = .ok (.string payload) p.pull := by
  -- As for a number, with the payload that a string's token holds.
  obtain ⟨token, front, kind⟩ := Option.map_eq_some_iff.mp next
  obtain ⟨payload, holds⟩ := (ready.written token front).text_of_kind (by simp [kind])
  refine ⟨token, payload, by rw [advance, front], holds, ?_⟩
  rw [primaryOf, bind_apply, peek, next]
  exact (literal_apply p front).trans (by rw [holds])

end Parser

open Scriptlet.Parser

/-- Whatever a source holds, and however many defects it has, each name in the program that is read
is a word and no keyword, each number has no sign, and each payload has no quote and no backslash at
its end that another backslash does not precede; and each comes from a token of its kind, so that
numbers and strings are not taken for each other. For wherever a parser comes to, its lookahead is a
number exactly if it has a numeric value; so an identifier that has been taken always has a name,
and a number or a string that comes next is always taken for what it is. -/
theorem leaves_proper :
    (∀ (limit : Nat) (source : String) (edges : List Edge) (node : Node),
      (Node.program (parseWithin limit source).program).Path edges node →
        ∀ leaf ∈ node.leaves, leaf.Proper ∧ leaf.From (tokenize source)) ∧
    ∀ (limit : Nat) (source : String) (p : Parser), Reaches (ofSource source limit) p →
      (∀ token, p.lookahead = some token →
        (token.kind = .number ↔ ∃ value, token.value = .number value)) ∧
      (∀ (context : String) (token : Token) (q : Parser),
        take .identifier context p = .ok token q →
          ∃ spelling, token.value = .text spelling ∧ IsName spelling ∧
            name context p = .ok spelling q) ∧
      ∀ (expression : Parse Expr) (bound : Nat),
        (p.kind? = some .number → ∃ token value, advance p = .ok (some token) p.pull ∧
          token.value = .number value ∧
          primaryOf expression bound p = .ok (.number value) p.pull) ∧
        (p.kind? = some .string → ∃ token payload, advance p = .ok (some token) p.pull ∧
          token.value = .text payload ∧
          primaryOf expression bound p = .ok (.string payload) p.pull) := by
  refine ⟨fun limit source edges node path leaf member => ?_, fun limit source p reaches => ?_⟩
  · obtain ⟨kept, n, sublist, whole, -⟩ := parseWithin_reads limit source
    have drawn := whole.drawn sublist.subset edges node path leaf member
    -- All tokens of a source are written, the one that brings the leaf along too.
    obtain ⟨ready, front, -⟩ := ofSource_view source limit
    obtain ⟨token, among, same⟩ := drawn
    have written := ready.written_of_mem (front ▸ among)
    exact ⟨written.proper same, token, among, same⟩
  · have ready := reaches.sound.ready
    exact ⟨fun token front => (ready.written token front).number_iff,
      fun context token q => ready.name_of_take, fun expression bound =>
        ⟨fun next => ready.primaryOf_number next expression bound,
          fun next => ready.primaryOf_string next expression bound⟩⟩

/-- Behind a defect a payload with a quote that a backslash takes is read as it is written. -/
theorem leaves_proper_salvaged :
    let program := (parseWithin 3 "x = ; y = f(\"\\\"\");").program
    let edges : List Edge := [.plain, .value, .argument]
    (Node.program program).Path edges (.expr (.string "\\\"")) ∧
      (Leaf.string "\\\"").Proper ∧
      (Leaf.string "\\\"").From (tokenize "x = ; y = f(\"\\\"\");") := by
  -- The tree is computed, the way down to the payload is spelled out in it.
  intro program edges
  have read : program = ⟨[.assignment 1 "y" (.call "f" [.string "\\\""])]⟩ := by
    decide +kernel
  have path : (Node.program program).Path edges (.expr (.string "\\\"")) := by
    rw [read]
    exact .down (List.mem_singleton_self _) (.down (List.mem_singleton_self _)
      (.down (List.mem_singleton_self _) (.here _)))
  exact ⟨path, leaves_proper.1 3 _ edges _ path _ (List.mem_singleton_self _)⟩

end Scriptlet
