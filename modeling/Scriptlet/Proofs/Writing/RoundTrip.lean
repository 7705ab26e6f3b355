import Scriptlet.Proofs.Parser.Acceptance
import Scriptlet.Proofs.Parser.Lexical
import Scriptlet.Proofs.Writing.Derivation

/-! Reading gives back the program that was written. -/

namespace Scriptlet

open Lexeme

/-- A program of items that can all be written. -/
def Program.Writable (decimals : Decimals) (program : Program) : Prop :=
  Item.AllWritable decimals program.items

/-- Without syntax defects and without lexical ones, nothing was wrong. -/
theorem Output.diagnostics_eq_nil (output : Output) (noSyntactic : output.hasErrors = false)
    (noLexical : output.diagnostics.filterMap Diagnostic.lexical? = []) :
    output.diagnostics = [] := by
  rw [List.eq_nil_iff_forall_not_mem]
  intro diagnostic member
  -- Every diagnostic is of one of the sorts.
  cases diagnostic with
  | lexical error =>
    have none := List.filterMap_eq_nil_iff.mp noLexical _ member
    simp [Diagnostic.lexical?] at none
  | syntactic error =>
    have other := List.any_eq_false.mp noSyntactic _ member
    simp [Diagnostic.isSyntactic] at other

/-- The lexemes of a program that can be written are what its text is made of. -/
theorem Program.scan_written {decimals : Decimals} {program : Program}
    (writable : program.Writable decimals) :
    Spell (Item.allLexemes decimals program.items) (tokenize (program.written decimals)) ∧
      (tokenizeWithErrors (program.written decimals)).2 = [] := by
  have solid := Item.allSolid_allLexemes program.items writable
  have stands : (Lexer.ofSource (program.written decimals)).rest =
      joined (spaced (Item.allLexemes decimals program.items)) := String.toList_ofList
  -- The spaces keep the lexemes apart, so that the lexer meets each one as it was written.
  obtain ⟨tokens, defects, -⟩ := Lexer.drain_fitting (fitting_spaced solid) rfl stands
  constructor
  · rw [Spell, ← contents_spaced]
    exact (congrArg (List.map Token.content) tokens).trans (content_tokens _ _)
  · exact defects.trans (by rw [defects_spaced solid]; rfl)

/-- A program that can be written is read back from its text, up to the lines where its items
stand, and nothing is wrong with the text. -/
theorem parseWithin_written (decimals : Decimals) (program : Program) (limit : Nat)
    (writable : program.Writable decimals)
    (enough : (tokenize (program.written decimals)).length < limit) :
    (parseWithin limit (program.written decimals)).diagnostics = [] ∧
      (parseWithin limit (program.written decimals)).program.mapLines (fun _ => 0) =
        program.mapLines (fun _ => 0) := by
  -- The grammar derives the program from the tokens of its text.
  obtain ⟨spell, clean⟩ := Program.scan_written writable
  obtain ⟨items, n, whole, same, shallow⟩ := Grammar.derives_items program.items writable _ spell
  -- What nests no deeper than there are tokens stays within the limit.
  obtain ⟨accepted, read⟩ :=
    parseWithin_of_source (.intro whole) (Nat.le_trans shallow (Nat.le_of_lt enough))
  refine ⟨Output.diagnostics_eq_nil _ accepted ?_, ?_⟩
  · rw [lexicalErrors_parseWithin, clean]
  · rw [read, Program.mapLines, Program.mapLines, same]

/-- A product whose left operand is a sum is read back from a text with parentheses around the sum
only. -/
theorem parseWithin_written_product :
    let decimals : Decimals := fun _ => (['2'], ['5'])
    let program : Program := ⟨[.returned 7 (.binary .multiply
      (.binary .add (.identifier "x") (.number (.int 1)))
      (.number (.float ⟨0x4004000000000000⟩)))]⟩
    program.written decimals = "return ( x + 1 ) * 2.5 ;" ∧ program.Writable decimals ∧
      (tokenize (program.written decimals)).length < 10 ∧
      (parseWithin 10 (program.written decimals)).diagnostics = [] ∧
      (parseWithin 10 (program.written decimals)).program.mapLines (fun _ => 0) =
        program.mapLines (fun _ => 0) := by
  -- Only the writable parts are shown by hand: the name, the integer
  -- and the two digits of the float.
  intro decimals program
  have written : program.written decimals = "return ( x + 1 ) * 2.5 ;" := by decide +kernel
  have isName : IsName "x" := ⟨⟨'x', [], rfl, .inl rfl, by simp⟩, by decide⟩
  have literal : Number.ofDigits ['2'] (some ['5']) = .float ⟨0x4004000000000000⟩ := by
    decide +kernel
  have writable : program.Writable decimals := by
    refine ⟨⟨⟨isName, by decide, by decide⟩, ?_⟩, trivial⟩
    exact ⟨by simp [decimals], by simp [decimals], by simp [decimals], literal⟩
  have enough : (tokenize (program.written decimals)).length < 10 := by
    rw [written]
    decide +kernel
  exact ⟨written, writable, enough, parseWithin_written decimals program 10 writable enough⟩

end Scriptlet
