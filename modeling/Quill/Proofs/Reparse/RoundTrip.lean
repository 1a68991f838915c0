import Quill.Proofs.Reparse.Statement
import Quill.Proofs.Parse.Parsable

set_option autoImplicit false

/- Formatting what the parser built and parsing the text again gives the tree back, up to
positions and keyword case, whenever the stack has room for the tree's height. -/
namespace Quill

/-- Formatting a parsed program or expression and parsing the text again gives it back, positions
and keyword case aside, when the stack has room for the tree's height. -/
theorem reparse_formatted (s : String) (width : Int) :
    (∀ t : Program, parseProgram s = .ok t →
      Parse.textDepth + 5 * t.height + 13 ≤ Parse.stackLimit →
      ∃ t', parseProgram (t.format width) = .ok t' ∧ t'.erase = t.erase ∧
        t'.format width = t.format width) ∧
    (∀ e : Expr, parseExpression s = .ok e →
      Parse.textDepth + 5 * e.height + 10 ≤ Parse.stackLimit →
      ∃ e', parseExpression e.format = .ok e' ∧ e'.erase = e.erase ∧
        e'.format = e.format) := by
  constructor
  · intro t parsed room
    obtain ⟨t', reparsed, same⟩ :=
      Program.parse_format (parseProgram_parsable parsed) room width
    exact ⟨t', reparsed, same, Program.format_eq_of_erase same width⟩
  · intro e parsed room
    obtain ⟨e', reparsed, same⟩ := Expr.parse_format (parseExpression_parsable parsed) room
    exact ⟨e', reparsed, same, Expr.format_eq_of_erase same⟩

theorem reparse_formatted_negation :
    (∃ t : Program, parseProgram "x = - -y;" = .ok t ∧
      Parse.textDepth + 5 * t.height + 13 ≤ Parse.stackLimit ∧
      ∃ t', parseProgram (t.format 2) = .ok t' ∧ t'.erase = t.erase ∧
        t'.format 2 = t.format 2) ∧
    (∃ e : Expr, parseExpression "- -y" = .ok e ∧
      Parse.textDepth + 5 * e.height + 10 ≤ Parse.stackLimit ∧
      ∃ e', parseExpression e.format = .ok e' ∧ e'.erase = e.erase ∧
        e'.format = e.format) := by
  have program : parseProgram "x = - -y;" = .ok ⟨[.assign "x" (.unary .minus
      (.unary .minus (.var "y" ⟨1, 8, 7⟩) ⟨1, 7, 6⟩)
        ⟨1, 5, 4⟩) ⟨1, 1, 0⟩], ⟨1, 1, 0⟩⟩ := by
    cbv
  have expression : parseExpression "- -y" = .ok (.unary .minus
      (.unary .minus (.var "y" ⟨1, 4, 3⟩) ⟨1, 3, 2⟩) ⟨1, 1, 0⟩) := by
    cbv
  exact ⟨⟨_, program, by decide, (reparse_formatted _ 2).1 _ program (by decide)⟩,
    ⟨_, expression, by decide, (reparse_formatted _ 0).2 _ expression (by decide)⟩⟩

end Quill
