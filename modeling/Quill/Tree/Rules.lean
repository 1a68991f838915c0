import Quill.Tree.Parse

set_option autoImplicit false

/-! The grammar rules that can be run on their own from a cursor, one after another on the same
cursor: a failed rule leaves the cursor where it stopped, and the next rule goes on from
there. -/
namespace Quill

/-- A grammar rule. -/
inductive Rule where
  | program | statement | block | assignment | expression | primary | literal | identifier
  | unary | updateBefore | updateAfter | paren | array | map | arguments
deriving DecidableEq, Repr

/-- What a rule produces. -/
inductive Parsed where
  | program (p : Program)
  | stmt (s : Stmt)
  | expr (e : Expr)
  | exprs (es : List Expr)

/-- The parser of a rule. -/
def Rule.parser : Rule → Nat → Parser Parsed
  | .program, n => Parsed.program <$> Parse.programAt n
  | .statement, n => Parsed.stmt <$> Parse.statement n
  | .block, n => Parsed.stmt <$> Parse.block n
  | .assignment, n => Parsed.stmt <$> Parse.assignment n
  | .expression, n => Parsed.expr <$> Parse.expression n
  | .primary, n => Parsed.expr <$> Parse.primary n
  | .literal, _ => Parsed.expr <$> Parse.literal
  | .identifier, _ => Parsed.expr <$> Parse.identifier
  | .unary, n => Parsed.expr <$> Parse.unary n
  | .updateBefore, n => Parsed.expr <$> Parse.updateBefore n
  | .updateAfter, _ => Parsed.expr <$> Parse.updateAlone
  | .paren, n => Parsed.expr <$> Parse.paren n
  | .array, n => Parsed.expr <$> Parse.array n
  | .map, n => Parsed.expr <$> Parse.mapping n
  | .arguments, n => Parsed.exprs <$> Parse.arguments n

/-- The depth from which rules are called one by one. -/
def Rule.callDepth : Nat := 4

/-- The outcomes of rules run in order on one cursor, each with the token current after it. -/
def Rule.runAll (c : Cursor) : List Rule → List (Except ParseFailure Parsed × Token)
  | [] => []
  | r :: rs =>
    let (result, c') := Parser.runFrom r.parser Rule.callDepth c
    (result, c'.current) :: Rule.runAll c' rs

end Quill
