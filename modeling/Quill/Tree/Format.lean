import Quill.Tree.Basic

set_option autoImplicit false

/-! The canonical text of a tree. One statement a line, each ending in `;`, the statements of a
block indented one level deeper than its braces, and an empty block written `{};`. Binary
operations are spaced and take parentheses only where precedence or left association needs
them: around a left operand that binds more loosely, and around a right operand that does not
bind more tightly. A unary operand takes parentheses when it is a binary operation or when its
text starts with the operator's own sign. Calls, accesses and postfix updates apply directly to
literals, names, accesses, calls, arrays, maps and postfix updates, and to anything else in
parentheses. Strings are double-quoted with `\ " \n \t \r` and the null character escaped;
numbers keep their written text when it is plain digits with an optional fraction. -/
namespace Quill

/-- How one character of a string is written between double quotes. -/
def stringChar (c : Char) : String :=
  match c with
  | '\\' => "\\\\"
  | '"' => "\\\""
  | '\n' => "\\n"
  | '\t' => "\\t"
  | '\r' => "\\r"
  | '\x00' => "\\0"
  | c => c.toString

/-- A string in double quotes. -/
def quoteString (s : String) : String :=
  "\"" ++ String.join (s.toList.map stringChar) ++ "\""

/-- Whether a text is plain digits with an optional point and more digits. -/
def isNumberText (s : String) : Bool :=
  let isDigit (c : Char) : Bool := '0' ≤ c && c ≤ '9'
  let cs := s.toList
  let whole := cs.takeWhile isDigit
  match cs.dropWhile isDigit with
  | [] => !whole.isEmpty
  | '.' :: rest => !whole.isEmpty && !rest.isEmpty && rest.all isDigit
  | _ => false

/-- The text of a literal: `null`, `true`, `false`, a quoted string, the written text of a
plain number, or else the display of the value. -/
def literalText (value : Data) (raw : String) : String :=
  match value with
  | .null => "null"
  | .bool b => if b then "true" else "false"
  | .text s => quoteString s
  | v => if isNumberText raw then raw else v.display

namespace Expr

/-- Whether calls, accesses and postfix updates apply to the expression without parentheses. -/
def standsAlone : Expr → Bool
  | literal .. | var .. | field .. | index .. | call .. | array .. | map .. => true
  | update _ _ before _ => !before
  | _ => false

/-- The binding strength of an expression when it is a binary operation. -/
def binaryPrecedence? : Expr → Option Nat
  | binary op _ _ _ => some op.precedence
  | _ => none

end Expr

/-- The text `t` of an operand of a call, access or postfix update: bare when the operand
stands alone, else in parentheses. -/
def operandText (alone : Bool) (t : String) : String :=
  if alone then t else "(" ++ t ++ ")"

/-- The text of `lhs op rhs` from the binding strengths of its operands (for those that are
binary operations) and their texts. -/
def binaryText (op : BinaryOp) (lp rp : Option Nat) (lt rt : String) : String :=
  let lt := match lp with
    | some p => if p < op.precedence then "(" ++ lt ++ ")" else lt
    | none => lt
  let rt := match rp with
    | some p => if p ≤ op.precedence then "(" ++ rt ++ ")" else rt
    | none => rt
  lt ++ " " ++ op.symbol ++ " " ++ rt

/-- Whether a unary operator is a sign, whose operand must not start with the same sign. -/
def UnaryOp.isSign (op : UnaryOp) : Bool := op == .plus || op == .minus

/-- The text of a unary operation whose operand's text is `t`; `paren` tells whether the
operand needs parentheses. -/
def unaryWith (op : UnaryOp) (paren : Bool) (t : String) : String :=
  if paren then op.symbol ++ "(" ++ t ++ ")" else op.symbol ++ t

/-- The text of a unary operation from its operand's text: the operand takes parentheses when
it is a binary operation (`binaryArg`) or starts with the operator's own sign. -/
def unaryText (op : UnaryOp) (binaryArg : Bool) (t : String) : String :=
  unaryWith op (binaryArg || (op.isSign && t.startsWith op.symbol)) t

mutual

/-- The canonical text of an expression. -/
def Expr.format : Expr → String
  | .literal v raw _ => literalText v raw
  | .var name _ => name
  | .field obj name _ _ => operandText obj.standsAlone obj.format ++ "." ++ name
  | .index obj key _ => operandText obj.standsAlone obj.format ++ "[" ++ key.format ++ "]"
  | .call callee args _ =>
    operandText callee.standsAlone callee.format ++ "(" ++ Expr.formatList args ++ ")"
  | .array items _ => "[" ++ Expr.formatList items ++ "]"
  | .map entries _ => "\x7b" ++ Expr.formatEntries entries ++ "\x7d"
  | .binary op lhs rhs _ =>
    binaryText op lhs.binaryPrecedence? rhs.binaryPrecedence? lhs.format rhs.format
  | .unary op arg _ => unaryText op arg.binaryPrecedence?.isSome arg.format
  | .update op arg before _ =>
    if before then op.symbol ++ arg.format else arg.format ++ op.symbol

/-- Texts of expressions separated by commas. -/
def Expr.formatList : List Expr → String
  | [] => ""
  | [e] => e.format
  | e :: rest => e.format ++ ", " ++ Expr.formatList rest

/-- Texts of map entries separated by commas. -/
def Expr.formatEntries : List (MapKey × Expr) → String
  | [] => ""
  | [(k, v)] => quoteString k.text ++ ": " ++ v.format
  | (k, v) :: rest => quoteString k.text ++ ": " ++ v.format ++ ", " ++ Expr.formatEntries rest

end

/-- The indentation unit: `width` spaces, none when `width` is not positive. -/
def indentUnit (width : Int) : String := String.ofList (List.replicate width.toNat ' ')

mutual

/-- The lines of a statement at nesting depth `depth`, with indentation unit `unit`. -/
def Stmt.lines (unit : String) (depth : Nat) : Stmt → List String
  | .assign name value _ =>
    [String.join (List.replicate depth unit) ++ name ++ " = " ++ value.format ++ ";"]
  | .expr e _ => [String.join (List.replicate depth unit) ++ e.format ++ ";"]
  | .block body _ =>
    let pad := String.join (List.replicate depth unit)
    if body.isEmpty then [pad ++ "\x7b\x7d;"]
    else [pad ++ "\x7b"] ++ Stmt.linesList unit (depth + 1) body ++ [pad ++ "\x7d;"]

/-- The lines of a list of statements at nesting depth `depth`. -/
def Stmt.linesList (unit : String) (depth : Nat) : List Stmt → List String
  | [] => []
  | s :: rest => Stmt.lines unit depth s ++ Stmt.linesList unit depth rest

end

/-- The canonical text of a program with indentation width `width`: its lines, each ended by a
line feed (a program with no statements is a single line feed). -/
def Program.format (width : Int) (p : Program) : String :=
  "\n".intercalate (Stmt.linesList (indentUnit width) 0 p.body) ++ "\n"

end Quill
