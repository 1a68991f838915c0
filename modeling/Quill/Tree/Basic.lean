import Quill.Token
import Quill.Data.Value

set_option autoImplicit false

/-! Trees of Quill programs. An expression is a literal, a variable, a member access by name or
by index, a call, an array, a map from texts to expressions, a binary, unary or update
operation; a statement is an assignment, an expression or a block; a program is the list of
its top-level statements. Every node keeps the position of the token it starts at. -/
namespace Quill

/-- The binary operators. -/
inductive BinaryOp where
  | add | sub | mul | div | mod | eq | neq | lt | gt | lte | gte | and | or
deriving DecidableEq, Repr, Inhabited

namespace BinaryOp

/-- Every binary operator. -/
def all : List BinaryOp := [add, sub, mul, div, mod, eq, neq, lt, gt, lte, gte, and, or]

/-- The token kind that writes the operator. -/
def token : BinaryOp → TokenKind
  | add => .add | sub => .sub | mul => .mul | div => .div | mod => .mod
  | eq => .eq | neq => .neq | lt => .lt | gt => .gt | lte => .lte | gte => .gte
  | and => .and | or => .or

/-- The upper-case name of the operator. -/
def name (op : BinaryOp) : String := op.token.name

/-- The source text of the operator. -/
def symbol (op : BinaryOp) : String := op.token.symbol?.getD ""

/-- How tightly the operator binds. -/
def precedence (op : BinaryOp) : Nat := op.token.precedence

/-- The operator that a token kind writes. -/
def ofToken? (k : TokenKind) : Option BinaryOp := all.find? (·.token == k)

/-- The operator with the given name. -/
def ofName? (s : String) : Option BinaryOp := all.find? (·.name == s)

end BinaryOp

/-- The unary operators: logical not, plus and minus. -/
inductive UnaryOp where
  | not | plus | minus
deriving DecidableEq, Repr, Inhabited

namespace UnaryOp

/-- Every unary operator. -/
def all : List UnaryOp := [not, plus, minus]

/-- The upper-case name of the operator. -/
def name : UnaryOp → String
  | not => "NOT" | plus => "PLUS" | minus => "MINUS"

/-- The source text of the operator. -/
def symbol : UnaryOp → String
  | not => "!" | plus => "+" | minus => "-"

/-- The token kind that writes the operator. -/
def token : UnaryOp → TokenKind
  | not => .not | plus => .add | minus => .sub

/-- The operator that a token kind writes. -/
def ofToken? (k : TokenKind) : Option UnaryOp := all.find? (·.token == k)

/-- The operator with the given name. -/
def ofName? (s : String) : Option UnaryOp := all.find? (·.name == s)

end UnaryOp

/-- The update operators: increment and decrement. -/
inductive UpdateOp where
  | inc | dec
deriving DecidableEq, Repr, Inhabited

namespace UpdateOp

/-- The upper-case name of the operator. -/
def name : UpdateOp → String
  | inc => "INC" | dec => "DEC"

/-- The source text of the operator. -/
def symbol : UpdateOp → String
  | inc => "++" | dec => "--"

/-- The operator that a token kind writes. -/
def ofToken? : TokenKind → Option UpdateOp
  | .inc => some inc | .dec => some dec | _ => none

/-- The operator with the given name. -/
def ofName? : String → Option UpdateOp
  | "INC" => some inc | "DEC" => some dec | _ => none

end UpdateOp

/-- The key of a map entry: its text and where it is written. -/
structure MapKey where
  text : String
  pos : Position
deriving DecidableEq, Repr, Inhabited

/-- Expressions. -/
inductive Expr where
  /-- A constant with the text it was written as. -/
  | literal (value : Data) (raw : String) (pos : Position)
  /-- A variable. -/
  | var (name : String) (pos : Position)
  /-- A member chosen by name, `object.name`. -/
  | field (object : Expr) (name : String) (namePos : Position) (pos : Position)
  /-- A member chosen by an expression, `object[key]`. -/
  | index (object : Expr) (key : Expr) (pos : Position)
  /-- A call. -/
  | call (callee : Expr) (args : List Expr) (pos : Position)
  /-- An array. -/
  | array (items : List Expr) (pos : Position)
  /-- A map from texts to expressions, entries in source order. -/
  | map (entries : List (MapKey × Expr)) (pos : Position)
  /-- A binary operation. -/
  | binary (op : BinaryOp) (lhs rhs : Expr) (pos : Position)
  /-- A unary operation. -/
  | unary (op : UnaryOp) (arg : Expr) (pos : Position)
  /-- An update; `before` tells whether the operator stands before its argument. -/
  | update (op : UpdateOp) (arg : Expr) (before : Bool) (pos : Position)
deriving Inhabited

namespace Expr

/-- The position of an expression. -/
def pos : Expr → Position
  | literal _ _ p | var _ p | field _ _ _ p | index _ _ p | call _ _ p | array _ p | map _ p
  | binary _ _ _ p | unary _ _ p | update _ _ _ p => p

/-- Whether an update may apply to the expression: variables and members. -/
def assignable : Expr → Bool
  | var .. | field .. | index .. => true
  | _ => false

end Expr

/-- Statements. -/
inductive Stmt where
  /-- An assignment to a variable, positioned at the variable's name. -/
  | assign (name : String) (value : Expr) (pos : Position)
  /-- An expression evaluated for its effect. -/
  | expr (e : Expr) (pos : Position)
  /-- A block of statements. -/
  | block (body : List Stmt) (pos : Position)
deriving Inhabited

/-- A program: its top-level statements and the position of its first token. -/
structure Program where
  body : List Stmt
  pos : Position
deriving Inhabited

end Quill
