import Quill.Tree.Format
import Quill.Tree.Parse

set_option autoImplicit false

/-! The formatter under the limit of the call stack. Every call of the formatter takes a level of
the stack, and so do the calls the interpreter makes on its behalf: the test of a node's kind,
the getter of an operator's symbol and its precedence lookup, the generator whose items a list
joins, the pattern that matches a number's written text, and the quoting of a string. A
formatting whose calls nest past the limit stops at the first call in its order of evaluation
that finds no room, with a recursion error whose message tells how that call was made. -/
namespace Quill

/-- How a call nested past the limit of the call stack is reported: a call the interpreter makes
on the program's behalf (a descriptor, a constructor or a builtin) says so, turning a value into
text says which way, a plain call says nothing, and the one-line JSON encoder names itself. -/
inductive Overflow where
  | direct
  | objectCall
  | strOf
  | reprOf
  | encoding
deriving DecidableEq, Repr

/-- The message of a recursion error. -/
def Overflow.message : Overflow → String
  | .direct => "maximum recursion depth exceeded"
  | .objectCall => "maximum recursion depth exceeded while calling a Python object"
  | .strOf => "maximum recursion depth exceeded while getting the str of an object"
  | .reprOf => "maximum recursion depth exceeded while getting the repr of an object"
  | .encoding => "maximum recursion depth exceeded while encoding a JSON object"

/-- The first call past the limit that writing a literal's value makes, `room` levels below the
literal's own call: a string is quoted by a helper whose joined generator runs two levels deeper
still; any other value has its written text matched against a pattern, and when that text is not
plain digits the value is displayed one level further down. -/
def literalOverflow (room : Nat) (value raw : Data) : Option Overflow :=
  match value with
  | .null | .bool _ => none
  | .text _ => if room < 3 then some .direct else none
  | _ =>
    if room = 0 then some .objectCall
    else match raw with
      | .text r => if room = 1 ∧ isNumberText r = false then some .reprOf else none
      | _ => none

mutual

/-- The first call past the limit that formatting an expression makes, when the call that
formats it has `room` levels of the stack left; `none` when every call fits. The call itself
takes a level, and the test of the expression's kind one more. -/
def Expr.formatOverflow : Nat → Expr → Option Overflow
  | 0, _ => some .direct
  | 1, _ => some .objectCall
  | r + 2, .literal v raw _ => literalOverflow r v (.text raw)
  | _ + 2, .var .. => none
  | r + 2, .field obj _ _ _ => obj.formatOverflow r
  | r + 2, .index obj key _ => obj.formatOverflow r <|> key.formatOverflow (r + 1)
  | r + 2, .call callee args _ =>
    (if r = 0 then some .direct else Expr.listFormatOverflow (r - 1) args) <|>
      callee.formatOverflow r
  | r + 2, .array items _ => if r = 0 then some .direct else Expr.listFormatOverflow (r - 1) items
  | r + 2, .map entries _ =>
    if r = 0 then some .direct else Expr.entriesFormatOverflow (r - 1) entries
  | r + 2, .binary _ lhs rhs _ =>
    -- the precedence lookup calls the symbol's getter, which calls the value's accessor
    if r < 3 then some .direct else lhs.formatOverflow r <|> rhs.formatOverflow r
  | r + 2, .unary _ arg _ => if r = 0 then some .direct else arg.formatOverflow (r + 1)
  | r + 2, .update _ arg _ _ => arg.formatOverflow (r + 1) <|> if r = 0 then some .direct else none

/-- The first call past the limit in formatting the items of a list, each by a call with `room`
levels left. -/
def Expr.listFormatOverflow (room : Nat) : List Expr → Option Overflow
  | [] => none
  | e :: rest => e.formatOverflow room <|> Expr.listFormatOverflow room rest

/-- The first call past the limit in formatting map entries: each key is quoted, then its value
formatted, by calls with `room` levels left. -/
def Expr.entriesFormatOverflow (room : Nat) : List (MapKey × Expr) → Option Overflow
  | [] => none
  | (_, v) :: rest =>
    (if room < 3 then some .direct else v.formatOverflow room) <|>
      Expr.entriesFormatOverflow room rest

end

mutual

/-- The first call past the limit that formatting a statement makes, when its call has `room`
levels left. -/
def Stmt.formatOverflow : Nat → Stmt → Option Overflow
  | 0, _ => some .direct
  | 1, _ => some .objectCall
  | r + 2, .assign _ value _ => value.formatOverflow (r + 1)
  | r + 2, .expr e _ => e.formatOverflow (r + 1)
  | r + 2, .block body _ => Stmt.listFormatOverflow (r + 1) body

/-- The first call past the limit in formatting statements one after another. -/
def Stmt.listFormatOverflow (room : Nat) : List Stmt → Option Overflow
  | [] => none
  | s :: rest => s.formatOverflow room <|> Stmt.listFormatOverflow room rest

end

/-- The first call past the limit in building a formatter and formatting a program with it: the
constructor is called on the program's behalf and runs its initializer a level deeper, then the
program's statements are formatted a level down. -/
def Program.formatOverflow : Nat → Program → Option Overflow
  | 0, _ => some .objectCall
  | 1, _ => some .direct
  | r + 2, p => Stmt.listFormatOverflow (r + 1) p.body

/-- The first call past the limit in building a formatter and formatting an expression with it. -/
def Expr.formatterOverflow : Nat → Expr → Option Overflow
  | 0, _ => some .objectCall
  | 1, _ => some .direct
  | r + 2, e => e.formatOverflow (r + 2)

/-- The text of a program formatted with indentation width `width` by a formatter built at level
`depth` of the stack, or the recursion error that stops it. -/
def Program.formatAt (depth : Nat) (width : Int) (p : Program) : Except Overflow String :=
  match p.formatOverflow (Parse.stackLimit - depth) with
  | none => .ok (p.format width)
  | some o => .error o

/-- The text of a program formatted by the package's own entry point called at level `depth`,
which builds the formatter with the default width two calls further down. -/
def Program.formatDefaultAt (depth : Nat) (p : Program) : Except Overflow String :=
  if Parse.stackLimit ≤ depth + 1 then .error .direct else p.formatAt (depth + 2) 2

/-- The text of an expression formatted by a formatter built at level `depth` of the stack, or
the recursion error that stops it. -/
def Expr.formatAt (depth : Nat) (e : Expr) : Except Overflow String :=
  match e.formatterOverflow (Parse.stackLimit - depth) with
  | none => .ok e.format
  | some o => .error o

end Quill
