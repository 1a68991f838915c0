import Quill.Cursor
import Quill.Tree.Basic
import Quill.Decimal.Read
import Quill.Token.Scan

set_option autoImplicit false

/-! Parsing tokens into trees, by recursive descent over a cursor. A statement is an
assignment when it starts with a name followed by `=`, a block when it starts with `{` not
followed by `}` and whose second token after it is not `:`, and otherwise an expression; a `;`
ends it unless the input is over. A primary expression (literal, name, array, map,
parenthesised expression, prefix update or unary operation) takes any chain of calls, member
accesses, indexing and postfix updates; binary operators climb by precedence and associate to
the left. Every function takes fuel, one unit a call, and the entry points give more than any
parse of the tokens can use. Each grammar method also runs one call deeper than the one that
calls it, and its own token reading goes a few calls deeper still; a parse whose calls would
nest past a thousand fails, as runaway recursion does. -/
namespace Quill

/-- Why a number token's text gives no value. -/
inductive NumberFault where
  /-- An integer text that is not an integer. -/
  | notInteger (text : String)
  /-- An integer text with more digits than may be read. -/
  | tooManyDigits (count : Nat)
  /-- A decimal text that is not a decimal. -/
  | notDecimal (text : String)
deriving DecidableEq, Repr

/-- The message of a number fault. -/
def NumberFault.message : NumberFault → String
  | .notInteger t => "invalid literal for int() with base 10: " ++ Text.quoted t
  | .tooManyDigits n =>
    "Exceeds the limit (" ++ toString Decimal.digitLimit ++
      " digits) for integer string conversion: value has " ++ toString n ++
      " digits; use sys.set_int_max_str_digits() to increase the limit"
  | .notDecimal t => "could not convert string to float: " ++ Text.quoted t

/-- Why a parse stopped. -/
inductive ParseFailure where
  /-- A syntax error. -/
  | grammar (e : ParseError)
  /-- A number token whose text gives no value. -/
  | number (f : NumberFault)
  /-- A unary operation asked of a token that is no unary operator. -/
  | notUnary (k : TokenKind)
  /-- The fuel ran out. -/
  | exhausted
  /-- The calls nested past the limit of the call stack. -/
  | tooDeep
deriving Repr

/-- The message of a parse failure. -/
def ParseFailure.message : ParseFailure → String
  | .grammar e => e.message
  | .number f => f.message
  | .notUnary k =>
    "<TokenType." ++ k.name ++ ": " ++ toString ((TokenKind.all.idxOf k) + 1) ++ ">"
  | .exhausted => "the parse ran out of fuel"
  | .tooDeep => "maximum recursion depth exceeded"

/-- A parser: a step over the cursor that can fail, run at a depth of nested calls; a failure
keeps the cursor where the failing step left it. -/
abbrev Parser := ReaderT Nat (ExceptT ParseFailure (StateM Cursor))

namespace Parse

/-- How deep calls may nest. -/
def stackLimit : Nat := 1000

/-- How many calls below a grammar method its reading of tokens goes. -/
def leafReach : Nat := 4

/-- Runs `body` as a grammar method, one call deeper than its caller; it fails when its token
reading would nest past the limit. -/
def frame {α : Type} (body : Parser α) : Parser α := do
  let d := (← read) + 1
  if stackLimit < d + leafReach then throw .tooDeep
  withReader (fun _ => d) body

/-- The current token. -/
def current : Parser Token := do return (← get).current

/-- Consumes the current token. -/
def take : Parser Token := do
  let (t, c) := (← get).next
  set c
  return t

/-- Consumes a token of kind `k`, failing with `reason` (or the default reason). -/
def expect (k : TokenKind) (reason : String := "") : Parser Token := do
  match (← get).expect k reason with
  | .ok (t, c) => set c; return t
  | .error e => throw (.grammar e)

/-- Consumes a token of one of the kinds `ks`. -/
def expectOneOf (ks : List TokenKind) : Parser Token := do
  match (← get).expectOneOf ks with
  | .ok (t, c) => set c; return t
  | .error e => throw (.grammar e)

/-- The value of a number token's text: an integer unless the text has a point. -/
def numberValue (text : String) : Except NumberFault Data :=
  if text.contains '.' then
    match Decimal.readDecimal text with
    | some x => .ok (.float x)
    | none => .error (.notDecimal text)
  else
    match Decimal.readInteger text with
    | .ok n => .ok (.int n)
    | .error .malformed => .error (.notInteger text)
    | .error (.tooLong n) => .error (.tooManyDigits n)

/-- A literal from the current token, whatever its kind: a number token becomes its number,
any other its text. At the end of input the cursor stays. -/
def literal : Parser Expr := frame do
  let t ← take
  if t.kind == .number then
    match numberValue t.text with
    | .ok v => return .literal v t.text t.pos
    | .error f => throw (.number f)
  else return .literal (.text t.text) t.text t.pos

/-- The constant a name stands for, if it is `true`, `false` or `null` in any case. -/
def keyword? (name : String) : Option Data :=
  match name.toLower with
  | "true" => some (.bool true)
  | "false" => some (.bool false)
  | "null" => some .null
  | _ => none

/-- A name: a keyword constant, or a variable. -/
def identifier : Parser Expr := frame do
  let t ← expect .ident
  match keyword? t.text with
  | some v => return .literal v t.text t.pos
  | none => return .var t.text t.pos

/-- The error of an update applied to `arg`, reported at `arg`. -/
def badTarget (op : Token) (at_ : Position) : ParseFailure :=
  .grammar ⟨.invalidTarget, "Invalid left-hand side in update expression", at_, [], op⟩

/-- An update operator with no argument before it, which is always misplaced. -/
def updateAlone : Parser Expr := frame do
  let op ← expectOneOf [.inc, .dec]
  throw (badTarget op op.pos)

/-- A postfix update of `arg`. -/
def updateAfter (arg : Expr) : Parser Expr := frame do
  let op ← expectOneOf [.inc, .dec]
  match UpdateOp.ofToken? op.kind, arg.assignable with
  | some u, true => return .update u arg false arg.pos
  | _, _ => throw (badTarget op arg.pos)

mutual

/-- A statement with its terminator. -/
def statement : Nat → Parser Stmt
  | 0 => throw .exhausted
  | n + 1 => frame do
    let c ← get
    let tok := c.current
    let stmt ← if tok.kind == .ident && (c.peek 1).kind == .assign then assignment n
      else if tok.kind == .lbrace && (c.peek 1).kind != .rbrace && (c.peek 2).kind != .colon then
        block n
      else do
        let e ← expression n
        pure (Stmt.expr e tok.pos)
    if !(← get).atEnd then
      discard <| expect .semicolon "A statement must be terminated by a semicolon"
    return stmt

/-- A block: statements between braces. -/
def block : Nat → Parser Stmt
  | 0 => throw .exhausted
  | n + 1 => frame do
    let start ← expect .lbrace "A block must begin with an opening brace"
    let body ← statements n []
    discard <| expect .rbrace "A block must be closed by a brace"
    return .block body start.pos

/-- Statements up to a closing brace or the end of input; `acc` holds those read, latest
first. -/
def statements : Nat → List Stmt → Parser (List Stmt)
  | 0, _ => throw .exhausted
  | n + 1, acc => do
    if (← get).testAny [.rbrace, .eof] then return acc.reverse
    let s ← statement n
    statements n (s :: acc)

/-- An assignment `name = expression`. -/
def assignment : Nat → Parser Stmt
  | 0 => throw .exhausted
  | n + 1 => frame do
    let name ← expect .ident "An assignment must begin with a variable name"
    discard <| expect .assign "An assignment target must be followed by '='"
    let value ← expression n
    return .assign name.text value name.pos

/-- An expression: a primary expression and the binary operations that follow it. -/
def expression : Nat → Parser Expr
  | 0 => throw .exhausted
  | n + 1 => frame do
    let e ← primary n
    if (BinaryOp.ofToken? (← current).kind).isSome then frame (operations n e) else return e

/-- Binary operations applied to `left` while the current token is a binary operator. -/
def operations : Nat → Expr → Parser Expr
  | 0, _ => throw .exhausted
  | n + 1, left => do
    match BinaryOp.ofToken? (← current).kind with
    | some op =>
      let left ← operation n op left
      operations n left
    | none => return left

/-- One binary operation `left op right`, where the right operand first takes every operation
that binds tighter than `op`. -/
def operation : Nat → BinaryOp → Expr → Parser Expr
  | 0, _, _ => throw .exhausted
  | n + 1, op, left => frame do
    discard take
    let right ← primary n
    let right ← tighter n op.precedence right
    return .binary op left right left.pos

/-- The operations applied to `right` while the current operator binds tighter than `prec`. -/
def tighter : Nat → Nat → Expr → Parser Expr
  | 0, _, _ => throw .exhausted
  | n + 1, prec, right => do
    match BinaryOp.ofToken? (← current).kind with
    | some op =>
      if prec < op.precedence then
        let right ← operation n op right
        tighter n prec right
      else return right
    | none => return right

/-- A primary expression and its chain of calls, accesses and postfix updates. -/
def primary : Nat → Parser Expr
  | 0 => throw .exhausted
  | n + 1 => frame do
    let tok ← current
    let e ← match tok.kind with
      | .string | .number => literal
      | .ident => identifier
      | .lbracket => array n
      | .lbrace => mapping n
      | .lparen => paren n
      | .inc | .dec => updateBefore n
      | .not | .add | .sub => unary n
      | _ => throw (.grammar ⟨.unexpectedToken,
          "Unexpected token " ++ tok.kind.name ++ " of value " ++ Text.quoted tok.text,
          tok.pos, [], tok⟩)
    frame (suffixes n e)

/-- Calls, member accesses, indexing and postfix updates applied to `e`. -/
def suffixes : Nat → Expr → Parser Expr
  | 0, _ => throw .exhausted
  | n + 1, e => do
    match (← current).kind with
    | .lparen =>
      let args ← arguments n
      suffixes n (.call e args e.pos)
    | .dot =>
      let e ← member n e
      suffixes n e
    | .lbracket =>
      let e ← indexing n e
      suffixes n e
    | .inc | .dec =>
      let e ← updateAfter e
      suffixes n e
    | _ => return e

/-- A member access `.name`, with a call right after it taken as calling the member. -/
def member : Nat → Expr → Parser Expr
  | 0, _ => throw .exhausted
  | n + 1, obj => frame do
    discard <| expect .dot
    let name ← expect .ident "A member name must follow '.'"
    let e := Expr.field obj name.text name.pos obj.pos
    if (← get).test .lparen then
      let args ← arguments n
      return .call e args obj.pos
    return e

/-- An index access `[expression]`. -/
def indexing : Nat → Expr → Parser Expr
  | 0, _ => throw .exhausted
  | n + 1, obj => frame do
    discard <| expect .lbracket
    let key ← expression n
    discard <| expect .rbracket "A computed member access must be closed by a bracket"
    return .index obj key obj.pos

/-- A unary operation on a primary expression. -/
def unary : Nat → Parser Expr
  | 0 => throw .exhausted
  | n + 1 => frame do
    let op ← take
    let arg ← primary n
    match UnaryOp.ofToken? op.kind with
    | some u => return .unary u arg op.pos
    | none => throw (.notUnary op.kind)

/-- A prefix update of a primary expression. -/
def updateBefore : Nat → Parser Expr
  | 0 => throw .exhausted
  | n + 1 => frame do
    let op ← expectOneOf [.inc, .dec]
    let arg ← primary n
    match UpdateOp.ofToken? op.kind, arg.assignable with
    | some u, true => return .update u arg true op.pos
    | _, _ => throw (badTarget op arg.pos)

/-- A parenthesised expression, which is the expression itself. -/
def paren : Nat → Parser Expr
  | 0 => throw .exhausted
  | n + 1 => frame do
    discard <| expect .lparen
    let e ← expression n
    discard <| expect .rparen "A parenthesized expression must be closed by a parenthesis"
    return e

/-- An array `[a, b, …]`. -/
def array : Nat → Parser Expr
  | 0 => throw .exhausted
  | n + 1 => frame do
    let start ← expect .lbracket "An array must begin with an opening bracket"
    let items ← listed n .rbracket "Array elements must be separated by a comma" []
    discard <| expect .rbracket "An array must be closed by a bracket"
    return .array items start.pos

/-- Expressions separated by commas up to `close` or the end of input; `acc` holds those read,
latest first. -/
def listed : Nat → TokenKind → String → List Expr → Parser (List Expr)
  | 0, _, _, _ => throw .exhausted
  | n + 1, close, sep, acc => do
    if (← get).testAny [close, .eof] then return acc.reverse
    if !acc.isEmpty then discard <| expect .comma sep
    let e ← expression n
    listed n close sep (e :: acc)

/-- A map `{"key": value, …}`. -/
def mapping : Nat → Parser Expr
  | 0 => throw .exhausted
  | n + 1 => frame do
    let start ← expect .lbrace "A map must begin with an opening brace"
    let entries ← entries n []
    discard <| expect .rbrace "A map must be closed by a brace"
    return .map entries start.pos

/-- Map entries up to a closing brace or the end of input; `acc` holds those read, latest
first. -/
def entries : Nat → List (MapKey × Expr) → Parser (List (MapKey × Expr))
  | 0, _ => throw .exhausted
  | n + 1, acc => do
    if (← get).testAny [.rbrace, .eof] then return acc.reverse
    if !acc.isEmpty then discard <| expect .comma "Map entries must be separated by a comma"
    let key ← expect .string "A map key must be a string"
    discard <| expect .colon "A map key and value must be separated by a colon"
    let value ← expression n
    entries n ((⟨key.text, key.pos⟩, value) :: acc)

/-- An argument list `(a, b, …)`. -/
def arguments : Nat → Parser (List Expr)
  | 0 => throw .exhausted
  | n + 1 => frame do
    discard <| expect .lparen "An argument list must begin with an opening parenthesis"
    let args ← listed n .rparen "Arguments must be separated by a comma" []
    discard <| expect .rparen "An argument list must be closed by a parenthesis"
    return args

end

/-- The statements of a whole program; `acc` holds those read, latest first. -/
def program : Nat → List Stmt → Parser (List Stmt)
  | 0, _ => throw .exhausted
  | n + 1, acc => do
    if (← get).atEnd then return acc.reverse
    let s ← statement n
    program n (s :: acc)

/-- Fuel that no parse of the cursor's tokens can use up: each call consumes a token or is
one of a few calls in a row that do not. -/
def budget (c : Cursor) : Nat := 8 * (c.items.size + 2)

end Parse

/-- Runs a parser from cursor `c`, called at depth `depth`, with fuel for the tokens `c`
holds: its result, and the cursor where it stopped. -/
def Parser.runFrom {α : Type} (p : Nat → Parser α) (depth : Nat) (c : Cursor) :
    Except ParseFailure α × Cursor :=
  (((p (Parse.budget c)).run depth).run).run c

/-- The depth at which a program or expression is parsed from its text. -/
def Parse.textDepth : Nat := 6

/-- A whole program: its statements up to the end of input, positioned at the first token. -/
def Parse.programAt (n : Nat) : Parser Program := Parse.frame do
  let start ← Parse.current
  let body ← Parse.program n []
  return ⟨body, start.pos⟩

/-- One expression and then the end of input. -/
def Parse.soleExpression (n : Nat) : Parser Expr := do
  let e ← Parse.expression n
  discard <| Parse.expect .eof "Expected end of input after expression"
  return e

/-- The program written by the tokens `ts`. -/
def parseTokens (ts : List Token) (depth : Nat := Parse.textDepth) :
    Except ParseFailure Program :=
  (Parser.runFrom Parse.programAt depth (Cursor.ofTokens ts)).1

/-- The expression written by the tokens `ts`, which must hold nothing else. -/
def parseExpressionTokens (ts : List Token) : Except ParseFailure Expr :=
  (Parser.runFrom Parse.soleExpression Parse.textDepth (Cursor.ofTokens ts)).1

/-- Why a source text gives no tree: it does not scan, or its tokens do not parse. -/
inductive SourceError where
  | scan (e : ScanError)
  | parse (e : ParseFailure)
deriving Repr

/-- The program written in `source`. -/
def parseProgram (source : String) : Except SourceError Program := do
  let ts ← (scan source).mapError .scan
  (parseTokens ts).mapError .parse

/-- The expression written in `source`, which must hold nothing else. -/
def parseExpression (source : String) : Except SourceError Expr := do
  let ts ← (scan source).mapError .scan
  (parseExpressionTokens ts).mapError .parse

end Quill
