import Quill.Text.Quoted

set_option autoImplicit false

/-! Tokens of Quill: their kinds, the operator symbols, the binding strength of the binary
operators, and the positions that tie a token to the source text. -/
namespace Quill

/-- A place in the source: 1-based line and column, 0-based offset, all counted in
characters. A place is any three integers: tokens made by hand may carry any numbers, and
places derived from them (the end of input after a token) follow by arithmetic. -/
structure Position where
  line : Int
  col : Int
  offset : Int
deriving DecidableEq, Repr, Inhabited

namespace Position

/-- The place given to a node that no source text stands behind. -/
def unknown : Position := ⟨0, 0, 0⟩

/-- `Position(line:col)`, the short display of a place. -/
def label (p : Position) : String :=
  "Position(" ++ toString p.line ++ ":" ++ toString p.col ++ ")"

end Position

/-- The kinds of token, in their canonical order. -/
inductive TokenKind where
  | ident | string | number
  | assign | semicolon | inc | dec | not
  | add | sub | mul | div | mod
  | eq | neq | lt | gt | lte | gte | and | or
  | comma | colon | dot
  | lparen | rparen | lbracket | rbracket | lbrace | rbrace
  | comment | eof
deriving DecidableEq, Repr, Inhabited

namespace TokenKind

/-- Every kind, in canonical order. -/
def all : List TokenKind :=
  [ident, string, number, assign, semicolon, inc, dec, not, add, sub, mul, div, mod,
    eq, neq, lt, gt, lte, gte, and, or, comma, colon, dot, lparen, rparen, lbracket, rbracket,
    lbrace, rbrace, comment, eof]

/-- The upper-case name of a kind, as error messages and token listings show it. -/
def name : TokenKind → String
  | ident => "IDENT" | string => "STRING" | number => "NUMBER"
  | assign => "ASSIGN" | semicolon => "SEMICOLON" | inc => "INC" | dec => "DEC" | not => "NOT"
  | add => "ADD" | sub => "SUB" | mul => "MUL" | div => "DIV" | mod => "MOD"
  | eq => "EQ" | neq => "NEQ" | lt => "LT" | gt => "GT" | lte => "LTE" | gte => "GTE"
  | and => "AND" | or => "OR"
  | comma => "COMMA" | colon => "COLON" | dot => "DOT"
  | lparen => "LPAREN" | rparen => "RPAREN" | lbracket => "LBRACKET" | rbracket => "RBRACKET"
  | lbrace => "LBRACE" | rbrace => "RBRACE"
  | comment => "COMMENT" | eof => "EOF"

/-- The kind with the given upper-case name. -/
def ofName? (s : String) : Option TokenKind :=
  all.find? (·.name == s)

/-- The source text of an operator or punctuation kind. -/
def symbol? : TokenKind → Option String
  | inc => some "++" | dec => some "--" | eq => some "==" | neq => some "!="
  | lte => some "<=" | gte => some ">=" | and => some "&&" | or => some "||"
  | assign => some "=" | semicolon => some ";" | not => some "!"
  | add => some "+" | sub => some "-" | mul => some "*" | div => some "/" | mod => some "%"
  | lt => some "<" | gt => some ">" | comma => some "," | colon => some ":" | dot => some "."
  | lparen => some "(" | rparen => some ")" | lbracket => some "[" | rbracket => some "]"
  | lbrace => some "\x7b" | rbrace => some "\x7d"
  | _ => none

/-- The operators of two characters, tried before those of one. -/
def pairOperators : List TokenKind := [inc, dec, eq, neq, lte, gte, and, or]

/-- The operators and punctuation of one character. -/
def singleOperators : List TokenKind :=
  [assign, semicolon, not, add, sub, mul, div, mod, lt, gt, comma, colon, dot,
    lparen, rparen, lbracket, rbracket, lbrace, rbrace]

/-- How tightly a binary operator binds: `||` 1, `&&` 2, equality 3, comparison 4, additive 5,
multiplicative 6; every other kind 0. -/
def precedence : TokenKind → Nat
  | or => 1 | and => 2 | eq => 3 | neq => 3
  | lt => 4 | gt => 4 | lte => 4 | gte => 4
  | add => 5 | sub => 5 | mul => 6 | div => 6 | mod => 6
  | _ => 0

/-- A kind is a binary operator when it has a binding strength. -/
def isBinary (k : TokenKind) : Bool := k.precedence != 0

end TokenKind

/-- A token: its kind, its text (for a string, the content with escapes resolved), and where
it starts. -/
structure Token where
  kind : TokenKind
  text : String
  pos : Position
deriving DecidableEq, Repr, Inhabited

namespace Token

/-- `Token(KIND, 'text', line:col)`, the short display of a token. -/
def label (t : Token) : String :=
  "Token(" ++ t.kind.name ++ ", " ++ Text.quoted t.text ++ ", " ++ toString t.pos.line ++ ":" ++
    toString t.pos.col ++ ")"

/-- The kind and quoted text of a token, as error messages cite it. -/
def cite (t : Token) : String := t.kind.name ++ " " ++ Text.quoted t.text

end Token

end Quill
