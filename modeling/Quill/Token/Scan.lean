import Quill.Token

set_option autoImplicit false

/-! Scanning: source text to tokens. At each place the first class that matches wins, in
this order: blanks, comments (line or block), an unclosed block comment, strings, an unclosed
string, numbers, names, operators (two characters before one). Lines and columns follow the
line feeds of everything consumed. The list always ends with an end-of-input token. -/
namespace Quill

/-- Why scanning stopped. -/
inductive ScanFault where
  /-- No class of token starts with this character. -/
  | unexpected (c : Char)
  /-- A block comment is opened and never closed. -/
  | openComment
  /-- A string is opened and not closed; `atLineEnd` tells whether a raw line feed stopped it. -/
  | openString (atLineEnd : Bool)
deriving DecidableEq, Repr

/-- The text that names a scan fault. -/
def ScanFault.describe : ScanFault → String
  | .unexpected c => "Unexpected character " ++ Text.quoted c.toString
  | .openComment => "Unterminated block comment"
  | .openString true => "Unterminated string literal (newline in string)"
  | .openString false => "Unterminated string literal (EOF)"

/-- A scan fault and the place where the offending lexeme starts. -/
structure ScanError where
  fault : ScanFault
  pos : Position
deriving DecidableEq, Repr

/-- `LexError at line:col: description`. -/
def ScanError.message (e : ScanError) : String :=
  "LexError at " ++ toString e.pos.line ++ ":" ++ toString e.pos.col ++ ": " ++ e.fault.describe

namespace Scan

/-- Blanks are space, tab, carriage return and line feed. -/
def isBlank (c : Char) : Bool := c == ' ' || c == '\t' || c == '\r' || c == '\n'

/-- The ASCII decimal digits. -/
def isDigit (c : Char) : Bool := '0' ≤ c && c ≤ '9'

/-- A name starts with an ASCII letter or an underscore. -/
def isNameStart (c : Char) :
    Bool := ('A' ≤ c && c ≤ 'Z') || ('a' ≤ c && c ≤ 'z') || c == '_'

/-- A name goes on with ASCII letters, digits and underscores. -/
def isNameChar (c : Char) : Bool := isNameStart c || isDigit c

/-- What one lexeme at the head of the input turns into. -/
inductive Lexeme where
  /-- Blanks, which make no token. -/
  | blank
  /-- A token of this kind with this text. -/
  | token (kind : TokenKind) (text : String)
deriving DecidableEq, Repr

/-- The character that a backslash followed by `c` stands for in a string; an escape that is
not one of `n t r \ " ' 0` keeps its backslash. -/
def escapeValue (c : Char) : List Char :=
  match c with
  | 'n' => ['\n']
  | 't' => ['\t']
  | 'r' => ['\r']
  | '\\' => ['\\']
  | '"' => ['"']
  | '\'' => ['\'']
  | '0' => ['\x00']
  | c => ['\\', c]

/-- The content of a string body with its escapes resolved, left to right. -/
def unescape : List Char → List Char
  | '\\' :: c :: rest => escapeValue c ++ unescape rest
  | c :: rest => c :: unescape rest
  | [] => []

/-- The body of a string opened by `q`, split from what follows it: the body runs up to the
first `q`, line feed or end of input that is not taken by a backslash, and a backslash takes
the next character with it, whatever it is. -/
def stringBody (q : Char) : List Char → List Char × List Char
  | [] => ([], [])
  | c :: cs =>
    if c = q ∨ c = '\n' then ([], c :: cs)
    else if c = '\\' then
      match cs with
      | [] => ([], [c])
      | d :: ds =>
        let (body, rest) := stringBody q ds
        (c :: d :: body, rest)
    else
      let (body, rest) := stringBody q cs
      (c :: body, rest)

/-- The rest of a block comment after its opening: the text up to and including the first
closing mark, and what follows, or nothing when the comment is never closed. -/
def blockTail : List Char → Option (List Char × List Char)
  | '*' :: '/' :: rest => some (['*', '/'], rest)
  | c :: cs => (blockTail cs).map fun (text, rest) => (c :: text, rest)
  | [] => none

/-- The digits and optional fraction of a number, split from what follows. -/
def numberSpan (cs : List Char) : List Char × List Char :=
  let whole := cs.takeWhile isDigit
  match cs.dropWhile isDigit with
  | '.' :: d :: more =>
    if isDigit d then
      let fraction := (d :: more).takeWhile isDigit
      (whole ++ '.' :: fraction, (d :: more).dropWhile isDigit)
    else (whole, '.' :: d :: more)
  | rest => (whole, rest)

/-- The operator at the head of the input, two characters before one. -/
def operatorAt (c : Char) (cs : List Char) : Option (TokenKind × Nat) :=
  let pair : Option TokenKind := match cs with
    | d :: _ => TokenKind.pairOperators.find?
      (fun (k : TokenKind) => k.symbol? == some (String.ofList [c, d]))
    | [] => none
  match pair with
  | some k => some (k, 2)
  | none =>
    (TokenKind.singleOperators.find?
      (fun (k : TokenKind) => k.symbol? == some c.toString)).map fun k => (k, 1)

/-- One lexeme at the head of `c :: cs`: what it is, the characters it covers, and the rest. -/
def step (c : Char) (cs : List Char) : Except ScanFault (Lexeme × List Char × List Char) :=
  if isBlank c then
    .ok (.blank, c :: cs.takeWhile isBlank, cs.dropWhile isBlank)
  else if c = '/' ∧ cs.head? = some '/' then
    let text := c :: cs.takeWhile (· != '\n')
    .ok (.token .comment (String.ofList text), text, cs.dropWhile (· != '\n'))
  else if c = '/' ∧ cs.head? = some '*' then
    match blockTail (cs.drop 1) with
    | some (tail, rest) =>
      let text := '/' :: '*' :: tail
      .ok (.token .comment (String.ofList text), text, rest)
    | none => .error .openComment
  else if c = '"' ∨ c = '\'' then
    match stringBody c cs with
    | (body, q :: rest) =>
      if q = c then
        .ok (.token .string (String.ofList (unescape body)), c :: body ++ [q], rest)
      else .error (.openString (q = '\n'))
    | (_, []) => .error (.openString false)
  else if isDigit c then
    let (text, rest) := numberSpan (c :: cs)
    .ok (.token .number (String.ofList text), text, rest)
  else if isNameStart c then
    let text := c :: cs.takeWhile isNameChar
    .ok (.token .ident (String.ofList text), text, cs.dropWhile isNameChar)
  else
    match operatorAt c cs with
    | some (k, n) =>
      let text := (c :: cs).take n
      .ok (.token k (String.ofList text), text, (c :: cs).drop n)
    | none => .error (.unexpected c)

/-- Where scanning stands: the current line, the offset at which it starts, and the offset
reached. -/
structure Place where
  line : Nat
  lineStart : Nat
  offset : Nat
deriving DecidableEq, Repr

/-- The start of the text. -/
def Place.start : Place := ⟨1, 0, 0⟩

/-- The position of a token that starts here. -/
def Place.pos (p : Place) : Position :=
  ⟨(p.line : Int), ((p.offset - p.lineStart + 1 : Nat) : Int), (p.offset : Int)⟩

/-- The place after consuming `taken`: each line feed starts a new line. -/
def Place.advance (p : Place) (taken : List Char) : Place :=
  let feeds := taken.count '\n'
  let offset := p.offset + taken.length
  if feeds = 0 then { p with offset := offset }
  else ⟨p.line + feeds, offset - (taken.reverse.takeWhile (· != '\n')).length, offset⟩

/-- Scans from place `p`, with the tokens found so far in `acc`, latest first. -/
def run (p : Place) (acc : List Token) : List Char → Except ScanError (List Token)
  | [] => .ok ((⟨.eof, "", p.pos⟩ : Token) :: acc).reverse
  | c :: cs =>
    match step c cs with
    | .error f => .error ⟨f, p.pos⟩
    | .ok (lexeme, taken, rest) =>
      if _shorter : rest.length < (c :: cs).length then
        let acc := match lexeme with
          | .blank => acc
          | .token k text => ⟨k, text, p.pos⟩ :: acc
        run (p.advance taken) acc rest
      else .ok ((⟨.eof, "", p.pos⟩ : Token) :: acc).reverse
termination_by cs => cs.length
decreasing_by exact _shorter

end Scan

/-- The tokens of a source text, comments included, ending with the end-of-input token. -/
def scan (source : String) : Except ScanError (List Token) :=
  Scan.run .start [] source.toList

end Quill
