import Quill.Token

set_option autoImplicit false

/-! A cursor over tokens: a forward-only reader that never passes the end-of-input token. It
holds the tokens without comments, always ending with an end-of-input token (one is added after
the last token when missing), so looking past the end sees that token. Expecting a kind of
token either consumes it or fails with a parse error at the current token. -/
namespace Quill

/-- What went wrong in a parse. -/
inductive ParseErrorKind where
  /-- The current token cannot start an expression. -/
  | unexpectedToken
  /-- A required token was missing. -/
  | expectationFailure
  /-- An update was applied to something other than a variable or a member. -/
  | invalidTarget
deriving DecidableEq, Repr

/-- The upper-case name of an error kind. -/
def ParseErrorKind.name : ParseErrorKind → String
  | .unexpectedToken => "UNEXPECTED_TOKEN"
  | .expectationFailure => "EXPECTATION_FAILURE"
  | .invalidTarget => "INVALID_LVALUE"

/-- A syntax error: its kind, its reason, where it is, the kinds that would have been accepted,
and the token found there. -/
structure ParseError where
  kind : ParseErrorKind
  reason : String
  pos : Position
  expected : List TokenKind
  found : Token
deriving DecidableEq, Repr

/-- `ParseError at line:col: reason (found KIND 'text')`. -/
def ParseError.message (e : ParseError) : String :=
  "ParseError at " ++ toString e.pos.line ++ ":" ++ toString e.pos.col ++ ": " ++ e.reason ++
    " (found " ++ e.found.cite ++ ")"

/-- The end-of-input token placed right after `last`, or at the start of the text when there
is no token. -/
def eofAfter : Option Token → Token
  | some t => ⟨.eof, "",
    ⟨t.pos.line, t.pos.col + t.text.length, t.pos.offset + t.text.length⟩⟩
  | none => ⟨.eof, "", ⟨1, 1, 0⟩⟩

/-- The tokens a cursor reads: comments dropped, and an end-of-input token added when the rest
does not end with one. -/
def readable (ts : List Token) : List Token :=
  let kept := ts.filter (·.kind != .comment)
  match kept.getLast? with
  | some t => if t.kind == .eof then kept else kept ++ [eofAfter (some t)]
  | none => [eofAfter none]

theorem readable_ne_nil (ts : List Token) : readable ts ≠ [] := by
  simp only [readable]
  cases hk : (ts.filter (·.kind != .comment)).getLast? with
  | none => simp
  | some t =>
    simp only
    split
    · intro h
      simp [h] at hk
    · simp

/-- A cursor: the tokens it reads and the index of the current one. -/
structure Cursor where
  items : Array Token
  index : Nat
  nonempty : 0 < items.size

namespace Cursor

/-- A cursor at the first of the readable tokens of `ts`. -/
def ofTokens (ts : List Token) : Cursor :=
  ⟨(readable ts).toArray, 0, by
    simpa using List.length_pos_iff.mpr (readable_ne_nil ts)⟩

/-- The last token, always the end of input. -/
def last (c : Cursor) : Token :=
  have h : c.items.size - 1 < c.items.size := by have := c.nonempty; omega
  c.items[c.items.size - 1]

/-- The token `n` places ahead; past the end, the last token. -/
def peek (c : Cursor) (n : Nat) : Token :=
  if h : c.index + n < c.items.size then c.items[c.index + n] else c.last

/-- The current token. -/
def current (c : Cursor) : Token := c.peek 0

/-- The token `n` places away, where a negative place counts back from the end of the tokens
and a place past the end gives the last token; nothing when it counts back beyond the first. -/
def look (c : Cursor) (n : Int) : Option Token :=
  let i : Int := c.index + n
  if i < c.items.size then
    if 0 ≤ i then c.items[i.toNat]? else c.items[(c.items.size + i).toNat]?
  else some c.last

/-- Whether the current token is the end of input. -/
def atEnd (c : Cursor) : Bool := c.current.kind == .eof

/-- The cursor after the current token, which stays put at the end of input. -/
def advance (c : Cursor) : Cursor :=
  if c.atEnd then c else { c with index := c.index + 1 }

/-- The current token, and the cursor after it. -/
def next (c : Cursor) : Token × Cursor := (c.current, c.advance)

/-- Whether the current token is of kind `k`. -/
def test (c : Cursor) (k : TokenKind) : Bool := c.current.kind == k

/-- Whether the current token is of one of the kinds `ks`. -/
def testAny (c : Cursor) (ks : List TokenKind) : Bool := ks.contains c.current.kind

/-- The error for a missing token of one of the kinds `ks`. -/
def missing (c : Cursor) (reason : String) (ks : List TokenKind) : ParseError :=
  ⟨.expectationFailure, reason, c.current.pos, ks, c.current⟩

/-- Consumes a token of kind `k`; the reason of the failure is `reason`, or `Expected KIND`
when that is empty. -/
def expect (c : Cursor) (k : TokenKind)
    (reason : String := "") : Except ParseError (Token × Cursor) :=
  if c.test k then .ok c.next
  else .error (c.missing (if reason.isEmpty then "Expected " ++ k.name else reason) [k])

/-- Consumes a token of one of the kinds `ks`; the reason of the failure is `reason`, or
`Expected one of A, B` when that is empty. -/
def expectOneOf (c : Cursor) (ks : List TokenKind) (reason : String := "") :
    Except ParseError (Token × Cursor) :=
  if c.testAny ks then .ok c.next
  else
    let names := ", ".intercalate (ks.map TokenKind.name)
    .error (c.missing (if reason.isEmpty then "Expected one of " ++ names else reason) ks)

/-- `TokenStream(at i of n, current=Token(...))`, the display of a cursor. -/
def label (c : Cursor) : String :=
  "TokenStream(at " ++ toString c.index ++ " of " ++ toString c.items.size ++ ", current=" ++
    c.current.label ++ ")"

end Cursor


/-- What can be asked of a cursor. -/
inductive CursorQuery where
  | current
  | look (n : Int)
  | next
  | atEnd
  | test (k : TokenKind)
  | testAny (ks : List TokenKind)
  | isBinary
  | precedence
  | label
  | positionLabel
  | expect (k : TokenKind) (reason : String)
  | expectOneOf (ks : List TokenKind) (reason : String)

/-- What a cursor answers. -/
inductive CursorAnswer where
  | token (t : Token)
  | truth (b : Bool)
  | number (n : Nat)
  | text (s : String)
  | failed (e : ParseError)
  /-- A place counted back beyond the first token. -/
  | outOfRange

namespace Cursor

/-- The answer to one query, and the cursor after it. -/
def ask (c : Cursor) : CursorQuery → CursorAnswer × Cursor
  | .current => (.token c.current, c)
  | .look n => ((c.look n).elim .outOfRange .token, c)
  | .next => (.token c.current, c.advance)
  | .atEnd => (.truth c.atEnd, c)
  | .test k => (.truth (c.test k), c)
  | .testAny ks => (.truth (c.testAny ks), c)
  | .isBinary => (.truth c.current.kind.isBinary, c)
  | .precedence => (.number c.current.kind.precedence, c)
  | .label => (.text c.label, c)
  | .positionLabel => (.text c.current.pos.label, c)
  | .expect k reason =>
    match c.expect k reason with
    | .ok (t, c') => (.token t, c')
    | .error e => (.failed e, c)
  | .expectOneOf ks reason =>
    match c.expectOneOf ks reason with
    | .ok (t, c') => (.token t, c')
    | .error e => (.failed e, c)

/-- The answers to queries asked in order, each of the cursor the previous one left. -/
def askAll (c : Cursor) : List CursorQuery → List CursorAnswer
  | [] => []
  | q :: qs =>
    let (a, c') := c.ask q
    a :: c'.askAll qs

end Cursor

end Quill
