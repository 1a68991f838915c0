import Quill.Text.Surrogate

set_option autoImplicit false

/-! Literal values, as the parameters of an action tag in console markup must spell one. A literal
is a number, a string or bytes, `True`, `False`, `None` or `...`; a sign before a number; a real
number plus or minus an imaginary one; or a tuple, list, set (`set()` for the empty one) or
dictionary of literals, where the elements of a set and the keys of a dictionary must be hashable:
no list, set or dictionary, also not inside a tuple.

The text is read as an expression: pieces may be separated by blanks, comments run to the end of
the line, a backslash joins a line to the next, and inside brackets line breaks are blanks.
Brackets nest at most 200 deep, only the first logical line may hold anything, and it must not be
indented (a form feed sets the indentation back to none). Numbers are written as in decimal, `0x`,
`0o` or `0b` notation with single underscores between digits, a decimal integer has at most 4300
digits unless it starts with a zero, and a number may not run into a letter. Strings take the
prefixes `r`, `u`, `b`, `br` and `rb` in any case, single or tripled quotes, and the escapes of
their kind. -/
namespace Quill.Console.Literal

/-- The kind of a number written as a literal. -/
inductive NumberKind where
  /-- An integer. -/
  | integer
  /-- A number with a point or an exponent. -/
  | real
  /-- An imaginary number, marked `j`. -/
  | imaginary
deriving DecidableEq, Repr

/-- A lexical piece of a literal. -/
inductive Piece where
  /-- A number. -/
  | number (kind : NumberKind)
  /-- A string, or bytes. -/
  | text (bytes : Bool)
  /-- One of the constants `True`, `False`, `None` and `...`. -/
  | constant
  /-- The name `set`. -/
  | setName
  /-- An opening bracket. -/
  | opening (c : Char)
  /-- A closing bracket. -/
  | closing (c : Char)
  /-- A comma. -/
  | comma
  /-- A colon. -/
  | colon
  /-- A plus sign. -/
  | plus
  /-- A minus sign. -/
  | minus
deriving DecidableEq, Repr

/-- Whether a character may continue a name, so that a number may not run into it. -/
def continuesName (c : Char) : Bool := c.isAlphanum || c == '_' || 128 ≤ c.toNat

/-- Whether a number ends here: nothing follows that could continue a name. -/
def endsNumber : List Char → Bool
  | c :: _ => !continuesName c
  | [] => true

/-- The text after a digit and the digits that follow it, which may be joined by single
underscores; nothing when an underscore is not followed by a digit. -/
def digitTail (isDigit : Char → Bool) : List Char → Option (List Char)
  | '_' :: c :: rest => if isDigit c then digitTail isDigit rest else none
  | ['_'] => none
  | c :: rest => if isDigit c then digitTail isDigit rest else some (c :: rest)
  | [] => some []

/-- The text after the digits of a `0x`, `0o` or `0b` number: at least one digit, an underscore
allowed before each. -/
def prefixedDigits (isDigit : Char → Bool) : List Char → Option (List Char)
  | '_' :: c :: rest => if isDigit c then digitTail isDigit rest else none
  | c :: rest => if isDigit c then digitTail isDigit rest else none
  | [] => none

/-- The text after the zeros that follow a leading zero, with single underscores between them;
it starts at the first other character. -/
def zeroTail : List Char → Option (List Char)
  | '_' :: c :: rest =>
    if c == '0' then zeroTail rest else if c.isDigit then some (c :: rest) else none
  | ['_'] => none
  | '0' :: rest => zeroTail rest
  | cs => some cs

/-- The text after an exponent's digits, past the `e`: an optional sign and at least one
digit. -/
def exponentTail : List Char → Option (List Char)
  | c :: rest =>
    if c == '+' || c == '-' then
      match rest with
      | d :: more => if d.isDigit then digitTail Char.isDigit more else none
      | [] => none
    else if c.isDigit then digitTail Char.isDigit rest else none
  | [] => none

/-- A number's kind and the text after it, once its digits are read: an imaginary mark may
follow, and then nothing that continues a name. -/
def imaginaryOr (kind : NumberKind) : List Char → Option (NumberKind × List Char)
  | c :: rest =>
    if c == 'j' || c == 'J' then
      if endsNumber rest then some (.imaginary, rest) else none
    else if endsNumber (c :: rest) then some (kind, c :: rest) else none
  | [] => some (kind, [])

/-- A number's kind and the text after it, once its mantissa is read: an exponent may
follow. -/
def exponentOr (kind : NumberKind) : List Char → Option (NumberKind × List Char)
  | c :: rest =>
    if c == 'e' || c == 'E' then (exponentTail rest).bind (imaginaryOr .real)
    else imaginaryOr kind (c :: rest)
  | [] => some (kind, [])

/-- A number's kind and the text after it, once its integer digits are read: a point and a
fraction may follow. -/
def fractionOr (kind : NumberKind) : List Char → Option (NumberKind × List Char)
  | '.' :: rest =>
    let afterDigits := match rest with
      | d :: more => if d.isDigit then digitTail Char.isDigit more else some (d :: more)
      | [] => some []
    afterDigits.bind (exponentOr .real)
  | cs => exponentOr kind cs

/-- The most digits a decimal integer literal may have. -/
def integerDigitLimit : Nat := 4300

/-- A number at the head of the text, which starts with a digit or with a point and a digit:
its kind and the text after it. -/
def number (cs : List Char) : Option (NumberKind × List Char) :=
  match cs with
  | '0' :: x :: rest =>
    if x == 'x' || x == 'X' then
      (prefixedDigits Char.isHexDigit rest).bind fun r =>
        if endsNumber r then some (.integer, r) else none
    else if x == 'o' || x == 'O' then
      (prefixedDigits (fun d => '0' ≤ d && d ≤ '7') rest).bind fun r =>
        if endsNumber r then some (.integer, r) else none
    else if x == 'b' || x == 'B' then
      (prefixedDigits (fun d => d == '0' || d == '1') rest).bind fun r =>
        if endsNumber r then some (.integer, r) else none
    else
      (zeroTail (x :: rest)).bind fun r =>
        match r with
        | d :: more =>
          if d.isDigit then
            (digitTail Char.isDigit more).bind fun r2 =>
              match fractionOr .integer r2 with
              | some (.integer, _) => none
              | other => other
          else fractionOr .integer r
        | [] => some (.integer, [])
  | d :: rest =>
    if d == '.' then fractionOr .real cs
    else
      (digitTail Char.isDigit rest).bind fun r =>
        match fractionOr .integer r with
        | some (.integer, after) =>
          let written := cs.take (cs.length - after.length)
          if (written.filter Char.isDigit).length ≤ integerDigitLimit then some (.integer, after)
          else none
        | other => other
  | [] => none

/-- The body of a string after its opening quote `q` and the text after its closing quote;
`size` is the number of quotes that close it, `run` the number of them just read (kept at the
head of `acc`, which holds the body read so far, latest first). A backslash keeps the next
character in the body; a line break ends a single-quoted string too early. -/
def stringBody (q : Char) (size run : Nat) (acc : List Char) :
    List Char → Option (List Char × List Char)
  | [] => none
  | c :: rest =>
    if c == q then
      if run + 1 == size then some ((acc.drop run).reverse, rest)
      else stringBody q size (run + 1) (c :: acc) rest
    else if c == '\n' && size == 1 then none
    else if c == '\\' then
      match rest with
      | d :: more => stringBody q size 0 (d :: c :: acc) more
      | [] => none
    else stringBody q size 0 (c :: acc) rest

/-- Whether the text starts with `n` hexadecimal digits. -/
def hexDigits (n : Nat) (cs : List Char) : Bool :=
  n ≤ cs.length && (cs.take n).all Char.isHexDigit

/-- The value of hexadecimal digits. -/
def hexValue (cs : List Char) : Nat :=
  cs.foldl (fun n d =>
    16 * n + (if d.isDigit then d.toNat - '0'.toNat
      else if 'a' ≤ d && d ≤ 'f' then d.toNat - 'a'.toNat + 10 else d.toNat - 'A'.toNat + 10)) 0

/-- Whether a character may stand in the name of a named character escape. -/
def isNameChar (c : Char) : Bool := c.isAlphanum || c == ' ' || c == '-'

/-- Whether the escapes in the body of a string are well formed: `\x` takes two hexadecimal
digits; in a string (not bytes) `\u` takes four, `\U` eight making a code point, and `\N` a
character name in braces. Any other escape stands for itself or for its usual character. -/
def escapesValid (bytes : Bool) : List Char → Bool
  | '\\' :: c :: rest =>
    if c == 'x' then hexDigits 2 rest && escapesValid bytes (rest.drop 2)
    else if !bytes && c == 'u' then hexDigits 4 rest && escapesValid bytes (rest.drop 4)
    else if !bytes && c == 'U' then
      hexDigits 8 rest && hexValue (rest.take 8) ≤ 0x10FFFF && escapesValid bytes (rest.drop 8)
    else if !bytes && c == 'N' then
      match rest with
      | '{' :: more =>
        let name := more.takeWhile (· != '}')
        !name.isEmpty && name.all isNameChar && name.length < more.length &&
          escapesValid bytes (more.drop (name.length + 1))
      | _ => false
    else escapesValid bytes rest
  | _ :: rest => escapesValid bytes rest
  | [] => true
termination_by cs => cs.length
decreasing_by all_goals simp only [List.length_drop, List.length_cons]; omega

/-- The string prefixes, in lower case, that make a string or bytes. -/
def textPrefixes : List String := ["", "r", "u", "b", "br", "rb"]

/-- A string at the head of the text, which starts with its opening quote, read with the
prefix given in lower case: whether it is bytes, and the text after it. -/
def text (pre : String) (cs : List Char) : Option (Bool × List Char) :=
  let raw := pre.contains 'r'
  let bytes := pre.contains 'b'
  match cs with
  | q :: rest =>
    let read := match rest with
      | a :: b :: more => if a == q && b == q then stringBody q 3 0 [] more
        else stringBody q 1 0 [] rest
      | _ => stringBody q 1 0 [] rest
    read.bind fun (body, after) =>
      if bytes && body.any (fun c => 128 ≤ c.toNat) then none
      else if !raw && !escapesValid bytes body then none
      else some (bytes, after)
  | [] => none

/-- Whether a character may continue a name in a literal. -/
def isWordPart (c : Char) : Bool := c.isAlphanum || c == '_'

/-- Where the reader stands in the lines of a literal. -/
inductive Phase where
  /-- Nothing read yet; whether the current line is indented. -/
  | before (indented : Bool)
  /-- In the first logical line. -/
  | within
  /-- Past the first logical line. -/
  | after
deriving DecidableEq, Repr

/-- The bracket that closes an opening bracket. -/
def closerOf : Char → Char
  | '(' => ')'
  | '[' => ']'
  | _ => '}'

/-- The most brackets that may be open at once. -/
def nestingLimit : Nat := 200

/-- The pieces of a literal, given the brackets open (latest first), the phase, and the pieces
read so far (latest first); nothing when the text is not made of pieces of a literal. -/
def pieces (fuel : Nat) (open? : List Char) (phase : Phase) (acc : List Piece) :
    List Char → Option (List Piece)
  | [] =>
    if open?.isEmpty && phase != .before false && phase != .before true then some acc.reverse
    else none
  | c :: rest =>
    match fuel with
    | 0 => none
    | fuel + 1 =>
      if c == ' ' || c == '\t' then
        pieces fuel open? (if phase == .before false then .before true else phase) acc rest
      else if c == '\x0c' then
        pieces fuel open? (if phase == .before true then .before false else phase) acc rest
      else if c == '#' then pieces fuel open? phase acc (rest.dropWhile (· != '\n'))
      else if c == '\n' then
        if !open?.isEmpty then pieces fuel open? phase acc rest
        else pieces fuel open?
          (if phase == .within || phase == .after then .after else .before false)
          acc rest
      else if c == '\\' then
        match rest with
        | '\n' :: more => if more.isEmpty then none else pieces fuel open? phase acc more
        | _ => none
      else if phase == .after || phase == .before true then none
      else
        let step (p : Piece) (more : List Char) := pieces fuel open? .within (p :: acc) more
        if c == '(' || c == '[' || c == '{' then
          if nestingLimit ≤ open?.length then none
          else pieces fuel (c :: open?) .within (.opening c :: acc) rest
        else if c == ')' || c == ']' || c == '}' then
          match open? with
          | o :: others =>
            if closerOf o == c then pieces fuel others .within (.closing c :: acc) rest else none
          | [] => none
        else if c == ',' then step .comma rest
        else if c == ':' then step .colon rest
        else if c == '+' then step .plus rest
        else if c == '-' then step .minus rest
        else if c == '.' then
          match rest with
          | '.' :: '.' :: more => step .constant more
          | d :: _ =>
            if d.isDigit then (number (c :: rest)).bind fun (k, more) => step (.number k) more
            else none
          | [] => none
        else if c.isDigit then (number (c :: rest)).bind fun (k, more) => step (.number k) more
        else if c == '\'' || c == '"' then
          (text "" (c :: rest)).bind fun (b, more) => step (.text b) more
        else if c.isAlpha || c == '_' then
          let word := (c :: rest).takeWhile isWordPart
          let after := rest.drop (word.length - 1)
          match after with
          | d :: _ =>
            if 128 ≤ d.toNat then none
            else if d == '\'' || d == '"' then
              let pre := String.ofList (word.map Char.toLower)
              if textPrefixes.contains pre then
                (text pre after).bind fun (b, more) => step (.text b) more
              else none
            else if word == "True".toList || word == "False".toList || word == "None".toList then
              step .constant after
            else if word == "set".toList then step .setName after
            else none
          | [] =>
            if word == "True".toList || word == "False".toList || word == "None".toList then
              step .constant after
            else if word == "set".toList then step .setName after
            else none
        else none

/-- An expression as read from the pieces. -/
inductive Node where
  /-- A number. -/
  | number (kind : NumberKind)
  /-- Strings or bytes written one after another. -/
  | text
  /-- `True`, `False`, `None` or `...`. -/
  | constant
  /-- The name `set`. -/
  | setName
  /-- The call `set()`. -/
  | emptySet
  /-- A tuple. -/
  | tuple (items : List Node)
  /-- A list. -/
  | list (items : List Node)
  /-- A set. -/
  | set (items : List Node)
  /-- A dictionary, its keys and its values. -/
  | dict (keys values : List Node)
  /-- A sign before an expression. -/
  | signed (operand : Node)
  /-- The sum or difference of two expressions. -/
  | sum (left right : Node)
deriving Repr

/-- Strings or bytes following one of the same kind; they may not mix. -/
def texts (bytes : Bool) : List Piece → Option (List Piece)
  | .text b :: rest => if b == bytes then texts bytes rest else none
  | rest => some rest

mutual
/-- An expression: signed terms joined by plus and minus signs. -/
def expr : Nat → List Piece → Option (Node × List Piece)
  | 0, _ => none
  | f + 1, ps => (term f ps).bind fun (first, rest) => moreTerms f first rest

/-- The terms that follow a first one, each after a plus or minus sign. -/
def moreTerms : Nat → Node → List Piece → Option (Node × List Piece)
  | 0, _, _ => none
  | f + 1, left, .plus :: ps | f + 1, left, .minus :: ps =>
    (term f ps).bind fun (right, rest) => moreTerms f (.sum left right) rest
  | _ + 1, left, ps => some (left, ps)

/-- A term: signs before an atom and its calls. -/
def term : Nat → List Piece → Option (Node × List Piece)
  | 0, _ => none
  | f + 1, .plus :: ps | f + 1, .minus :: ps =>
    (term f ps).bind fun (t, rest) => some (.signed t, rest)
  | f + 1, ps => (atom f ps).bind fun (a, rest) =>
    match a, rest with
    | .setName, .opening '(' :: .closing ')' :: more =>
      match more with
      | .opening _ :: _ => none
      | _ => some (.emptySet, more)
    | _, .opening '(' :: _ | _, .opening '[' :: _ => none
    | _, _ => some (a, rest)

/-- An atom: a constant, or a display in brackets. -/
def atom : Nat → List Piece → Option (Node × List Piece)
  | 0, _ => none
  | _ + 1, .number k :: ps => some (.number k, ps)
  | _ + 1, .text b :: ps => (texts b ps).map fun rest => (.text, rest)
  | _ + 1, .constant :: ps => some (.constant, ps)
  | _ + 1, .setName :: ps => some (.setName, ps)
  | _ + 1, .opening '(' :: .closing ')' :: ps => some (.tuple [], ps)
  | _ + 1, .opening '[' :: .closing ']' :: ps => some (.list [], ps)
  | _ + 1, .opening '{' :: .closing '}' :: ps => some (.dict [] [], ps)
  | f + 1, .opening '(' :: ps => (sequence f ps).bind fun (items, comma, rest) =>
    match rest, items with
    | .closing ')' :: more, [one] => some (if comma then .tuple [one] else one, more)
    | .closing ')' :: more, _ => some (.tuple items, more)
    | _, _ => none
  | f + 1, .opening '[' :: ps => (sequence f ps).bind fun (items, _, rest) =>
    match rest with
    | .closing ']' :: more => some (.list items, more)
    | _ => none
  | f + 1, .opening '{' :: ps => (expr f ps).bind fun (first, rest) =>
    match rest with
    | .colon :: more => (expr f more).bind fun (value, after) =>
      (entries f [first] [value] after).bind fun (keys, values, tail) =>
        match tail with
        | .closing '}' :: done => some (.dict keys values, done)
        | _ => none
    | _ => (moreItems f [first] rest).bind fun (items, _, tail) =>
        match tail with
        | .closing '}' :: done => some (.set items, done)
        | _ => none
  | _ + 1, _ => none

/-- Expressions separated by commas, with an optional trailing comma: the expressions, whether
a comma was read, and the pieces after them. -/
def sequence : Nat → List Piece → Option (List Node × Bool × List Piece)
  | 0, _ => none
  | f + 1, ps => (expr f ps).bind fun (first, rest) => moreItems f [first] rest

/-- The expressions that follow, each after a comma, given those read so far (latest first). -/
def moreItems : Nat → List Node → List Piece → Option (List Node × Bool × List Piece)
  | 0, _, _ => none
  | f + 1, acc, .comma :: ps =>
    match expr f ps with
    | some (item, rest) =>
      (moreItems f (item :: acc) rest).map fun (items, _, tail) => (items, true, tail)
    | none => some (acc.reverse, true, ps)
  | _ + 1, acc, ps => some (acc.reverse, false, ps)

/-- The entries of a dictionary that follow, each after a comma, given the keys and values read
so far (latest first). -/
def entries : Nat → List Node → List Node → List Piece →
    Option (List Node × List Node × List Piece)
  | 0, _, _, _ => none
  | f + 1, keys, values, .comma :: ps =>
    match expr f ps with
    | some (key, .colon :: rest) => (expr f rest).bind fun (value, after) =>
      entries f (key :: keys) (value :: values) after
    | some _ => none
    | none => some (keys.reverse, values.reverse, ps)
  | _ + 1, keys, values, ps => some (keys.reverse, values.reverse, ps)
end

/-- The kind of a number written alone or after a sign. -/
def Node.signedNumber? : Node → Option NumberKind
  | .number k => some k
  | .signed (.number k) => some k
  | _ => none

mutual
/-- Whether a node is a literal value and, if so, whether that value is hashable. -/
def Node.hashable? : Node → Option Bool
  | .number _ | .text | .constant => some true
  | .setName => none
  | .emptySet => some false
  | .tuple items => allHashable? items
  | .list items => (allHashable? items).map fun _ => false
  | .set items => (allHashable? items).bind fun h => if h then some false else none
  | .dict keys values =>
    (allHashable? keys).bind fun h =>
      if h then (allHashable? values).map fun _ => false else none
  | .signed (.number _) => some true
  | .signed _ => none
  | .sum left (.number .imaginary) =>
    match left.signedNumber? with
    | some .imaginary | none => none
    | some _ => some true
  | .sum _ _ => none

/-- Whether every node is a literal value and, if so, whether all of them are hashable. -/
def allHashable? : List Node → Option Bool
  | [] => some true
  | n :: ns => (Node.hashable? n).bind fun h => (allHashable? ns).map fun hs => h && hs
end

/-- The pieces as one expression, or several separated by commas as a tuple. -/
def readPieces (ps : List Piece) : Option Node :=
  (sequence (8 * (ps.length + 2)) ps).bind fun (items, comma, rest) =>
    if !rest.isEmpty then none
    else match items, comma with
      | [one], false => some one
      | _, _ => some (.tuple items)

/-- The text with each carriage return, alone or before a line feed, read as a line feed. -/
def unifyBreaks : List Char → List Char
  | '\r' :: '\n' :: rest => '\n' :: unifyBreaks rest
  | '\r' :: rest => '\n' :: unifyBreaks rest
  | c :: rest => c :: unifyBreaks rest
  | [] => []

/-- Whether a text spells a literal value, blanks and tabs before it aside. A text holding the
null character or a lone surrogate is not read at all. -/
def accepts (cs : List Char) : Bool :=
  let body := unifyBreaks (cs.dropWhile fun c => c == ' ' || c == '\t')
  if body.contains '\x00' || body.any (fun c => (Text.carried? c).isSome) then false
  else
    match pieces (body.length + 1) [] (.before false) [] body with
    | some ps => ((readPieces ps).bind Node.hashable?).isSome
    | none => false

end Quill.Console.Literal
