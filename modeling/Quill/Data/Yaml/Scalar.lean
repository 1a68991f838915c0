import Quill.Data.Value

set_option autoImplicit false

/-! YAML scalars: which texts a plain scalar would read back as something other than a text
(truth values, null, integers, doubles, timestamps and the merge, value and tag markers of
YAML 1.1), and which of the plain, single-quoted and double-quoted styles a text allows. -/
namespace Quill.Yaml

/-- ASCII digit. -/
def isDigit (c : Char) : Bool := '0' ≤ c && c ≤ '9'

/-- A nonempty run of characters from a class. -/
def allOf (p : Char → Bool) (cs : List Char) : Bool := !cs.isEmpty && cs.all p

/-- Drops one leading sign. -/
def unsigned : List Char → List Char
  | '-' :: rest | '+' :: rest => rest
  | cs => cs

/-- The words read as truth values. -/
def truthWords : List String :=
  ["yes", "Yes", "YES", "no", "No", "NO", "true", "True", "TRUE", "false", "False", "FALSE",
    "on", "On", "ON", "off", "Off", "OFF"]

/-- The words read as null. -/
def nullWords : List String := ["~", "null", "Null", "NULL", ""]

/-- Sexagesimal parts after the first: each `:` and one digit, or two with the first below 6. -/
def sexagesimalTail (parts : List (List Char)) : Bool :=
  !parts.isEmpty && parts.all fun part =>
    match part with
    | [d] => isDigit d
    | [a, b] => '0' ≤ a && a ≤ '5' && isDigit b
    | _ => false

/-- Digits and underscores starting with a digit in `lo..9`. -/
def leadDigits (lo : Char) (cs : List Char) : Bool :=
  match cs with
  | c :: rest => lo ≤ c && c ≤ '9' && rest.all (fun x => isDigit x || x == '_')
  | [] => false

/-- Whether a text reads as an integer. -/
def isIntegerText (s : String) : Bool :=
  let cs := unsigned s.toList
  match cs with
  | '0' :: 'b' :: rest => allOf (fun c => c == '0' || c == '1' || c == '_') rest
  | '0' :: 'x' :: rest => allOf
    (fun c => isDigit c || ('a' ≤ c && c ≤ 'f') || ('A' ≤ c && c ≤ 'F') || c == '_') rest
  | ['0'] => true
  | '0' :: rest => allOf (fun c => ('0' ≤ c && c ≤ '7') || c == '_') rest
  | _ =>
    match cs.splitOn ':' with
    | [whole] => leadDigits '1' whole
    | whole :: parts => leadDigits '1' whole && sexagesimalTail parts
    | [] => false

/-- An optional exponent `e±digits` making up the whole rest. -/
def isExponentOrNothing : List Char → Bool
  | [] => true
  | e :: sign :: ds => (e == 'e' || e == 'E') && (sign == '-' || sign == '+') && allOf isDigit ds
  | _ => false

/-- Whether a text reads as a double. -/
def isDecimalText (s : String) : Bool :=
  let cs := s.toList
  let special := match unsigned cs with
    | ['.', 'i', 'n', 'f'] | ['.', 'I', 'n', 'f'] | ['.', 'I', 'N', 'F'] => true
    | _ => false
  let nan := cs == ['.', 'n', 'a', 'n'] || cs == ['.', 'N', 'a', 'N'] || cs == ['.', 'N', 'A', 'N']
  let digitOrBar (c : Char) : Bool := isDigit c || c == '_'
  -- digits, a point, digits and underscores, an optional exponent
  let pointed : Bool := match unsigned cs with
    | c :: rest =>
      isDigit c &&
        (let whole := rest.takeWhile digitOrBar
         match rest.drop whole.length with
         | '.' :: more =>
           let frac := more.takeWhile digitOrBar
           isExponentOrNothing (more.drop frac.length)
         | _ => false)
    | [] => false
  let leadingPoint : Bool := match cs with
    | '.' :: c :: rest =>
      isDigit c &&
        (let frac := rest.takeWhile digitOrBar
         isExponentOrNothing (rest.drop frac.length))
    | _ => false
  let sexagesimal : Bool :=
    let body := unsigned cs
    match body.splitOn '.' with
    | [front, frac] =>
      frac.all digitOrBar &&
        (match front.splitOn ':' with
         | whole :: parts => leadDigits '0' whole && sexagesimalTail parts
         | [] => false)
    | _ => false
  special || nan || pointed || leadingPoint || sexagesimal

/-- Exactly `n` digits. -/
def digitsOf (n : Nat) (cs : List Char) : Bool := cs.length == n && cs.all isDigit

/-- Whether a text reads as a date or a time stamp. -/
def isTimestampText (s : String) : Bool :=
  let cs := s.toList
  let date := cs.length == 10 && digitsOf 4 (cs.take 4) && cs[4]? == some '-' &&
    digitsOf 2 ((cs.drop 5).take 2) && cs[7]? == some '-' && digitsOf 2 (cs.drop 8)
  -- year-month-day, then T or blanks, then hours:minutes:seconds[.fraction][zone]
  let oneOrTwo (xs : List Char) : Option (List Char) :=
    match xs with
    | a :: b :: rest =>
      if isDigit a then (if isDigit b then some rest else some (b :: rest)) else none
    | [a] => if isDigit a then some [] else none
    | [] => none
  let expect (c : Char) (xs : List Char) : Option (List Char) :=
    match xs with
    | x :: rest => if x == c then some rest else none
    | [] => none
  let two (xs : List Char) : Option (List Char) :=
    match xs with
    | a :: b :: rest => if isDigit a && isDigit b then some rest else none
    | _ => none
  let stamp : Option (List Char) := do
    let rest ← if digitsOf 4 (cs.take 4) then some (cs.drop 4) else none
    let rest ← expect '-' rest
    let rest ← oneOrTwo rest
    let rest ← expect '-' rest
    let rest ← oneOrTwo rest
    let rest ← match rest with
      | 'T' :: more | 't' :: more => some more
      | c :: more =>
        if c == ' ' || c == '\t' then some (more.dropWhile (fun x => x == ' ' || x == '\t'))
        else none
      | [] => none
    let rest ← oneOrTwo rest
    let rest ← expect ':' rest
    let rest ← two rest
    let rest ← expect ':' rest
    let rest ← two rest
    let rest := match rest with
      | '.' :: more => more.dropWhile isDigit
      | more => more
    let zone := rest.dropWhile (fun x => x == ' ' || x == '\t')
    match rest, zone with
    | [], _ => some []
    | _, ['Z'] => some []
    | _, [] => none
    | _, sign :: more =>
      if sign == '-' || sign == '+' then
        match oneOrTwo more with
        | some [] => some []
        | some (':' :: tail) => if digitsOf 2 tail then some [] else none
        | _ => none
      else none
  -- a zone or fraction is optional only after a complete time
  let timed := match stamp with
    | some [] => true
    | _ => false
  date || timed

/-- Whether a plain scalar with this text would read as something other than text. -/
def readsAsOther (s : String) : Bool :=
  truthWords.contains s || nullWords.contains s || isIntegerText s || isDecimalText s ||
    isTimestampText s || s == "<<" || s == "=" || s == "!" || s == "&" || s == "*"

/-- Line breaks in YAML text. -/
def isBreak (c : Char) : Bool := c == '\n' || c == '\x85' || c == '\u2028' || c == '\u2029'

/-- White space that ends a word for indicator checks. -/
def isBlankOrEnd (c : Char) : Bool := c == '\x00' || c == ' ' || c == '\t' || c == '\r' || isBreak c

/-- Characters written as themselves in the output (all others are special); a carrier stands
for its surrogate, which is not. -/
def isWritable (c : Char) : Bool :=
  let n := Text.codeOf c
  c == '\n' || (0x20 ≤ n && n ≤ 0x7E) ||
    ((n == 0x85 || (0xA0 ≤ n && n ≤ 0xD7FF) || (0xE000 ≤ n && n ≤ 0xFFFD) ||
      (0x10000 ≤ n && n < 0x10FFFF)) && n != 0xFEFF)

/-- The styles a text allows. -/
structure Styles where
  multiline : Bool
  plain : Bool
  singleQuoted : Bool

/-- The styles a nonempty text allows in block context. Leading or trailing blanks and line
breaks rule out plain; a space right after a line break rules out single quotes too; a space
right before a line break and any special character leave only double quotes; an indicator at
the start, or `: ` or ` #` inside, rules out plain. -/
def analyze (s : String) : Styles :=
  let cs := s.toList
  let n := cs.length
  let indicators := cs.take 3 == ['-', '-', '-'] || cs.take 3 == ['.', '.', '.']
  let followedByBlank (i : Nat) : Bool :=
    match cs[i + 1]? with
    | some c => isBlankOrEnd c
    | none => true
  let precededByBlank (i : Nat) : Bool :=
    match i with
    | 0 => true
    | j + 1 => match cs[j]? with
      | some c => isBlankOrEnd c
      | none => true
  let indexed := cs.zipIdx
  let blockIndicator := indicators || indexed.any fun (c, i) =>
    if i == 0 then
      "#,[]\x7b\x7d&*!|>'\"%@`".contains c || ((c == '?' || c == ':') && followedByBlank i) ||
        (c == '-' && followedByBlank i)
    else (c == ':' && followedByBlank i) || (c == '#' && precededByBlank i)
  let lineBreaks := cs.any isBreak
  let special := cs.any fun c => !isWritable c
  let leading := match cs.head? with
    | some c => c == ' ' || isBreak c
    | none => false
  let trailing := match cs.getLast? with
    | some c => c == ' ' || isBreak c
    | none => false
  let pairs := cs.zip (cs.drop 1)
  let breakSpace := pairs.any fun (a, b) => isBreak a && b == ' '
  let spaceBreak := pairs.any fun (a, b) => a == ' ' && isBreak b
  let plain := !(leading || trailing || breakSpace || spaceBreak || special || lineBreaks ||
    blockIndicator) && n > 0
  { multiline := lineBreaks, plain := plain,
    singleQuoted := !(breakSpace || spaceBreak || special) }

/-- How a scalar is written. -/
inductive Style where
  | plain | single | double
deriving DecidableEq, Repr

/-- The style of a text value: plain when plain is allowed and would read back as text,
single-quoted when allowed, double-quoted otherwise. -/
def styleOfText (s : String) : Style :=
  if s.isEmpty then .single
  else
    let a := analyze s
    if a.plain && !readsAsOther s then .plain
    else if a.singleQuoted then .single
    else .double

end Quill.Yaml
