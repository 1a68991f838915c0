import Quill.Decimal.Binary
import Quill.Text.Digits

set_option autoImplicit false

/-! Reading numbers from text, as a number token's text is read when it becomes a value. The
text is first put in its ASCII form (other scripts' digits become ASCII digits, other white
space a space); then surrounding ASCII white space is ignored and a sign may lead. An integer
is decimal digits, single underscores allowed between digits, and at most 4300 digits are read.
A decimal number has digits before or after a point (or both), an optional exponent, and the
same underscores; the words `inf`, `infinity` and `nan` in any case are read too. -/
namespace Quill.Decimal

open Quill.Text (asciiForm trimAsciiSpace)

/-- The characters a number is read from: the ASCII form, trimmed. -/
def numberChars (s : String) : List Char := trimAsciiSpace (asciiForm s.toList)

/-- The most digits an integer text may have. -/
def digitLimit : Nat := 4300

/-- A leading sign: whether it is a minus, and the rest. -/
def splitSign : List Char → Bool × List Char
  | '-' :: rest => (true, rest)
  | '+' :: rest => (false, rest)
  | cs => (false, cs)

/-- ASCII decimal digit. -/
def isDigitChar (c : Char) : Bool := '0' ≤ c && c ≤ '9'

/-- A run of digits with single underscores between digits, at the head of the input: its
digits, and the rest. The run stops before an underscore that no digit follows. -/
def digitRun : List Char → List Char × List Char
  | c :: '_' :: d :: more =>
    if isDigitChar c && isDigitChar d then
      let (ds, after) := digitRun (d :: more)
      (c :: ds, after)
    else if isDigitChar c then ([c], '_' :: d :: more)
    else ([], c :: '_' :: d :: more)
  | c :: rest =>
    if isDigitChar c then
      let (ds, after) := digitRun rest
      (c :: ds, after)
    else ([], c :: rest)
  | [] => ([], [])

/-- The value of a string of ASCII digits. -/
def digitsValue (ds : List Char) : Nat :=
  ds.foldl (fun acc c => 10 * acc + (c.toNat - '0'.toNat)) 0

/-- Why a text is not an integer. -/
inductive IntegerFault where
  /-- The text is not an integer at all. -/
  | malformed
  /-- The text has more digits than may be read. -/
  | tooLong (digits : Nat)
deriving DecidableEq, Repr

/-- The integer written in `s`. -/
def readInteger (s : String) : Except IntegerFault Int :=
  let (negative, body) := splitSign (numberChars s)
  let (ds, rest) := digitRun body
  if ds.isEmpty || !rest.isEmpty then .error .malformed
  else if ds.length > digitLimit then .error (.tooLong ds.length)
  else
    let n := digitsValue ds
    .ok (if negative then -(n : Int) else n)

/-- The exponent part of a decimal number, if the input is one: its value and the rest. -/
def exponentPart : List Char → Option (Int × List Char)
  | e :: rest =>
    if e = 'e' ∨ e = 'E' then
      let (negative, body) := splitSign rest
      let (ds, after) := digitRun body
      if ds.isEmpty then none
      else
        let n : Int := digitsValue ds
        some (if negative then -n else n, after)
    else none
  | [] => none

/-- The decimal written in `cs` without sign or spaces, as digits and a power of ten: digits
before or after a point, at least one of them, then an optional exponent. -/
def readMagnitude (cs : List Char) : Option (Nat × Int) :=
  let (whole, rest) := digitRun cs
  let (fraction, rest) := match rest with
    | '.' :: more => digitRun more
    | _ => ([], rest)
  if whole.isEmpty && fraction.isEmpty then none
  else
    let (shift, rest) := (exponentPart rest).getD (0, rest)
    if rest.isEmpty then some (digitsValue (whole ++ fraction), shift - fraction.length) else none

/-- The double written in `s`: the nearest to its decimal, or an infinity or not-a-number named
by a word. -/
def readDecimal (s : String) : Option Float :=
  let (negative, body) := splitSign (numberChars s)
  let word := String.ofList (body.map Char.toLower)
  if word == "inf" || word == "infinity" then some (infinity negative)
  else if word == "nan" then some (0.0 / 0.0)
  else (readMagnitude body).map fun (m, k) => ofDecimal negative m k

end Quill.Decimal
