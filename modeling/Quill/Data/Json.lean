import Quill.Data.Value
import Quill.Decimal.Read

set_option autoImplicit false

/-! JSON text of data values. Writing: texts double-quoted with `"`, `\` and the control
characters escaped (the named ones by name, the rest as `\u00xx`) and all other characters as
themselves; doubles by their shortest decimal, `Infinity`, `-Infinity` and `NaN` for the values
that are not finite; with an indentation width every list item and record field on a line of
its own, and without one everything on one line with `, ` and `: ` between items. Reading
accepts the same and also `NaN`, `Infinity` and `-Infinity`; a number with a fraction or an
exponent is a double, any other an integer; of two fields with one name the later value wins,
at the place of the first. -/
namespace Quill

namespace Json

/-- How a character is written inside a JSON string. -/
def escapeChar (c : Char) : String :=
  match c with
  | '"' => "\\\""
  | '\\' => "\\\\"
  | '\n' => "\\n"
  | '\r' => "\\r"
  | '\t' => "\\t"
  | '\x08' => "\\b"
  | '\x0c' => "\\f"
  | c => if c.toNat < 0x20 then "\\u" ++ Text.hexPadded 4 c.toNat else c.toString

/-- A text as a JSON string. -/
def quote (s : String) : String := "\"" ++ String.join (s.toList.map escapeChar) ++ "\""

/-- The JSON text of a double. -/
def floatText (x : Float) : String := Decimal.showWith ⟨"Infinity", "NaN"⟩ x

/-- The JSON text of a scalar value; lists and records have none. -/
def scalarText : Data → Option String
  | .null => some "null"
  | .bool b => some (if b then "true" else "false")
  | .int n => some (toString n)
  | .float x => some (floatText x)
  | .text s => some (quote s)
  | _ => none

/-- Spaces for one indentation step of width `w`. -/
def stepOf (w : Int) : String := String.ofList (List.replicate w.toNat ' ')

mutual

/-- The JSON text of a value. With `step = some s`, nested items go on lines of their own,
indented by `s` per level; `depth` is the level of the value itself. -/
def write (step : Option String) (depth : Nat) : Data → String
  | .list [] => "[]"
  | .record [] => "\x7b\x7d"
  | .list items => "[" ++ writeItems step (depth + 1) items ++ closing step depth "]"
  | .record fields => "\x7b" ++ writeFields step (depth + 1) fields ++ closing step depth "\x7d"
  | d => (scalarText d).getD ""

/-- List items at level `depth`, each preceded by its line break or separator. -/
def writeItems (step : Option String) (depth : Nat) : List Data → String
  | [] => ""
  | [d] => opening step depth ++ write step depth d
  | d :: rest => opening step depth ++ write step depth d ++ separator step ++
    writeItems step depth rest

/-- Record fields at level `depth`. -/
def writeFields (step : Option String) (depth : Nat) : List (String × Data) → String
  | [] => ""
  | [(k, v)] => opening step depth ++ quote k ++ ": " ++ write step depth v
  | (k, v) :: rest =>
    opening step depth ++ quote k ++ ": " ++ write step depth v ++ separator step ++
      writeFields step depth rest

/-- What stands before an item at level `depth`: a line break and indentation. -/
def opening (step : Option String) (depth : Nat) : String :=
  match step with
  | some s => "\n" ++ String.join (List.replicate depth s)
  | none => ""

/-- What stands between items. -/
def separator (step : Option String) : String :=
  match step with
  | some _ => ","
  | none => ", "

/-- What closes a list or record at level `depth`. -/
def closing (step : Option String) (depth : Nat) (bracket : String) : String :=
  opening step depth ++ bracket

end

end Json

/-- The JSON text of a value, with the given indentation width or on one line. -/
def Data.toJson (width : Option Int) (d : Data) : String :=
  Json.write (width.map Json.stepOf) 0 d

namespace Json

mutual

/-- How many lists and records a value nests: the levels the one-line encoder takes, one for
each. -/
def lineReach : Data → Nat
  | .list items => lineReachItems items + 1
  | .record fields => lineReachFields fields + 1
  | _ => 0

/-- The deepest nesting among list items. -/
def lineReachItems : List Data → Nat
  | [] => 0
  | d :: rest => max (lineReach d) (lineReachItems rest)

/-- The deepest nesting among field values. -/
def lineReachFields : List (String × Data) → Nat
  | [] => 0
  | (_, d) :: rest => max (lineReach d) (lineReachFields rest)

end

mutual

/-- How many levels the indenting encoder reaches while writing a value, its own included: a
nonempty list or record makes builtin calls one level above its own, an empty one makes none,
and a double is written by a function whose comparisons run one level above that function. -/
def indentReach : Data → Nat
  | .list [] | .record [] => 1
  | .list items => max 1 (indentReachItems items) + 1
  | .record fields => max 1 (indentReachFields fields) + 1
  | .float _ => 2
  | _ => 0

/-- The furthest reach among list items. -/
def indentReachItems : List Data → Nat
  | [] => 0
  | d :: rest => max (indentReach d) (indentReachItems rest)

/-- The furthest reach among field values. -/
def indentReachFields : List (String × Data) → Nat
  | [] => 0
  | (_, d) :: rest => max (indentReach d) (indentReachFields rest)

end

/-- Why a JSON text does not read. -/
inductive ReadFault where
  | expectingValue
  | expectingName
  | expectingColon
  | expectingComma
  | extraData
  | unterminatedString
  | badEscape
  | badUnicodeEscape
  | controlCharacter
  | byteOrderMark
deriving DecidableEq, Repr

/-- The words of a read fault. -/
def ReadFault.words : ReadFault → String
  | .expectingValue => "Expecting value"
  | .expectingName => "Expecting property name enclosed in double quotes"
  | .expectingColon => "Expecting ':' delimiter"
  | .expectingComma => "Expecting ',' delimiter"
  | .extraData => "Extra data"
  | .unterminatedString => "Unterminated string starting at"
  | .badEscape => "Invalid \\escape"
  | .badUnicodeEscape => "Invalid \\uXXXX escape"
  | .controlCharacter => "Invalid control character at"
  | .byteOrderMark => "Unexpected UTF-8 BOM (decode using utf-8-sig)"

/-- Why a JSON text gives no value: a fault at an offset, an integer with too many digits, or
lists and records nested deeper than reading goes (`inList` tells which opened last). -/
inductive ReadError where
  | fault (f : ReadFault) (offset : Nat)
  | tooManyDigits (count : Nat)
  | tooDeep (inList : Bool)
deriving DecidableEq, Repr

/-- The message of a read error in `text`: the words, then the line, column and offset. -/
def ReadError.message (text : String) : ReadError → String
  | .fault f offset =>
    let before := text.toList.take offset
    let line := before.count '\n' + 1
    let col := (before.reverse.takeWhile (· != '\n')).length + 1
    f.words ++ ": line " ++ toString line ++ " column " ++ toString col ++ " (char " ++
      toString offset ++ ")"
  | .tooManyDigits n =>
    "Exceeds the limit (" ++ toString Decimal.digitLimit ++
      " digits) for integer string conversion: value has " ++ toString n ++
      " digits; use sys.set_int_max_str_digits() to increase the limit"
  | .tooDeep inList =>
    "maximum recursion depth exceeded while decoding a JSON " ++
      (if inList then "array" else "object") ++ " from a unicode string"

/-- Input still to read, with its offset in the whole text. -/
structure Input where
  rest : List Char
  offset : Nat

/-- The input after `n` characters. -/
def Input.drop (i : Input) (n : Nat) : Input := ⟨i.rest.drop n, i.offset + n⟩

/-- JSON white space. -/
def isBlank (c : Char) : Bool := c == ' ' || c == '\t' || c == '\n' || c == '\r'

/-- The input after its leading white space. -/
def Input.skip (i : Input) : Input :=
  let n := (i.rest.takeWhile isBlank).length
  i.drop n

/-- The value of a hexadecimal digit. -/
def hexValue (c : Char) : Option Nat :=
  if '0' ≤ c && c ≤ '9' then some (c.toNat - '0'.toNat)
  else if 'a' ≤ c && c ≤ 'f' then some (c.toNat - 'a'.toNat + 10)
  else if 'A' ≤ c && c ≤ 'F' then some (c.toNat - 'A'.toNat + 10)
  else none

/-- The value of four hexadecimal digits at the head of `cs`. -/
def hex4 (cs : List Char) : Option Nat :=
  match cs with
  | a :: b :: c :: d :: _ => do
    let a ← hexValue a
    let b ← hexValue b
    let c ← hexValue c
    let d ← hexValue d
    some (((a * 16 + b) * 16 + c) * 16 + d)
  | _ => none

/-- The character of a code point; a lone surrogate becomes its carrier. -/
def charOf (n : Nat) : Char := Text.charOfCode n

/-- The rest of a string after its opening quote at `start`, from `cs` at offset `at_`: its
text (in reverse, prepended to `acc`), and the rest after the closing quote with its offset. -/
def readString (start : Nat) (acc : List Char) (cs : List Char) (at_ : Nat) :
    Except ReadError (String × List Char × Nat) :=
  match cs with
  | [] => .error (.fault .unterminatedString start)
  | '"' :: rest => .ok (String.ofList acc.reverse, rest, at_ + 1)
  | '\\' :: e :: more =>
    let simple : Option Char := match e with
      | '"' => some '"' | '\\' => some '\\' | '/' => some '/' | 'b' => some '\x08'
      | 'f' => some '\x0c' | 'n' => some '\n' | 'r' => some '\r' | 't' => some '\t'
      | _ => none
    match simple with
    | some c => readString start (c :: acc) more (at_ + 2)
    | none =>
      if e == 'u' then
        -- the four digits must be followed by at least one more character
        match (if more.length ≤ 4 then none else hex4 more) with
        | none => .error (.fault .badUnicodeEscape (at_ + 1))
        | some hi =>
          -- a high surrogate followed by an escaped low one makes one character, when at
          -- least one more character follows that second escape
          let pair : Option Nat := if more.length < 11 then none else match more.drop 4 with
            | '\\' :: 'u' :: tail =>
              match hex4 tail with
              | some lo => if 0xD800 ≤ hi && hi < 0xDC00 && 0xDC00 ≤ lo && lo < 0xE000 then
                  some (0x10000 + (hi - 0xD800) * 0x400 + (lo - 0xDC00)) else none
              | none => none
            | _ => none
          match pair with
          | some cp => readString start (charOf cp :: acc) (more.drop 10) (at_ + 12)
          | none => readString start (charOf hi :: acc) (more.drop 4) (at_ + 6)
      else .error (.fault .badEscape at_)
  | ['\\'] => .error (.fault .unterminatedString start)
  | c :: rest =>
    if c.toNat < 0x20 then .error (.fault .controlCharacter at_)
    else readString start (c :: acc) rest (at_ + 1)
termination_by cs.length
decreasing_by all_goals simp only [List.length_cons, List.length_drop]; omega

/-- ASCII digit. -/
def isDigit (c : Char) : Bool := '0' ≤ c && c ≤ '9'

/-- A number at the head of the input: `-`, an integer part without leading zeros, an optional
fraction and an optional exponent, each part only when complete. -/
def readNumber (i : Input) : Option (Except ReadError Data × Input) :=
  let (negative, afterSign) := match i.rest with
    | '-' :: more => (true, more)
    | more => (false, more)
  let whole := match afterSign with
    | '0' :: _ => ['0']
    | cs => cs.takeWhile isDigit
  if whole.isEmpty then none
  else
    let afterWhole := afterSign.drop whole.length
    let fraction := match afterWhole with
      | '.' :: d :: more => if isDigit d then '.' :: (d :: more).takeWhile isDigit else []
      | _ => []
    let afterFraction := afterWhole.drop fraction.length
    let exponent := match afterFraction with
      | e :: more =>
        if e == 'e' || e == 'E' then
          let (sign, digits) := match more with
            | '+' :: ds => (['+'], ds)
            | '-' :: ds => (['-'], ds)
            | ds => ([], ds)
          let ds := digits.takeWhile isDigit
          if ds.isEmpty then [] else e :: sign ++ ds
        else []
      | [] => []
    let text := (if negative then ['-'] else []) ++ whole ++ fraction ++ exponent
    let next := i.drop text.length
    if fraction.isEmpty && exponent.isEmpty then
      match Decimal.readInteger (String.ofList text) with
      | .ok n => some (.ok (.int n), next)
      | .error (.tooLong k) => some (.error (.tooManyDigits k), next)
      | .error .malformed => some (.ok (.int 0), next)
    else
      some (.ok (.float ((Decimal.readDecimal (String.ofList text)).getD 0.0)), next)

/-- Sets field `k` of a record to `v`: in place when the name is there, else at the end. -/
def setField (fields : List (String × Data)) (k : String) (v : Data) : List (String × Data) :=
  if fields.any (·.1 == k) then fields.map fun f => if f.1 == k then (k, v) else f
  else fields ++ [(k, v)]

mutual

/-- A value at the head of the input (after white space), with room for `room` more levels of
lists and records. -/
def readValue : Nat → Nat → Input → Except ReadError (Data × Input)
  | 0, _, i => .error (.fault .expectingValue i.offset)
  | n + 1, room, i =>
    match i.rest with
    | '"' :: rest => do
      let (s, r, at_) ← readString i.offset [] rest (i.offset + 1)
      .ok (.text s, ⟨r, at_⟩)
    | '\x7b' :: _ =>
      if room = 0 then .error (.tooDeep false) else readRecord n (room - 1) [] true (i.drop 1).skip
    | '[' :: _ =>
      if room = 0 then .error (.tooDeep true) else readList n (room - 1) [] true (i.drop 1).skip
    | 'n' :: 'u' :: 'l' :: 'l' :: _ => .ok (.null, i.drop 4)
    | 't' :: 'r' :: 'u' :: 'e' :: _ => .ok (.bool true, i.drop 4)
    | 'f' :: 'a' :: 'l' :: 's' :: 'e' :: _ => .ok (.bool false, i.drop 5)
    | 'N' :: 'a' :: 'N' :: _ => .ok (.float (0.0 / 0.0), i.drop 3)
    | 'I' :: 'n' :: 'f' :: 'i' :: 'n' :: 'i' :: 't' :: 'y' :: _ =>
      .ok (.float (Decimal.infinity false), i.drop 8)
    | '-' :: 'I' :: 'n' :: 'f' :: 'i' :: 'n' :: 'i' :: 't' :: 'y' :: _ =>
      .ok (.float (Decimal.infinity true), i.drop 9)
    | _ =>
      match readNumber i with
      | some (.ok d, j) => .ok (d, j)
      | some (.error e, _) => .error e
      | none => .error (.fault .expectingValue i.offset)

/-- The items of a list after its opening bracket; `acc` holds those read, latest first. -/
def readList : Nat → Nat → List Data → Bool → Input → Except ReadError (Data × Input)
  | 0, _, _, _, i => .error (.fault .expectingValue i.offset)
  | n + 1, room, acc, first, i =>
    match i.rest with
    | ']' :: _ =>
      if first then .ok (.list acc.reverse, i.drop 1)
      else .error (.fault .expectingValue i.offset)
    | _ => do
      let (d, j) ← readValue n room i
      let j := j.skip
      match j.rest with
      | ']' :: _ => .ok (.list (d :: acc).reverse, j.drop 1)
      | ',' :: _ => readList n room (d :: acc) false (j.drop 1).skip
      | _ => .error (.fault .expectingComma j.offset)

/-- The fields of a record after its opening brace. -/
def readRecord : Nat → Nat → List (String × Data) → Bool → Input →
    Except ReadError (Data × Input)
  | 0, _, _, _, i => .error (.fault .expectingValue i.offset)
  | n + 1, room, acc, first, i =>
    match i.rest with
    | '\x7d' :: _ =>
      if first then .ok (.record acc, i.drop 1)
      else .error (.fault .expectingName i.offset)
    | '"' :: rest => do
      let (k, r, at_) ← readString i.offset [] rest (i.offset + 1)
      let j := (⟨r, at_⟩ : Input).skip
      match j.rest with
      | ':' :: _ =>
        let (v, j) ← readValue n room (j.drop 1).skip
        let j := j.skip
        let acc := setField acc k v
        match j.rest with
        | '\x7d' :: _ => .ok (.record acc, j.drop 1)
        | ',' :: _ => readRecord n room acc false (j.drop 1).skip
        | _ => .error (.fault .expectingComma j.offset)
      | _ => .error (.fault .expectingColon j.offset)
    | _ => .error (.fault .expectingName i.offset)

end

end Json

/-- How many levels of lists and records a JSON text may nest: the reading runs nine calls
deep in a stack of a thousand, and each level takes one more. -/
def Json.nestingRoom : Nat := 991

/-- The value written in a JSON text, which must hold nothing else but white space. -/
def Data.ofJson (text : String) : Except Json.ReadError Data := do
  let cs := text.toList
  if cs.head? == some '\uFEFF' then throw (.fault .byteOrderMark 0)
  let start : Json.Input := (⟨cs, 0⟩ : Json.Input).skip
  let (d, rest) ← Json.readValue (2 * cs.length + 2) Json.nestingRoom start
  let rest := rest.skip
  if rest.rest.isEmpty then pure d else throw (.fault .extraData rest.offset)

end Quill
