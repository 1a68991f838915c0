import Quill.Data.Yaml.Scalar
import Quill.Decimal.Read
import Quill.Data.Json

set_option autoImplicit false

/-! Reading YAML in the block style that `Data.toYaml` writes: records of `name: value` lines,
lists of `- ` items at the column of the field holding them, `[]` and `{}`, and plain,
single-quoted and double-quoted scalars folded over several lines. Inside quotes every kind of
line break counts: a single break folds to a space, each empty line gives a line feed, and a
line or paragraph separator stays as itself. A plain scalar reads as
null, a truth value, an integer or a double when its text is one in YAML 1.1, and as text
otherwise. -/
namespace Quill.Yaml

/-- The number of spaces at the head of `cs`. -/
def leadingSpaces (cs : List Char) : Nat := (cs.takeWhile (· == ' ')).length

/-- The rest of the current line and what follows its line break. -/
def splitLine (cs : List Char) : List Char × List Char :=
  let line := cs.takeWhile (· != '\n')
  (line, (cs.drop line.length).drop 1)

/-- The value of a plain scalar's text. -/
def plainValue (s : String) : Data :=
  if nullWords.contains s then .null
  else if ["yes", "Yes", "YES", "true", "True", "TRUE", "on", "On", "ON"].contains s then .bool true
  else if truthWords.contains s then .bool false
  else if isIntegerText s then
    let cs := (s.toList.filter (· != '_'))
    let (negative, body) := Decimal.splitSign cs
    let magnitude : Nat := match body with
      | '0' :: 'b' :: ds => ds.foldl (fun acc c => 2 * acc + (c.toNat - '0'.toNat)) 0
      | '0' :: 'x' :: ds => ds.foldl (fun acc c => 16 * acc + ((Json.hexValue c).getD 0)) 0
      | '0' :: ds => ds.foldl (fun acc c => 8 * acc + (c.toNat - '0'.toNat)) 0
      | ds =>
        (ds.splitOn ':').foldl (fun acc part => 60 * acc + Decimal.digitsValue part) 0
    .int (if negative then -(magnitude : Int) else magnitude)
  else if isDecimalText s then
    let cs := (s.toList.filter (· != '_')).map Char.toLower
    let (negative, body) := Decimal.splitSign cs
    if body == ['.', 'i', 'n', 'f'] then .float (Decimal.infinity negative)
    else if body == ['.', 'n', 'a', 'n'] then .float (0.0 / 0.0)
    else .float ((Decimal.readDecimal (String.ofList cs)).getD 0.0)
  else .text s

/-- Folds the lines of a flow scalar: each line's surrounding blanks dropped, one line break
between two lines read as a space, and each empty line between them as a line feed. -/
def foldLines (lines : List (List Char)) : List Char :=
  let trim (l : List Char) : List Char :=
    ((l.dropWhile (fun c => c == ' ' || c == '\t')).reverse.dropWhile
      (fun c => c == ' ' || c == '\t')).reverse
  match lines with
  | [] => []
  | first :: rest =>
    let (acc, pendingEmpty) := rest.foldl (fun (state : List Char × Nat) l =>
      let (acc, empties) := state
      let l := trim l
      if l.isEmpty then (acc, empties + 1)
      else
        let joint := if empties == 0 then [' '] else List.replicate empties '\n'
        (acc ++ joint ++ l, 0)) (first.reverse.dropWhile
          (fun c => c == ' ' || c == '\t') |>.reverse, 0)
    acc ++ List.replicate pendingEmpty '\n'

/-- The value of hexadecimal digits, if they all are. -/
def hexDigitsValue (ds : List Char) : Option Nat :=
  ds.foldl (fun acc c => acc.bind fun v => (Json.hexValue c).map (16 * v + ·)) (some 0)

/-- Blanks inside a line of a quoted scalar. -/
def isInlineBlank (c : Char) : Bool := c == ' ' || c == '\t'

/-- A line break at the head of the input: what it reads as, and the rest. A carriage return
(alone or before a line feed), a line feed and the next-line mark read as a line feed; the line
and paragraph separators read as themselves. -/
def lineBreak : List Char → Option (Char × List Char)
  | '\r' :: '\n' :: rest => some ('\n', rest)
  | c :: rest =>
    if c == '\r' || c == '\n' || c == '\x85' then some ('\n', rest)
    else if c == '\u2028' || c == '\u2029' then some (c, rest)
    else none
  | [] => none

/-- The empty lines after a line break inside a quoted scalar: each line's leading blanks are
skipped, and each further break is kept as it reads. -/
def emptyLines : Nat → List Char → List Char × List Char
  | 0, cs => ([], cs)
  | n + 1, cs =>
    let cs := cs.dropWhile isInlineBlank
    match lineBreak cs with
    | some (b, rest) =>
      let (more, rest) := emptyLines n rest
      (b :: more, rest)
    | none => ([], cs)

/-- What a double-quoted escape letter stands for, when it stands for one character. -/
def escapeLetter (e : Char) : Option Char :=
  match e with
  | '0' => some '\x00' | 'a' => some '\x07' | 'b' => some '\x08' | 't' => some '\t'
  | '\t' => some '\t' | 'n' => some '\n' | 'v' => some '\x0b' | 'f' => some '\x0c'
  | 'r' => some '\r' | 'e' => some '\x1b' | ' ' => some ' ' | '"' => some '"'
  | '/' => some '/' | '\\' => some '\\' | 'N' => some '\x85' | '_' => some '\xa0'
  | 'L' => some '\u2028' | 'P' => some '\u2029'
  | _ => none

/-- The number of hexadecimal digits a double-quoted code escape takes. -/
def escapeWidth (e : Char) : Option Nat :=
  match e with
  | 'x' => some 2 | 'u' => some 4 | 'U' => some 8 | _ => none

/-- Whether a character ends a run of ordinary characters in a quoted scalar. -/
def endsRun (c : Char) : Bool :=
  c == '\'' || c == '"' || c == '\\' || c == '\x00' || isInlineBlank c || (lineBreak [c]).isSome

/-- The characters of a quoted scalar up to the next blank or line break (or its end): runs of
ordinary characters, a doubled single quote in single quotes, the other quote and (in single
quotes) the backslash as themselves, and in double quotes the escapes, an escaped line break
taking only the empty lines after it. `none` for a malformed escape. -/
def nonSpaces (double : Bool) : Nat → List Char → Option (List Char × List Char)
  | 0, cs => some ([], cs)
  | n + 1, cs =>
    let run := cs.takeWhile (fun c => !endsRun c)
    let cs := cs.drop run.length
    let more (piece : List Char) (rest : List Char) : Option (List Char × List Char) :=
      (nonSpaces double n rest).map fun (t, r) => (run ++ piece ++ t, r)
    match cs with
    | '\'' :: '\'' :: rest => if double then more ['\''] ('\'' :: rest) else more ['\''] rest
    | '\'' :: rest => if double then more ['\''] rest else some (run, cs)
    | '"' :: rest => if double then some (run, cs) else more ['"'] rest
    | '\\' :: rest =>
      if !double then more ['\\'] rest
      else
        match rest with
        | e :: after =>
          match escapeLetter e, escapeWidth e with
          | some c, _ => more [c] after
          | none, some w =>
            let ds := after.take w
            match hexDigitsValue ds with
            | some v => if ds.length == w then more [Text.charOfCode v] (after.drop w) else none
            | none => none
          | none, none =>
            match lineBreak rest with
            | some (_, after) =>
              let (breaks, after) := emptyLines n after
              more breaks after
            | none => none
        | [] => none
    | _ => some (run, cs)

/-- The blanks of a quoted scalar at the head of the input, as they read: kept within a line;
at a line break dropped with it, the break reading as a space when it is a plain line break
that no empty line follows, as itself when it is a line or paragraph separator, and each
following empty line as its own break. `none` at the end of the input. -/
def spaces (n : Nat) (cs : List Char) : Option (List Char × List Char) :=
  let blanks := cs.takeWhile isInlineBlank
  let cs := cs.drop blanks.length
  match lineBreak cs with
  | some (b, rest) =>
    let (breaks, rest) := emptyLines n rest
    let joint := if b != '\n' then [b] else if breaks.isEmpty then [' '] else []
    some (joint ++ breaks, rest)
  | none => if cs.isEmpty then none else some (blanks, cs)

/-- The text of a quoted scalar after its opening quote (`double` for `"`, else `'`), and the
rest after the closing quote. -/
def quotedBody (double : Bool) (fuel : Nat) (cs : List Char) : Option (List Char × List Char) :=
  let quote := if double then '"' else '\''
  let rec go : Nat → List Char → List Char → Option (List Char × List Char)
    | 0, _, _ => none
    | n + 1, acc, cs =>
      match cs with
      | c :: rest => if c == quote then some (acc, rest) else do
          let (blank, cs) ← spaces fuel cs
          let (text, cs) ← nonSpaces double fuel cs
          go n (acc ++ blank ++ text) cs
      | [] => none
  do
    let (first, cs) ← nonSpaces double fuel cs
    go fuel first cs

/-- A plain scalar starting at `cs`, continued on following lines indented more than `parent`. -/
def plainScalar (parent : Nat) (fuel : Nat) (cs : List Char) : Data × List Char :=
  let (first, rest) := splitLine cs
  let rec more (n : Nat) (lines : List (List Char)) (rest : List Char) :
      List (List Char) × List Char :=
    match n with
    | 0 => (lines, rest)
    | n + 1 =>
      let k := leadingSpaces rest
      let (line, after) := splitLine rest
      if k > parent && !(line.drop k).isEmpty then more n (line :: lines) after
      else (lines, rest)
  let (lines, rest) := more fuel [first] rest
  (plainValue (String.ofList (foldLines lines.reverse)), rest)

/-- A scalar or empty collection on the rest of a line; continuation lines are indented more
than `parent`. Returns the value and the input after its line. -/
def inlineValue (parent : Nat) (fuel : Nat) (cs : List Char) : Option (Data × List Char) :=
  match cs with
  | '[' :: ']' :: rest => some (.list [], (splitLine rest).2)
  | '\x7b' :: '\x7d' :: rest => some (.record [], (splitLine rest).2)
  | '\'' :: rest => do
    let (text, after) ← quotedBody false fuel rest
    some (.text (String.ofList text), (splitLine after).2)
  | '"' :: rest => do
    let (text, after) ← quotedBody true fuel rest
    some (.text (String.ofList text), (splitLine after).2)
  | _ => some (plainScalar parent fuel cs)

/-- A record key on the current line, and the input after its colon. -/
def keyOf (cs : List Char) : Option (String × List Char) :=
  let key := cs.takeWhile (· != ':')
  match cs.drop key.length with
  | ':' :: rest => some (String.ofList key, rest)
  | _ => none

/-- Whether a line (after its indentation) is a list item. -/
def isItem : List Char → Bool
  | '-' :: ' ' :: _ | ['-'] | '-' :: '\n' :: _ => true
  | _ => false

mutual

/-- A value after a record key's colon at record indentation `indent`. -/
def afterColon : Nat → Nat → List Char → Option (Data × List Char)
  | 0, _, _ => none
  | fuel + 1, indent, cs =>
    match cs with
    | '\n' :: rest =>
      let k := leadingSpaces rest
      if k == indent && isItem (rest.drop k) then listAt fuel indent [] rest
      else if k > indent then recordAt fuel k [] false rest
      else some (.null, rest)
    | ' ' :: rest => inlineValue indent fuel rest
    | _ => none

/-- Record fields at indentation `indent`; `inline` says the first key's indentation is already
read. Fields read so far are in `acc`, latest first. -/
def recordAt : Nat → Nat → List (String × Data) → Bool → List Char →
    Option (Data × List Char)
  | 0, _, _, _, _ => none
  | fuel + 1, indent, acc, inline, cs =>
    let k := leadingSpaces cs
    let line := if inline then cs else cs.drop k
    if (inline || (k == indent && !line.isEmpty)) && !isItem line then
      match keyOf line with
      | some (key, rest) =>
        match afterColon fuel indent rest with
        | some (v, rest) => recordAt fuel indent ((key, v) :: acc) false rest
        | none => none
      | none => some (.record acc.reverse, cs)
    else some (.record acc.reverse, cs)

/-- List items at indentation `indent`, read so far in `acc`, latest first. -/
def listAt : Nat → Nat → List Data → List Char → Option (Data × List Char)
  | 0, _, _, _ => none
  | fuel + 1, indent, acc, cs =>
    let k := leadingSpaces cs
    let line := cs.drop k
    if k == indent && isItem line then
      let body := line.drop 2
      let item : Option (Data × List Char) :=
        match keyOf (body.takeWhile (· != '\n')) with
        | some (_, after) =>
          if after.isEmpty || after.head? == some ' ' then recordAt fuel (indent + 2) [] true body
          else inlineValue indent fuel body
        | none => inlineValue indent fuel body
      match item with
      | some (v, rest) => listAt fuel indent (v :: acc) rest
      | none => none
    else some (.list acc.reverse, cs)

end

end Quill.Yaml

namespace Quill

/-- The value of a YAML text written in the block style of `Data.toYaml`. -/
def Data.ofYaml (text : String) : Option Data :=
  let cs := text.toList
  let fuel := cs.length + 2
  if Yaml.isItem cs then (Yaml.listAt fuel 0 [] cs).map (·.1)
  else match Yaml.keyOf (cs.takeWhile (· != '\n')) with
    | some _ => (Yaml.recordAt fuel 0 [] false cs).map (·.1)
    | none => (Yaml.inlineValue 0 fuel cs).map (·.1)

end Quill
