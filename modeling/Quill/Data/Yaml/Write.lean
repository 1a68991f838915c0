import Quill.Data.Yaml.Scalar
import Quill.Decimal.Text
import Quill.Text.Quoted

set_option autoImplicit false

/-! YAML text of data values in block style. Record fields are sorted by name, one a line, a
nested record two columns deeper; list items are marked `-`, at the column of the field that
holds the list; empty lists and records are `[]` and `{}`. Scalars use the style `Yaml.Scalar`
chooses, and a text is folded at a space once its line passes eighty columns, the next line
indented two columns past the field's name. -/
namespace Quill.Yaml

/-- The column past which text is folded at the next single space. -/
def foldWidth : Nat := 80

/-- The indentation step. -/
def step : Nat := 2

/-- The output written so far and where it stands: the column, whether the last thing written
was white space, and whether the line holds only indentation so far. -/
structure Pen where
  out : String
  column : Nat
  whitespace : Bool
  indention : Bool

namespace Pen

/-- A fresh pen at the start of the text. -/
def start : Pen := ⟨"", 0, true, true⟩

/-- Writes text on the current line. -/
def put (p : Pen) (s : String) : Pen := { p with out := p.out ++ s, column := p.column + s.length }

/-- Starts a new line, with the given line break. -/
def newLine (p : Pen) (br : String := "\n") : Pen := ⟨p.out ++ br, 0, true, true⟩

/-- Moves to column `indent` on a fresh line, unless the line so far is indentation short of it. -/
def indentTo (p : Pen) (indent : Nat) : Pen :=
  let p := if !p.indention || p.column > indent || (p.column == indent && !p.whitespace) then
    p.newLine else p
  if p.column < indent then
    { p.put (String.ofList (List.replicate (indent - p.column) ' ')) with whitespace := true }
  else p

/-- Writes an indicator, with a space before it when one is needed and missing. -/
def indicator (p : Pen) (ind : String) (needSpace : Bool) (whitespace : Bool := false)
    (indention : Bool := false) : Pen :=
  let data := if p.whitespace || !needSpace then ind else " " ++ ind
  { p.put data with whitespace := whitespace, indention := p.indention && indention }

end Pen

/-- The chunks of a text: runs of spaces, runs of line breaks, and runs of other characters. -/
inductive Chunk where
  | spaces (n : Nat)
  | breaks (cs : List Char)
  | word (cs : List Char)

/-- The class of a character for chunking: 0 space, 1 line break, 2 other. -/
def chunkClass (c : Char) : Nat := if c == ' ' then 0 else if isBreak c then 1 else 2

/-- Splits a text into chunks. -/
def chunks : List Char → List Chunk
  | [] => []
  | c :: rest =>
    let k := chunkClass c
    let run := rest.takeWhile (chunkClass · == k)
    let chunk := match k with
      | 0 => Chunk.spaces (run.length + 1)
      | 1 => Chunk.breaks (c :: run)
      | _ => Chunk.word (c :: run)
    chunk :: chunks (rest.drop run.length)
termination_by cs => cs.length
decreasing_by simp only [List.length_drop, List.length_cons]; omega

/-- Writes line breaks as a folded scalar shows them: a leading line feed doubled, each break as
itself, then the indentation. -/
def Pen.breaks (p : Pen) (cs : List Char) (indent : Nat) : Pen :=
  let p := if cs.head? == some '\n' then p.newLine else p
  let p := cs.foldl (fun p br => if br == '\n' then p.newLine else p.newLine br.toString) p
  p.indentTo indent

/-- Writes a plain scalar, folding at single spaces past the fold width. -/
def Pen.plain (p : Pen) (s : String) (indent : Nat) : Pen :=
  if s.isEmpty then p
  else
    let p := if p.whitespace then p else p.put " "
    let p := { p with whitespace := false, indention := false }
    (chunks s.toList).foldl (fun p chunk =>
      match chunk with
      | .word cs => p.put (String.ofList cs)
      | .spaces n =>
        if n == 1 && p.column > foldWidth then
          { p.indentTo indent with whitespace := false, indention := false }
        else p.put (String.ofList (List.replicate n ' '))
      | .breaks cs => { p.breaks cs indent with whitespace := false, indention := false }) p

/-- Writes a single-quoted scalar: a quote doubled, line breaks as blank lines, folding at single
spaces past the fold width except at either end. -/
def Pen.singleQuoted (p : Pen) (s : String) (indent : Nat) : Pen :=
  let p := p.indicator "'" true
  let cs := s.toList
  let total := cs.length
  -- walk the chunks, with the offset where each starts
  let rec go (p : Pen) (at_ : Nat) : List Chunk → Pen
    | [] => p
    | chunk :: rest =>
      match chunk with
      | .word ws =>
        let p := (ws.foldl (fun (acc : Pen × List Char) c =>
          if c == '\'' then ((acc.1.put (String.ofList acc.2.reverse)).put "''", [])
          else (acc.1, c :: acc.2)) (p, []))
          |> fun (p, pending) => p.put (String.ofList pending.reverse)
        go p (at_ + ws.length) rest
      | .spaces n =>
        let p := if n == 1 && p.column > foldWidth && at_ != 0 && at_ + n != total then
          p.indentTo indent else p.put (String.ofList (List.replicate n ' '))
        go p (at_ + n) rest
      | .breaks bs => go (p.breaks bs indent) (at_ + bs.length) rest
  let p := go p 0 (chunks cs)
  p.indicator "'" false

/-- The escape of a character in a double-quoted scalar. -/
def escapeOf (c : Char) : String :=
  match c with
  | '\x00' => "\\0" | '\x07' => "\\a" | '\x08' => "\\b" | '\t' => "\\t" | '\n' => "\\n"
  | '\x0b' => "\\v" | '\x0c' => "\\f" | '\r' => "\\r" | '\x1b' => "\\e" | '"' => "\\\""
  | '\\' => "\\\\" | '\x85' => "\\N" | '\xa0' => "\\_" | '\u2028' => "\\L" | '\u2029' => "\\P"
  | c =>
    let n := Text.codeOf c
    let hex (w : Nat) : String := (Text.hexPadded w n).toUpper
    if n ≤ 0xFF then "\\x" ++ hex 2
    else if n ≤ 0xFFFF then "\\u" ++ hex 4
    else "\\U" ++ hex 8

/-- Whether a character stands as itself in a double-quoted scalar. -/
def plainInDouble (c : Char) : Bool :=
  let n := c.toNat
  !(c == '"' || c == '\\' || c == '\x85' || c == '\u2028' || c == '\u2029' || c == '\uFEFF') &&
    ((0x20 ≤ n && n ≤ 0x7E) || (0xA0 ≤ n && n ≤ 0xD7FF) || (0xE000 ≤ n && n ≤ 0xFFFD))

/-- Writes a double-quoted scalar: characters that cannot stand as themselves escaped, and the
text broken with a trailing backslash where it passes the fold width at a space. -/
def Pen.doubleQuoted (p : Pen) (s : String) (indent : Nat) : Pen :=
  let p := p.indicator "\"" true
  let text := s.toList.toArray
  let n := text.size
  -- `start` is where the pending run of plain characters begins, `e` the character looked at
  let rec go (p : Pen) (start e : Nat) (fuel : Nat) : Pen :=
    match fuel with
    | 0 => p
    | fuel + 1 =>
      if e > n then p
      else
        let ch := text[e]?
        let (p, start) := match ch with
          | some c =>
            if plainInDouble c then (p, start)
            else
              let p := if start < e then p.put
                (String.ofList ((text.extract start e).toList)) else p
              (p.put (escapeOf c), e + 1)
          | none =>
            let p := if start < e then p.put (String.ofList ((text.extract start e).toList)) else p
            (p, e)
        let (p, start) :=
          if 0 < e && e + 1 < n && (ch == some ' ' || start ≥ e) &&
              (p.column : Int) + ((e : Int) - (start : Int)) > (foldWidth : Int) then
            let data := String.ofList ((text.extract start e).toList) ++ "\\"
            let start := if start < e then e else start
            let p := { (p.put data).indentTo indent with whitespace := false, indention := false }
            let p := if text[start]? == some ' ' then p.put "\\" else p
            (p, start)
          else (p, start)
        go p start (e + 1) fuel
  let p := go p 0 0 (n + 2)
  p.indicator "\"" false

/-- The text of a double in YAML: its shortest decimal in lower case, with `.0` before an
exponent that follows no point, and `.inf`, `-.inf`, `.nan`. -/
def floatText (x : Float) : String :=
  let t := Decimal.showWith ⟨".inf", ".nan"⟩ x
  if t.contains '.' then t
  else if t.contains 'e' then t.replace "e" ".0e"
  else t

/-- Writes a scalar value at indentation `indent`. -/
def Pen.scalar (p : Pen) (d : Data) (indent : Nat) : Pen :=
  let plain (t : String) : Pen := p.plain t indent
  match d with
  | .null => plain "null"
  | .bool b => plain (if b then "true" else "false")
  | .int n => plain (toString n)
  | .float x => plain (floatText x)
  | .text s =>
    match styleOfText s with
    | .plain => p.plain s indent
    | .single => p.singleQuoted s indent
    | .double => p.doubleQuoted s indent
  | _ => p

mutual

/-- A value with the fields of every record in it sorted by name. -/
def sortDeep : Data → Data
  | .list items => .list (sortItems items)
  | .record fields => .record ((sortValues fields).mergeSort (fun a b => decide (a.1 ≤ b.1)))
  | d => d

/-- List items, each sorted deeply. -/
def sortItems : List Data → List Data
  | [] => []
  | d :: rest => sortDeep d :: sortItems rest

/-- Record fields with their values sorted deeply, in their own order. -/
def sortValues : List (String × Data) → List (String × Data)
  | [] => []
  | (k, v) :: rest => (k, sortDeep v) :: sortValues rest

end

/-- Where a node stands: at the top, as a field's value, or as a list item. -/
inductive Place where
  | top | value | item
deriving DecidableEq

mutual

/-- Writes a value as a node, record fields in the order given; `indent` is the indentation of
the enclosing collection, none at the top. -/
def Pen.node (p : Pen) (place : Place) (indent : Option Nat) : Data → Pen
  | .list [] => (p.indicator "[" true true).indicator "]" false
  | .record [] => (p.indicator "\x7b" true true).indicator "\x7d" false
  | .list items =>
    -- a list that is a field's value stays at the field's column
    let own := match indent with
      | none => 0
      | some i => if place == .value && !p.indention then i else i + step
    p.items own items
  | .record fields =>
    let own := match indent with
      | none => 0
      | some i => i + step
    p.fields own fields
  | d => p.scalar d (match indent with | none => step | some i => i + step)

/-- Writes list items at indentation `own`. -/
def Pen.items (p : Pen) (own : Nat) : List Data → Pen
  | [] => p
  | d :: rest =>
    let p := (p.indentTo own).indicator "-" true false true
    (p.node .item (some own) d).items own rest

/-- Writes record fields at indentation `own`. -/
def Pen.fields (p : Pen) (own : Nat) : List (String × Data) → Pen
  | [] => p
  | (k, v) :: rest =>
    let p := (p.indentTo own).scalar (.text k) (own + step)
    let p := p.indicator ":" false
    (p.node .value (some own) v).fields own rest

end

end Quill.Yaml

namespace Quill

/-- The YAML text of a value, ended by a line break. -/
def Data.toYaml (d : Data) : String :=
  ((Yaml.Pen.start.node .top none (Yaml.sortDeep d)).indentTo 0).out

end Quill
