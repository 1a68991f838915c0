import Quill.Console.Wrap

set_option autoImplicit false

/-! Tables drawn with box characters. Every cell has one space of padding on each side. A
column is as wide as its widest line of content, and at least its least width; when the columns
do not fit, the widest columns give up cells first (down to the next widest, sharing the excess
by turns), then all columns alike, and a cell that still does not fit is wrapped at words, a word
too long for it cut to an ellipsis. The title is centred over the table and wrapped to its
width. Header cells sit at the bottom of their row and body cells at the top. -/
namespace Quill.Console

/-- The characters of a table's frame. -/
structure Frame where
  topLeft : Char
  top : Char
  topJoin : Char
  topRight : Char
  headEdge : Char
  headRule : Char
  headLeft : Char
  headJoin : Char
  headRight : Char
  bodyEdge : Char
  bottomLeft : Char
  bottom : Char
  bottomJoin : Char
  bottomRight : Char
deriving DecidableEq, Repr

/-- Heavy lines around the header, light lines around the body. -/
def Frame.heavyHead : Frame :=
  ⟨'┏', '━', '┳', '┓', '┃', '━', '┡', '╇', '┩', '│', '└', '─', '┴',
    '┘'⟩

/-- A column: its header and the least width of its content, if it has one. -/
structure Column where
  header : String
  minWidth : Option Nat := none
deriving DecidableEq, Repr

/-- A table of text cells, each row with one cell a column. -/
structure Table where
  title : String
  columns : List Column
  rows : List (List String)
deriving DecidableEq, Repr

/-- The least and the greatest width a piece of content can take. -/
structure Span where
  least : Nat
  most : Nat
deriving DecidableEq, Repr

namespace Span

/-- The least width brought under the greatest. -/
def normalize (s : Span) : Span := ⟨min s.least s.most, s.most⟩

/-- Both widths capped at `n`. -/
def capped (s : Span) (n : Nat) : Span := ⟨min s.least n, min s.most n⟩

/-- Both widths raised to at least `n`. -/
def raised (s : Span) (n : Nat) : Span := ⟨max s.least n, max s.most n⟩

/-- A measurement as it is reported: nothing when the greatest width is zero. -/
def reported (s : Span) : Span := if s.most < 1 then ⟨0, 0⟩ else s.normalize

end Span

/-- The widths of text: its widest word and its widest line. -/
def Span.ofText (s : String) : Span :=
  let lines := if s.isEmpty then [] else textLines s
  let most := (lines.map width).foldl max 0
  let wordWidths := (s.toList.splitBy (fun a b => Text.isSpace a == Text.isSpace b)).filter
    (fun w => !w.all Text.isSpace) |>.map width
  ⟨if wordWidths.isEmpty then most else wordWidths.foldl max 0, most⟩

/-- The widths of a padded cell when at most `limit` cells are free. -/
def Span.ofCell (limit : Nat) (s : String) : Span :=
  if limit < 1 then ⟨0, 0⟩
  else
    let padded : Span :=
      if limit < 3 then ⟨limit, limit⟩
      else
        let inner := ((Span.ofText s).normalize.capped limit).reported
        (Span.mk (inner.least + 2) (inner.most + 2)).capped limit
    (padded.normalize.capped limit).reported

namespace Table

/-- The cells of column `i`, header first. -/
def cellsOf (t : Table) (i : Nat) : List String :=
  match t.columns[i]? with
  | some c => c.header :: t.rows.map fun row => (row[i]?).getD ""
  | none => []

/-- The widths a column can take when at most `limit` cells are free. -/
def measure (t : Table) (limit : Nat) (i : Nat) : Span :=
  if limit < 1 then ⟨0, 0⟩
  else
    let spans := (t.cellsOf i).map (Span.ofCell limit)
    let least := if spans.isEmpty then 1 else (spans.map (·.least)).foldl max 0
    let most := if spans.isEmpty then limit else (spans.map (·.most)).foldl max 0
    let span := (Span.mk least most).capped limit
    match (t.columns[i]?).bind (·.minWidth) with
    | some m => span.raised (m + 2)
    | none => span

/-- The cells the frame takes beside the columns: both edges and a rule between columns. -/
def frameWidth (t : Table) : Nat := 2 + (t.columns.length - 1)

end Table

/-- `a / b` rounded to the nearest integer, a half to the even one. -/
def roundHalfEven (a b : Nat) : Nat :=
  let q := a / b
  let r := a % b
  if 2 * r > b then q + 1
  else if 2 * r < b then q
  else if q % 2 = 0 then q else q + 1

/-- Takes `total` cells from the values with a nonzero ratio, shared by ratio (rounded), each
share capped by its maximum; later values get what earlier rounding left. -/
def reduceByRatio (total : Nat) (ratios maximums values : List Nat) : List Nat :=
  let ratios := (ratios.zip maximums).map fun (r, m) => if m = 0 then 0 else r
  let totalRatio := ratios.foldl (· + ·) 0
  if totalRatio = 0 then values
  else
    let step (acc : List Nat × Nat × Nat) (x : (Nat × Nat) × Nat) :=
      let (out, remaining, ratioLeft) := acc
      let ((ratio, maximum), value) := x
      if ratio ≠ 0 ∧ ratioLeft > 0 then
        let share := min maximum (roundHalfEven (ratio * remaining) ratioLeft)
        ((value - share) :: out, remaining - share, ratioLeft - ratio)
      else (value :: out, remaining, ratioLeft)
    ((ratios.zip maximums).zip values |>.foldl step ([], total, totalRatio)).1.reverse

/-- The widest columns give up cells, down to the next widest at most, until the widths fit in
`limit` or all are equally wide. -/
def collapse (limit : Nat) : Nat → List Nat → List Nat
  | 0, widths => widths
  | fuel + 1, widths =>
    let total := widths.foldl (· + ·) 0
    if total = 0 ∨ total ≤ limit then widths
    else
      let widest := widths.foldl max 0
      let next := (widths.map fun w => if w = widest then 0 else w).foldl max 0
      let ratios := widths.map fun w => if w = widest then 1 else 0
      if widest = next then widths
      else
        let excess := total - limit
        let cut := min excess (widest - next)
        collapse limit fuel (reduceByRatio excess ratios (widths.map fun _ => cut) widths)

namespace Table

/-- The widths of the columns, padding included, when the table may take `limit` cells. -/
def columnWidths (t : Table) (limit : Nat) : List Nat :=
  let inner := limit - t.frameWidth
  let indices := List.range t.columns.length
  let widths := indices.map fun i => max (t.measure inner i).most 1
  let total := widths.foldl (· + ·) 0
  if total ≤ inner then widths
  else
    let collapsed := collapse inner (total + 1) widths
    let total := collapsed.foldl (· + ·) 0
    let even :=
      if total > inner then
        reduceByRatio (total - inner) (collapsed.map fun _ => 1) collapsed collapsed
      else collapsed
    (indices.zip even).map fun (i, w) => (t.measure w i).most

end Table

/-- The lines of one padded cell `w` cells wide. -/
def cellLines (w : Nat) (s : String) : List String :=
  let shown := min (min (Span.ofText s).most w + 2) w
  let inner := shown - 2
  (wrap .left .ellipsis inner s).map fun line =>
    String.ofList (fit (' ' :: line.toList ++ [' ']) w)

/-- A rule across the columns: `left`, then each column's width of `fill` with `join` between
the columns, then `right`. -/
def rule (left fill join right : Char) (widths : List Nat) : String :=
  String.ofList (left :: (join.toString.intercalate
    (widths.map fun w => String.ofList (List.replicate w fill))).toList ++ [right])

/-- The lines of one row: its cells side by side between the edge characters, short cells
filled with blank lines at the top (`atBottom`) or at the bottom. -/
def rowLines (edge : Char) (atBottom : Bool) (widths : List Nat) (cells : List String) :
    List String :=
  let rendered := (widths.zip cells).map fun (w, s) => (w, cellLines w s)
  let height := (rendered.map (·.2.length)).foldl max 1
  let filled := rendered.map fun (w, ls) =>
    let blank := List.replicate (height - ls.length) (String.ofList (spaces w))
    if atBottom then blank ++ ls else ls ++ blank
  (List.range height).map fun k =>
    edge.toString ++ edge.toString.intercalate (filled.map fun ls => (ls[k]?).getD "") ++
      edge.toString

/-- The lines of a table when it may take `limit` cells: the centred title, the frame, the
header and the rows. -/
def Table.render (t : Table) (frame : Frame) (limit : Nat) : List String :=
  let widths := t.columnWidths limit
  let tableWidth := widths.foldl (· + ·) 0 + t.frameWidth
  let title := if t.title.isEmpty then [] else wrap .center .fold tableWidth t.title
  title ++
    [rule frame.topLeft frame.top frame.topJoin frame.topRight widths] ++
    rowLines frame.headEdge true widths (t.columns.map (·.header)) ++
    [rule frame.headLeft frame.headRule frame.headJoin frame.headRight widths] ++
    t.rows.flatMap (rowLines frame.bodyEdge false widths) ++
    [rule frame.bottomLeft frame.bottom frame.bottomJoin frame.bottomRight widths]

end Quill.Console
