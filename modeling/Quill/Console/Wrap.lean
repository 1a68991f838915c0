import Quill.Console.Fit
import Quill.Text.Space

set_option autoImplicit false

/-! Word wrapping to a width in cells. A word is its leading white space (only the first word
has any), a run of other characters, and the white space after it. Words are laid on a line
while the part before their trailing space fits; a word that fits no line is folded into pieces
or, when folding is off, left to be cut. Each text line is wrapped on its own, a line loses as
much trailing space as it overhangs the width, and then lines are justified and cut to the
width. -/
namespace Quill.Console

open Quill.Text (isSpace dropTrailingSpace)

/-- What happens to a line still wider than its width. -/
inductive Overflow where
  /-- Long words are folded over several lines; anything left over is cut. -/
  | fold
  /-- Long words stay whole and the line is cut, its last cell an ellipsis. -/
  | ellipsis
deriving DecidableEq, Repr

/-- How lines sit in their width. -/
inductive Justify where
  /-- Lines stay as wrapped. -/
  | none
  /-- Lines are padded with spaces on the right to the full width. -/
  | left
  /-- Lines lose their trailing space and are centred, an odd cell going to the right. -/
  | center
deriving DecidableEq, Repr

/-- The words of `cs`, each with the offset where it starts, counting from `start`. -/
def words (start : Nat) (cs : List Char) : List (Nat × List Char) :=
  match _h : cs.dropWhile isSpace with
  | [] => []
  | c :: rest =>
    let body := rest.takeWhile (fun d => !isSpace d)
    let tail := rest.dropWhile (fun d => !isSpace d)
    let word := cs.takeWhile isSpace ++ c :: body ++ tail.takeWhile isSpace
    (start, word) :: words (start + word.length) (tail.dropWhile isSpace)
termination_by cs.length
decreasing_by
  have h1 := Text.length_dropWhile_le isSpace cs
  have h2 := Text.length_dropWhile_le isSpace (rest.dropWhile (fun d => !isSpace d))
  have h3 := Text.length_dropWhile_le (fun d => !isSpace d) rest
  rw [_h] at h1
  simp only [List.length_cons] at h1
  omega

/-- The breaks that fold a word starting at `start` into pieces: one before every piece that
does not start the text, and the cells of the last piece. -/
def pieceBreaks (start : Nat) (breaks : List Nat) : List (List Char) → List Nat × Nat
  | [] => (breaks, 0)
  | [p] => (if start = 0 then breaks else start :: breaks, width p)
  | p :: ps =>
    pieceBreaks (start + p.length) (if start = 0 then breaks else start :: breaks) ps

/-- One word laid at the end of the line so far: the breaks so far (latest first) and the cells
used on the current line, updated for the word at `start`. -/
def layWord (limit : Nat) (folding : Bool) (acc : List Nat × Nat) (w : Nat × List Char) :
    List Nat × Nat :=
  let (breaks, used) := acc
  let (start, word) := w
  let needed := width (dropTrailingSpace word)
  if needed ≤ (limit : Int) - used then (breaks, used + width word)
  else if needed > limit then
    if folding then pieceBreaks start breaks (chop word limit)
    else (if start = 0 then breaks else start :: breaks, width word)
  else if used ≠ 0 ∧ start ≠ 0 then (start :: breaks, width word)
  else (breaks, used)

/-- The offsets at which a line is broken to fit `limit` cells. -/
def breakOffsets (cs : List Char) (limit : Nat) (folding : Bool) : List Nat :=
  ((words 0 cs).foldl (layWord limit folding) ([], 0)).1.reverse

/-- The pieces of `cs` between consecutive offsets, from the start to the end. -/
def divide (cs : List Char) (offsets : List Nat) : List (List Char) :=
  let bounds := 0 :: offsets
  let ends := offsets ++ [cs.length]
  (bounds.zip ends).map fun (a, b) => (cs.drop a).take (b - a)

/-- A line that is longer than `limit` characters loses trailing white space, as much as it is
longer. -/
def trimOverhang (limit : Nat) (cs : List Char) : List Char :=
  if cs.length > limit then
    let blank := (cs.reverse.takeWhile isSpace).length
    cs.take (cs.length - min blank (cs.length - limit))
  else cs

/-- A line cut to `limit` cells as the overflow says, and padded to them when `pad` is set. -/
def truncate (overflow : Overflow) (pad : Bool) (limit : Nat) (cs : List Char) : List Char :=
  let cells := width cs
  if cells > limit then
    match overflow with
    | .ellipsis => fit cs (limit - 1) ++ ['…']
    | .fold => fit cs limit
  else if pad then cs ++ spaces (limit - cells)
  else cs

/-- A line set in its width as `justify` says. -/
def justifyLine (justify : Justify) (overflow : Overflow) (limit : Nat) (cs : List Char) :
    List Char :=
  match justify with
  | .none => cs
  | .left => truncate overflow true limit cs
  | .center =>
    let cut := truncate overflow false limit (dropTrailingSpace cs)
    let before := (limit - width cut) / 2
    let centred := spaces before ++ cut
    centred ++ spaces (limit - width centred)

/-- Tabs replaced by spaces up to the next multiple of `size` cells. -/
def expandTabs (size : Nat) (cs : List Char) : List Char :=
  let step (acc : List Char × Nat) (c : Char) : List Char × Nat :=
    let (out, cells) := acc
    if c = '\t' then
      let reached := cells + 1
      let pad := if reached % size = 0 then 0 else size - reached % size
      (spaces (pad + 1) ++ out, reached + pad)
    else (c :: out, cells + charWidth c)
  (cs.foldl step ([], 0)).1.reverse

/-- The lines of `s` split at line feeds, an empty last line kept. -/
def textLines (s : String) : List (List Char) :=
  (s.splitOn "\n").map String.toList

/-- Text wrapped to `limit` cells: each line of it broken at words, trimmed, justified and cut. -/
def wrap (justify : Justify) (overflow : Overflow) (limit : Nat) (s : String) : List String :=
  (textLines s).flatMap fun line =>
    let line := if line.contains '\t' then expandTabs 8 line else line
    let pieces := divide line (breakOffsets line limit (overflow == .fold))
    pieces.map fun piece =>
      let shaped := justifyLine justify overflow limit (trimOverhang limit piece)
      String.ofList (truncate overflow false limit shaped)

end Quill.Console
