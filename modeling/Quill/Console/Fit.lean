import Quill.Console.Cells

set_option autoImplicit false

/-! Fitting characters to a number of cells. `fit` pads a short run with spaces and cuts a long
one at the first prefix that fills the cells exactly, writing a space for a wide character that
would stand half outside; the prefix is found by bisection on its length. `chop` breaks a run
into pieces that each fit, starting a new piece at the first character that does not. -/
namespace Quill.Console

/-- Characters the console never shows: bell, backspace, vertical tab, form feed and carriage
return. -/
def neverShown (c : Char) : Bool :=
  c == '\x07' || c == '\x08' || c == '\x0B' || c == '\x0C' || c == '\r'

/-- `n` spaces. -/
def spaces (n : Nat) : List Char := List.replicate n ' '

/-- Bisection for the prefix of `cs` that fills `total` cells: the prefix ending at the midpoint
of `start` and `stop` is taken when it fills `total` cells, or one more with a wide character
last (which becomes a space); otherwise the half that holds the answer is searched. -/
def fitSearch (cs : List Char) (total : Nat) : Nat → Nat → Nat → List Char
  | 0, _, _ => cs.take total
  | fuel + 1, start, stop =>
    let pos := (start + stop) / 2
    let before := cs.take (pos + 1)
    let cells := width before
    if cells = total + 1 ∧ before.getLast?.map charWidth = some 2 then before.dropLast ++ [' ']
    else if cells = total then before
    else if cells > total then fitSearch cs total fuel start pos
    else fitSearch cs total fuel pos stop

/-- The characters set to exactly `total` cells: padded with spaces when short, cut when long. -/
def fit (cs : List Char) (total : Nat) : List Char :=
  if total = 0 then []
  else
    let cells := width cs
    if cells = total then cs
    else if cells < total then cs ++ spaces (total - cells)
    else fitSearch cs total (cs.length + 1) 0 cs.length

/-- Breaks characters into pieces of at most `limit` cells, left to right: a character that does
not fit on the current piece starts the next one. The first piece is empty when the first
character alone is wider than the limit. -/
def chop (cs : List Char) (limit : Nat) : List (List Char) :=
  let step (acc : List (List Char) × List Char × Nat) (c : Char) :=
    let (done, line, used) := acc
    if used + charWidth c > limit then (line.reverse :: done, [c], charWidth c)
    else (done, c :: line, used + charWidth c)
  let (done, line, _) := cs.foldl step ([], [], 0)
  (line.reverse :: done).reverse

end Quill.Console
