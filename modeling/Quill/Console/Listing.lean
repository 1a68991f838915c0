import Quill.Console.Fit
import Quill.Text.Space

set_option autoImplicit false

/-! Code listings with line numbers. Each line of the code is shown after its number, which is
right-aligned to the digits of the last number and set off by two spaces before and one after;
the code is cut or padded to the rest of the width. Carriage returns end lines like line feeds,
a leading byte-order mark is dropped, tabs stop every four characters, characters the console
never shows are left out, and code that ends with a line feed shows one more, empty, numbered
line. -/
namespace Quill.Console

/-- Tabs replaced by spaces up to the next multiple of `size` characters, counted from the
start of each line. -/
def expandTabStops (size : Nat) (cs : List Char) : List Char :=
  let step (acc : List Char × Nat) (c : Char) : List Char × Nat :=
    let (out, column) := acc
    if c = '\t' then
      let pad := size - column % size
      (spaces pad ++ out, column + pad)
    else if c = '\n' ∨ c = '\r' then (c :: out, 0)
    else (c :: out, column + 1)
  (cs.foldl step ([], 0)).1.reverse

/-- `s` padded on the left with spaces to `n` characters. -/
def padLeft (n : Nat) (s : String) : String :=
  String.ofList (spaces (n - s.length)) ++ s

/-- The lines of a listing of `code` that takes `limit` cells. -/
def listing (limit : Nat) (code : String) : List String :=
  let endsOnBreak := code.endsWith "\n"
  let text := if endsOnBreak then code.toList else code.toList ++ ['\n']
  let text := Text.unifyBreaks (expandTabStops 4 text)
  let text := match text with
    | '\uFEFF' :: rest => rest
    | cs => cs
  let lines := (String.ofList text).splitOn "\n"
  let lines := (if endsOnBreak then lines else lines.dropLast).map fun l =>
    String.ofList (l.toList.filter fun c => !neverShown c)
  let digits := (toString (1 + code.toList.count '\n')).length
  let codeWidth := limit - (digits + 2) - 1
  (List.range lines.length).zip lines |>.map fun (i, line) =>
    "  " ++ padLeft digits (toString (i + 1)) ++ " " ++ String.ofList (fit line.toList codeWidth)

end Quill.Console
