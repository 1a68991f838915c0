set_option autoImplicit false

/-! Similarity of two texts by matching blocks: the longest common run of characters is matched
first (the earliest in the first text, then in the second, among runs of that length), and the
parts before and after it are matched the same way. The similarity is twice the matched
characters over the total length, and a candidate is close when it reaches three fifths. -/
namespace Quill.Text

/-- The length of the common run of `a` from `i` and `b` from `j`, within the bounds. -/
def runLength (a b : Array Char) (i ahi j bhi : Nat) : Nat → Nat
  | 0 => 0
  | fuel + 1 =>
    if i < ahi ∧ j < bhi ∧
      a[i]? = b[j]? then runLength a b (i + 1) ahi (j + 1) bhi fuel + 1 else 0

/-- The longest common run within `a[alo, ahi)` and `b[blo, bhi)`: where it starts in each and
its length; the earliest in `a`, then in `b`, among the longest. -/
def longestRun (a b : Array Char) (alo ahi blo bhi : Nat) : Nat × Nat × Nat :=
  let starts := (List.range (ahi - alo)).flatMap fun di =>
    (List.range (bhi - blo)).map fun dj => (alo + di, blo + dj)
  starts.foldl (fun best (i, j) =>
    let k := runLength a b i ahi j bhi (ahi - i)
    if k > best.2.2 then (i, j, k) else best) (alo, blo, 0)

/-- The matched characters of `a[alo, ahi)` and `b[blo, bhi)`. -/
def matchedCount (a b : Array Char) : Nat → Nat → Nat → Nat → Nat → Nat
  | 0, _, _, _, _ => 0
  | fuel + 1, alo, ahi, blo, bhi =>
    let (i, j, k) := longestRun a b alo ahi blo bhi
    if k = 0 then 0
    else
      k + matchedCount a b fuel alo i blo j + matchedCount a b fuel (i + k) ahi (j + k) bhi

/-- Twice the matched characters of two texts, and their total length. -/
def similarity (a b : String) : Nat × Nat :=
  let a := a.toList.toArray
  let b := b.toList.toArray
  (2 * matchedCount a b (a.size + b.size + 1) 0 a.size 0 b.size, a.size + b.size)

/-- Whether `candidate` is close to `word`: similarity at least three fifths. -/
def isClose (word candidate : String) : Bool :=
  let (twice, total) := similarity candidate word
  total ≠ 0 && 5 * twice ≥ 3 * total

/-- Whether similarity `p` (twice the matches over the total) is below `q`, or equal with
`x` before `y`. -/
def rankedBelow (p q : Nat × Nat) (x y : String) : Bool :=
  p.1 * q.2 < q.1 * p.2 || (p.1 * q.2 == q.1 * p.2 && x < y)

/-- At most three candidates close to `word`, the most similar first (ties to the later
name). -/
def closeMatches (word : String) (candidates : List String) : List String :=
  let scored := (candidates.filter (isClose word)).map fun c => (similarity c word, c)
  let sorted := scored.mergeSort fun (p, x) (q, y) => !rankedBelow p q x y
  (sorted.take 3).map (·.2)

end Quill.Text
