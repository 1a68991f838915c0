import Quill.Decimal.Binary

set_option autoImplicit false

/-! The shortest decimal of a double: the fewest significant digits whose decimal reads back
as the same double, and of two such decimals with that many digits the nearer one (an exact
tie goes to the even last digit). A double `m · 2^e` reads back from every number strictly
between the midpoints to its neighbours, and from the midpoints themselves when `m` is even. -/
namespace Quill.Decimal

/-- The interval of numbers that read back as the positive double `m · 2^e`, and whether its
ends belong to it. -/
structure Window where
  low : Ratio
  high : Ratio
  closed : Bool

/-- The window of `m · 2^e`. Below a power of two whose exponent is above the least normal one
the gap to the lower neighbour is half the gap to the upper one. -/
def windowOf (m : Nat) (e : Int) : Window :=
  let narrowBelow := m = Nat.pow 2 fractionBits ∧ e > leastExponent
  { low :=
      if narrowBelow then Ratio.ofBinary (4 * m - 1) (e - 2) else Ratio.ofBinary (2 * m - 1) (e - 1)
    high := Ratio.ofBinary (2 * m + 1) (e - 1)
    closed := m % 2 == 0 }

/-- Whether `r` reads back through window `w`. -/
def Window.holds (w : Window) (r : Ratio) : Bool :=
  if w.closed then Ratio.le w.low r && Ratio.le r w.high
  else Ratio.lt w.low r && Ratio.lt r w.high

/-- The number of decimal digits of `n` (zero has one). -/
def decimalLength (n : Nat) : Nat := (Nat.toDigits 10 n).length

/-- `⌊log₁₀ (num / den)⌋` for a positive fraction. -/
def floorLog10 (r : Ratio) : Int :=
  let guess : Int := (decimalLength r.num : Int) - (decimalLength r.den : Int)
  if Ratio.le (Ratio.ofDecimal 1 guess) r then guess else guess - 1

/-- A decimal `digits · 10^exponent`. -/
structure Scientific where
  digits : Nat
  exponent : Int
deriving DecidableEq, Repr

/-- The decimal with `n` significant digits nearest to `v` that reads back through `w`, if one
does; `top` is `⌊log₁₀ v⌋`. -/
def onGrid (w : Window) (v : Ratio) (top : Int) (n : Nat) : Option Scientific :=
  let p := top - n + 1
  -- v / 10^p as num / den
  let num := if p ≤ 0 then v.num * Nat.pow 10 (-p).toNat else v.num
  let den := if p ≤ 0 then v.den else v.den * Nat.pow 10 p.toNat
  let below := num / den
  let rest := num % den
  if rest = 0 then some ⟨below, p⟩
  else
    let downOk := w.holds (Ratio.ofDecimal below p)
    let upOk := w.holds (Ratio.ofDecimal (below + 1) p)
    if downOk && upOk then
      if 2 * rest < den then some ⟨below, p⟩
      else if 2 * rest > den then some ⟨below + 1, p⟩
      else if below % 2 = 0 then some ⟨below, p⟩ else some ⟨below + 1, p⟩
    else if downOk then some ⟨below, p⟩
    else if upOk then some ⟨below + 1, p⟩
    else none

/-- Drops the trailing zeros of a decimal's digits into its exponent. -/
def trimZeros (s : Scientific) : Scientific :=
  if h : s.digits ≠ 0 ∧ s.digits % 10 = 0 then
    trimZeros ⟨s.digits / 10, s.exponent + 1⟩
  else s
termination_by s.digits
decreasing_by omega

/-- The shortest decimal of the positive double `m · 2^e` (seventeen digits always suffice). -/
def shortest (m : Nat) (e : Int) : Scientific :=
  let v := Ratio.ofBinary m e
  let w := windowOf m e
  let top := floorLog10 v
  let found := (List.range 17).findSome? fun i => onGrid w v top (i + 1)
  trimZeros (found.getD ⟨m, 0⟩)

/-- The digits of a decimal as text, and the place of its decimal point counted from the
first digit: `digits · 10^exponent = 0.d₁d₂… · 10^point`. -/
def Scientific.layout (s : Scientific) : String × Int :=
  let text := toString s.digits
  (text, s.exponent + text.length)

end Quill.Decimal
