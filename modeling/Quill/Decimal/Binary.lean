set_option autoImplicit false

/-! Doubles as exact numbers. A finite double is a sign, a significand `m` and a binary
exponent `e`, and stands for `m · 2^e`; reading a decimal `m · 10^k` into a double takes the
nearest one, a tie going to the even significand, and everything beyond the largest finite
double to infinity. All arithmetic is on `Nat`, so each step is exact; powers are written
`Nat.pow`, the plain recursive power, so they mean the same whatever else is imported. -/
namespace Quill.Decimal

/-- A number in fraction form `num / den`, with `den` positive where it is used. -/
structure Ratio where
  num : Nat
  den : Nat
deriving DecidableEq, Repr

namespace Ratio

/-- `r · 2^s` as a fraction. -/
def ofBinary (r : Nat) (s : Int) : Ratio :=
  if 0 ≤ s then ⟨r * Nat.pow 2 s.toNat, 1⟩ else ⟨r, Nat.pow 2 (-s).toNat⟩

/-- `c · 10^p` as a fraction. -/
def ofDecimal (c : Nat) (p : Int) : Ratio :=
  if 0 ≤ p then ⟨c * Nat.pow 10 p.toNat, 1⟩ else ⟨c, Nat.pow 10 (-p).toNat⟩

/-- Strict order of fractions, by cross multiplication. -/
def lt (a b : Ratio) : Bool := a.num * b.den < b.num * a.den

/-- Order of fractions, by cross multiplication. -/
def le (a b : Ratio) : Bool := a.num * b.den ≤ b.num * a.den

end Ratio

/-- What a double is: not a number, an infinity, or a finite `m · 2^e`, each with its sign. -/
inductive Shape where
  | nan
  | infinite (negative : Bool)
  | finite (negative : Bool) (m : Nat) (e : Int)
deriving DecidableEq, Repr

/-- Number of significand bits below the leading one. -/
def fractionBits : Nat := 52

/-- The exponent of the smallest subnormal step, `2^-1074`. -/
def leastExponent : Int := -1074

/-- The shape of a double, read from its bits. -/
def shapeOf (x : Float) : Shape :=
  let bits : Nat := x.toBits.toNat
  let negative := bits / Nat.pow 2 63 % 2 == 1
  let biased : Nat := bits / Nat.pow 2 fractionBits % Nat.pow 2 11
  let fraction : Nat := bits % Nat.pow 2 fractionBits
  if biased = Nat.pow 2 11 - 1 then
    if fraction = 0 then .infinite negative else .nan
  else if biased = 0 then .finite negative fraction leastExponent
  else .finite negative (fraction + Nat.pow 2 fractionBits) ((biased : Int) - 1075)

/-- The biased exponent field of a finite double with significand `m` and exponent `e`. -/
def biasedOf (m : Nat) (e : Int) : Nat :=
  if m < Nat.pow 2 fractionBits then 0 else (e + 1075).toNat

/-- The double with sign `negative`, significand `m` (below `2^53`) and exponent `e`. -/
def pack (negative : Bool) (m : Nat) (e : Int) : Float :=
  let biased := biasedOf m e
  let bits := (if negative then Nat.pow 2 63 else 0) + biased * Nat.pow 2 fractionBits +
    m % Nat.pow 2 fractionBits
  Float.ofBits (UInt64.ofNat bits)

/-- Infinity with the given sign. -/
def infinity (negative : Bool) : Float :=
  Float.ofBits (UInt64.ofNat
    ((if negative then Nat.pow 2 63 else 0) + (Nat.pow 2 11 - 1) * Nat.pow 2 fractionBits))

/-- The number of binary digits of `n` (zero has none). -/
def bitLength (n : Nat) : Nat := if n = 0 then 0 else n.log2 + 1

/-- `⌊log₂ (num / den)⌋` for a positive fraction. -/
def floorLog2 (r : Ratio) : Int :=
  let guess : Int := (bitLength r.num : Int) - (bitLength r.den : Int)
  if Ratio.le (Ratio.ofBinary 1 guess) r then guess else guess - 1

/-- `num / den` rounded to the nearest integer, a tie to the even one. -/
def roundHalfEven (num den : Nat) : Nat :=
  let q := num / den
  let r := num % den
  if 2 * r > den ∨ (2 * r = den ∧ q % 2 = 1) then q + 1 else q

/-- The double nearest to the positive fraction `r`, with the given sign. -/
def nearest (negative : Bool) (r : Ratio) : Float :=
  if r.num = 0 then pack negative 0 leastExponent
  else
    let top := floorLog2 r
    -- the exponent of the last significand bit: 52 below the leading one, never below 2^-1074
    let e := max (top - fractionBits) leastExponent
    let scaled := Ratio.ofBinary 1 (-e)
    let m := roundHalfEven (r.num * scaled.num) (r.den * scaled.den)
    let (m, e) :=
      if m = Nat.pow 2 (fractionBits + 1) then (Nat.pow 2 fractionBits, e + 1) else (m, e)
    if e + fractionBits > 1023 then infinity negative else pack negative m e

/-- The double nearest to `m · 10^k`. A decimal of `d` digits lies below `10^(d + k)` and not
below `10^(d + k - 1)`, so one from `10^309` up is beyond every finite double and one below
`10^-324` is nearer to zero than to the least subnormal; both are settled without the
arithmetic. -/
def ofDecimal (negative : Bool) (m : Nat) (k : Int) : Float :=
  let size : Int := (bitLength m : Int)
  -- `bitLength m` bounds the decimal length from above, `bitLength m / 4` from below
  if m = 0 then pack negative 0 leastExponent
  else if (size / 4 : Int) + k - 1 ≥ 309 then infinity negative
  else if size + k ≤ -325 then pack negative 0 leastExponent
  else nearest negative (Ratio.ofDecimal m k)

end Quill.Decimal
