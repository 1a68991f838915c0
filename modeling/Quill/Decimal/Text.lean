import Quill.Decimal.Shortest

set_option autoImplicit false

/-! Text of a double: the shortest decimal, positional while the decimal point falls within
sixteen places left of the first digit up to three places of zeros right of the point, and
otherwise one digit, a point, the rest and an exponent of at least two digits. A whole number
keeps a `.0`. The texts of infinities and of not-a-number depend on the format. -/
namespace Quill.Decimal

/-- How a format names the values that are not finite. -/
structure Specials where
  infinity : String
  nan : String

/-- The names `inf` and `nan`. -/
def Specials.plain : Specials := ⟨"inf", "nan"⟩

/-- The text of the decimal `0.d₁d₂… · 10^point` with digits `ds`, positional when
`-4 < point ≤ 16`. -/
def placeDigits (ds : String) (point : Int) : String :=
  let n : Int := ds.length
  if -4 < point ∧ point ≤ 16 then
    if point ≤ 0 then "0." ++ String.ofList (List.replicate (-point).toNat '0') ++ ds
    else if point ≥ n then ds ++ String.ofList (List.replicate (point - n).toNat '0') ++ ".0"
    else String.ofList (ds.toList.take point.toNat) ++ "." ++ String.ofList
      (ds.toList.drop point.toNat)
  else
    let exp := point - 1
    let head := String.ofList (ds.toList.take 1)
    let tail := String.ofList (ds.toList.drop 1)
    let mantissa := if tail.isEmpty then head else head ++ "." ++ tail
    let magnitude := toString exp.natAbs
    let padded := if magnitude.length < 2 then "0" ++ magnitude else magnitude
    mantissa ++ "e" ++ (if exp < 0 then "-" else "+") ++ padded

/-- The text of a double, with the given names for the values that are not finite. -/
def showWith (sp : Specials) (x : Float) : String :=
  match shapeOf x with
  | .nan => sp.nan
  | .infinite negative => (if negative then "-" else "") ++ sp.infinity
  | .finite negative m e =>
    let sign := if negative then "-" else ""
    if m = 0 then sign ++ "0.0"
    else
      let (ds, point) := (shortest m e).layout
      sign ++ placeDigits ds point

/-- The text of a double: `inf`, `-inf` and `nan` for the values that are not finite. -/
def render (x : Float) : String := showWith .plain x

end Quill.Decimal
