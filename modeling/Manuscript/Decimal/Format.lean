import Manuscript.Decimal.Shortest

/-!
# Writing floats

A float is written with its shortest digits (`shortest`). `Notation` holds the decisions of a
written form: the range of decimal point positions written positionally, the least number of
exponent digits, and the texts of the special values. `Notation.literal` is the form of float
literals in generated programs and data: positional while the decimal point stands between 4
places left of the first digit and 16 places right of it, `.0` after an integer, an exponent
with a sign and at least two digits otherwise, and `inf`, `-inf` and `nan`.
-/

namespace Manuscript.Decimal

/-- The decisions of a written form of floats. A value `0.d₁d₂… · 10^p` is written positionally
when `lowestPoint < p ≤ highestPoint`. -/
structure Notation where
  lowestPoint : Int
  highestPoint : Int
  exponentDigits : Nat
  infinity : String
  nan : String
  deriving Inhabited, Repr

/-- Float literals: `1e-05`, `0.0001`, `1000000000000000.0`, `1e+16`. -/
def Notation.literal : Notation := ⟨-4, 16, 2, "inf", "nan"⟩

/-- The text of the digits of a natural number. -/
def digitText (n : Nat) : String := String.ofList (Nat.toDigits 10 n)

/-- Writes digits `ds` with the decimal point at position `p`, as `0.ds · 10^p`. -/
def placeDigits (n : Notation) (ds : String) (p : Int) : String :=
  let len : Int := ds.length
  if p ≤ n.lowestPoint || p > n.highestPoint then
    let first := String.ofList (ds.toList.take 1)
    let rest := String.ofList (ds.toList.drop 1)
    let x := p - 1
    let expDigits := digitText x.natAbs
    let padded := String.ofList (List.replicate (n.exponentDigits - expDigits.length) '0') ++
      expDigits
    first ++ (if rest.isEmpty then "" else "." ++ rest) ++ "e" ++ (if x < 0 then "-" else "+") ++
      padded
  else if p ≤ 0 then
    "0." ++ String.ofList (List.replicate (-p).toNat '0') ++ ds
  else if p ≥ len then
    ds ++ String.ofList (List.replicate (p - len).toNat '0') ++ ".0"
  else
    String.ofList (ds.toList.take p.toNat) ++ "." ++ String.ofList (ds.toList.drop p.toNat)

/-- Writes a float. -/
def Notation.write (n : Notation) (x : Float) : String :=
  match classify x with
  | .nan => n.nan
  | .infinity neg => (if neg then "-" else "") ++ n.infinity
  | .finite b =>
    let sign := if b.negative then "-" else ""
    if b.significand == 0 then sign ++ "0.0"
    else
      let (digits, t) := shortest b
      let ds := digitText digits
      sign ++ placeDigits n ds (ds.length + t)

end Manuscript.Decimal
