/-!
# Shortest decimal digits of a binary64 value

A finite binary64 value is `m · 2^q`. Every real in its rounding interval reads back as the
same value: the interval reaches halfway to each neighbour, its ends included exactly when `m`
is even (reading rounds a tie to the even significand), and at the lowest significand of a
binade the gap below is half the gap above.

`shortest` finds the fewest significant digits that read back: for 1, 2, … digits it looks at
the two multiples of the digit grid next to the value and takes the first grid with one of
them in the interval; of two, the nearer, and of two equally near, the even one. Seventeen
digits always suffice. All arithmetic is exact, on natural numbers.
-/

namespace Manuscript.Decimal

/-- A finite binary64 value `(-1)^negative · significand · 2^exponent`; `halvedBelow` marks the
lowest significand of a binade above the least one, whose gap below is half the gap above. -/
structure Binary where
  negative : Bool
  significand : Nat
  exponent : Int
  halvedBelow : Bool
  deriving Inhabited, Repr, DecidableEq

/-- The classes of binary64 values. -/
inductive FloatClass where
  | nan
  | infinity (negative : Bool)
  | finite (b : Binary)
  deriving Inhabited, Repr

/-- Decodes the bits of a float. -/
def classify (x : Float) : FloatClass :=
  let bits := x.toBits.toNat
  let negative := bits / Nat.pow 2 63 == 1
  let e : Nat := (bits / Nat.pow 2 52) % 2048
  let f : Nat := bits % Nat.pow 2 52
  if e == 2047 then (if f == 0 then .infinity negative else .nan)
  else if e == 0 then .finite ⟨negative, f, -1074, false⟩
  else .finite ⟨negative, f + Nat.pow 2 52, (e : Int) - 1075, f == 0 && e > 1⟩

/-- A nonnegative rational as numerator and denominator. -/
abbrev Ratio := Nat × Nat

/-- `2^k` for an integer `k`. -/
def pow2 (k : Int) : Ratio :=
  if 0 ≤ k then (Nat.pow 2 k.toNat, 1) else (1, Nat.pow 2 (-k).toNat)

/-- `10^k` for an integer `k`. -/
def pow10 (k : Int) : Ratio :=
  if 0 ≤ k then (Nat.pow 10 k.toNat, 1) else (1, Nat.pow 10 (-k).toNat)

/-- The product of two ratios. -/
def Ratio.mul (a b : Ratio) : Ratio := (a.1 * b.1, a.2 * b.2)

/-- `a ≤ b`. -/
def Ratio.le (a b : Ratio) : Bool := a.1 * b.2 ≤ b.1 * a.2

/-- `a < b`. -/
def Ratio.lt (a b : Ratio) : Bool := a.1 * b.2 < b.1 * a.2

/-- The number of decimal digits of `n` less one: `⌊log₁₀ n⌋` for positive `n`. -/
def log10 (n : Nat) : Nat := (Nat.toDigits 10 n).length - 1

/-- `⌊log₁₀ v⌋` for a positive ratio `v`. -/
def floorLog10 (v : Ratio) : Int :=
  let e : Int := (log10 v.1 : Int) - (log10 v.2 : Int)
  if (pow10 e).le v then e else e - 1

/-- Shortest digits of a positive value `m · 2^q`: a digit string as a number `n` without
trailing zeros, and the exponent `t` of its last digit, so that `n · 10^t` reads back as the
value. -/
def shortest (b : Binary) : Nat × Int :=
  let m := b.significand
  let q := b.exponent
  let v : Ratio := Ratio.mul (m, 1) (pow2 q)
  let low : Ratio :=
    if b.halvedBelow then Ratio.mul (4 * m - 1, 1) (pow2 (q - 2))
    else Ratio.mul (2 * m - 1, 1) (pow2 (q - 1))
  let high : Ratio := Ratio.mul (2 * m + 1, 1) (pow2 (q - 1))
  let inside (c : Ratio) : Bool :=
    if m % 2 == 0 then low.le c && c.le high else low.lt c && c.lt high
  let e := floorLog10 v
  let attempt (k : Nat) : Option (Nat × Int) :=
    let t : Int := e - (k : Int) + 1
    let g := pow10 t
    -- `n` is the grid point at or below the value
    let n := (v.1 * g.2) / (v.2 * g.1)
    let below := Ratio.mul (n, 1) g
    let above := Ratio.mul (n + 1, 1) g
    match inside below, inside above with
    | true, true =>
      -- both grid points share the denominator `g.2 * v.2` of their distances to the value
      let dBelow := v.1 * below.2 - below.1 * v.2
      let dAbove := above.1 * v.2 - v.1 * above.2
      if dBelow < dAbove || (dBelow == dAbove && n % 2 == 0) then some (n, t)
      else some (n + 1, t)
    | true, false => some (n, t)
    | false, true => some (n + 1, t)
    | false, false => none
  let found := ((List.range 17).map (· + 1)).findSome? attempt
  let (n, t) := found.getD (0, 0)
  let rec strip : Nat → Nat → Int → Nat × Int
    | 0, n, t => (n, t)
    | fuel + 1, n, t => if n ≠ 0 && n % 10 == 0 then strip fuel (n / 10) (t + 1) else (n, t)
  strip 20 n t

end Manuscript.Decimal
