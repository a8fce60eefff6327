import Manuscript.Text.Blank
import Manuscript.Text.Digit

/-!
# Reading numbers from text

`readInt?` and `readFloat?` read the text of a number the way the standard number constructors
of data files read it: white space around it is ignored, a sign may lead, and a single `_` may
stand between two digits. A decimal digit of any script counts as the ASCII digit of its value,
and white space beyond ASCII counts as a space; any other character beyond ASCII makes the text
no number. Around the number, only the ASCII white space characters (tab, line feed, vertical
tab, form feed, carriage return and space) and the white space beyond ASCII are dropped.

* An integer in base 2, 8, 10 or 16 has digits of its base; in bases 2, 8 and 16 the prefix
  `0b`, `0o` or `0x` (either case) may lead, and a `_` may follow the prefix. A decimal integer
  whose leading run of digits is longer than `maxDigits` is refused for its length.
* A float is `inf`, `infinity` or `nan` in any case, or a decimal with digits before or after an
  optional point and an optional exponent. The decimal is rounded to the nearest binary64
  value, a tie to the even one; far beyond the range it is infinite or zero.
-/

namespace Manuscript.Decimal

open Manuscript.Text

/-- The binary64 value nearest to `mantissa · 10^exponent`. -/
def toFloat (mantissa : Nat) (exponent : Int) : Float :=
  if mantissa == 0 then 0.0
  else
    let digits : Int := (Nat.toDigits 10 mantissa).length
    if digits + exponent > 400 then Float.ofScientific 1 false 400
    else if digits + exponent < -400 then 0.0
    else Float.ofScientific mantissa (exponent < 0) exponent.natAbs

/-- The value of a digit in bases up to 36. -/
def digitValue (c : Char) : Option Nat :=
  if '0' ≤ c && c ≤ '9' then some (c.toNat - '0'.toNat)
  else if 'a' ≤ c && c ≤ 'z' then some (c.toNat - 'a'.toNat + 10)
  else if 'A' ≤ c && c ≤ 'Z' then some (c.toNat - 'A'.toNat + 10)
  else none

/-- Reads digits of a base with single `_` between digits: their value and their number. -/
def readDigits (base : Nat) (cs : List Char) : Option (Nat × Nat) := do
  if (cs.splitOn '_').any (·.isEmpty) then none
  let ds ← (cs.filter (· != '_')).mapM fun c => (digitValue c).filter (· < base)
  return (ds.foldl (fun n d => base * n + d) 0, ds.length)

/-- The ASCII form of the characters of a number: ASCII stays, white space beyond ASCII becomes a
space, a decimal digit beyond ASCII becomes the ASCII digit of its value. Any other character
beyond ASCII ends the form with `?`, which no number holds. -/
def asciiForm : List Char → List Char
  | [] => []
  | c :: rest =>
    if c.toNat < 128 then c :: asciiForm rest
    else if isBlank c then ' ' :: asciiForm rest
    else
      match decimalDigit? c with
      | some d => Char.ofNat ('0'.toNat + d) :: asciiForm rest
      | none => ['?']

/-- Whether `c` is ASCII white space. -/
def isAsciiSpace (c : Char) : Bool :=
  c == ' ' || (9 ≤ c.toNat && c.toNat ≤ 13)

/-- Removes the ASCII white space around a text. -/
def strip (cs : List Char) : List Char :=
  Text.trimListBy isAsciiSpace cs

/-- Splits off a leading sign: whether it is `-`, and the rest. -/
def splitSign : List Char → Bool × List Char
  | '-' :: rest => (true, rest)
  | '+' :: rest => (false, rest)
  | cs => (false, cs)

/-- The most decimal digits that an integer may be read from. -/
def maxDigits : Nat := 4300

/-- Why a text is no integer. -/
inductive IntFailure where
  /-- The text is no integer of the base. -/
  | invalid
  /-- The leading run of decimal digits is too long; it has `count` digits. -/
  | tooManyDigits (count : Nat)
  deriving Inhabited, Repr, DecidableEq

/-- The number of digits of a leading run of decimal digits and single `_` between them that is
longer than `maxDigits`. -/
def overlongRun (cs : List Char) : Option Nat :=
  let run := cs.takeWhile fun c => c.isDigit || c == '_'
  let count := (run.filter Char.isDigit).length
  if (run.splitOn '_').any (·.isEmpty) || count ≤ maxDigits then none else some count

/-- Reads an integer in a base, or says why the text is none. -/
def readInteger (s : String) (base : Nat) : Except IntFailure Int := do
  let (negative, cs) := splitSign (strip (asciiForm s.toList))
  let marker := match base with
    | 2 => some 'b'
    | 8 => some 'o'
    | 16 => some 'x'
    | _ => none
  let cs := match marker, cs with
    | some m, '0' :: c :: rest =>
      if c.toLower == m then (match rest with | '_' :: r => r | r => r) else cs
    | _, cs => cs
  if base == 10 then
    if let some count := overlongRun cs then throw (.tooManyDigits count)
  let some (n, _) := readDigits base cs | throw .invalid
  return if negative then -(n : Int) else n

/-- Reads an integer in a base. -/
def readInt? (s : String) (base : Nat) : Option Int :=
  (readInteger s base).toOption

/-- Splits a text at the first character that is neither a digit nor `_`. -/
def spanDigits (cs : List Char) : List Char × List Char :=
  let isPart (c : Char) : Bool := ('0' ≤ c && c ≤ '9') || c == '_'
  (cs.takeWhile isPart, cs.dropWhile isPart)

/-- Reads the exponent of a decimal: `e` or `E`, a sign and digits; nothing reads as zero. -/
def readExponent : List Char → Option Int
  | [] => some 0
  | c :: rest =>
    if c == 'e' || c == 'E' then do
      let (negative, ds) := splitSign rest
      let (v, _) ← readDigits 10 ds
      return if negative then -(v : Int) else v
    else none

/-- Reads a float. -/
def readFloat? (s : String) : Option Float := do
  let (negative, cs) := splitSign (strip (asciiForm s.toList))
  let word := String.ofList (cs.map Char.toLower)
  let magnitude ←
    if word == "inf" || word == "infinity" then some (Float.ofScientific 1 false 400)
    else if word == "nan" then some (0.0 / 0.0)
    else do
      let (whole, rest) := spanDigits cs
      let (fraction, rest) := match rest with
        | '.' :: r => spanDigits r
        | r => ([], r)
      let (w, _) ← if whole.isEmpty then some (0, 0) else readDigits 10 whole
      let (f, fk) ← if fraction.isEmpty then some (0, 0) else readDigits 10 fraction
      if whole.isEmpty && fraction.isEmpty then none
      let e ← readExponent rest
      some (toFloat (w * Nat.pow 10 fk + f) (e - fk))
  return if negative then -magnitude else magnitude

end Manuscript.Decimal
