/-!
# Code point range tables

A character property of the Unicode standard is stored as a sorted list of disjoint closed
ranges of code points. `RangeTable.ofHex` reads such a list from its compact text form
(`lo-hi` or a single `cp`, in hexadecimal, separated by commas) and `RangeTable.contains` decides
membership by binary search.
-/

namespace Manuscript.Text

/-- A sorted list of disjoint closed ranges of code points. -/
structure RangeTable where
  ranges : Array (Nat × Nat)
  deriving Inhabited

namespace RangeTable

/-- The value of one hexadecimal digit, or `none`. -/
def hexDigit? (c : Char) : Option Nat :=
  if '0' ≤ c ∧ c ≤ '9' then some (c.toNat - '0'.toNat)
  else if 'a' ≤ c ∧ c ≤ 'f' then some (c.toNat - 'a'.toNat + 10)
  else if 'A' ≤ c ∧ c ≤ 'F' then some (c.toNat - 'A'.toNat + 10)
  else none

/-- The value of a hexadecimal numeral; a character that is no digit counts as zero. -/
def hexValue (s : String) : Nat :=
  s.foldl (fun acc c => acc * 16 + (hexDigit? c).getD 0) 0

/-- Reads one `lo-hi` or `cp` entry. -/
def entryOfHex (s : String) : Nat × Nat :=
  match s.splitOn "-" with
  | [lo, hi] => (hexValue lo, hexValue hi)
  | _ => (hexValue s, hexValue s)

/-- Reads a table from its comma separated text form. -/
def ofHex (s : String) : RangeTable :=
  ⟨((s.splitOn ",").filter (· ≠ "")).toArray.map entryOfHex⟩

/-- Binary search for `cp` among the ranges with index in `[lo, hi)`. -/
def search (t : RangeTable) (cp lo hi : Nat) : Bool :=
  if lo < hi then
    let mid := lo + (hi - lo) / 2
    match t.ranges[mid]? with
    | none => false
    | some (a, b) =>
      if cp < a then search t cp lo mid
      else if b < cp then search t cp (mid + 1) hi
      else true
  else false
termination_by hi - lo

/-- Whether the code point `cp` lies in one of the ranges. -/
def contains (t : RangeTable) (cp : Nat) : Bool :=
  search t cp 0 t.ranges.size

end RangeTable

end Manuscript.Text
