import Manuscript.Text.Blank

/-!
# Similar words

The similarity of two words is the share of their characters that lie in common blocks:
`2 * M / T`, where `T` is the total length of both words and `M` the number of characters
matched. Matching takes the longest common block first, the one that starts earliest in the first
word when several are equally long and then the earliest in the second, and matches what lies on
either side of it the same way.

A word is close to another when their similarity is at least `0.6`. The close words of a list
are ranked by similarity, then by the words themselves, both descending, and the best few are
kept.
-/

namespace Manuscript.Text

/-- The length of the common run at the starts of two lists. -/
def commonRun : List Char → List Char → Nat
  | a :: as, b :: bs => if a == b then commonRun as bs + 1 else 0
  | _, _ => 0

/-- The longest common block of `a[alo, ahi)` and `b[blo, bhi)`: its start in `a`, its start in
`b` and its length. Of equally long blocks the one that starts first in `a`, then in `b`, wins. -/
def longestBlock (a b : Array Char) (alo ahi blo bhi : Nat) : Nat × Nat × Nat :=
  (List.range (ahi - alo)).foldl (fun best di =>
    (List.range (bhi - blo)).foldl (fun best dj =>
      let i := alo + di
      let j := blo + dj
      let k := commonRun (a.extract i ahi).toList (b.extract j bhi).toList
      if k > best.2.2 then (i, j, k) else best) best) (alo, blo, 0)

/-- The number of characters matched between `a[alo, ahi)` and `b[blo, bhi)`. Each step takes
the longest common block and matches the parts before it and after it; `fuel` bounds the depth,
and the length of `a` is enough since every block holds a character. -/
def matchedCount (a b : Array Char) : Nat → Nat → Nat → Nat → Nat → Nat
  | 0, _, _, _, _ => 0
  | fuel + 1, alo, ahi, blo, bhi =>
    let (i, j, k) := longestBlock a b alo ahi blo bhi
    if k == 0 then 0
    else
      let before := if alo < i && blo < j then matchedCount a b fuel alo i blo j else 0
      let after := if i + k < ahi && j + k < bhi then matchedCount a b fuel (i + k) ahi (j + k) bhi
        else 0
      k + before + after

/-- The characters matched between two words, and their total length. -/
def similarity (a b : String) : Nat × Nat :=
  let xs := a.toList.toArray
  let ys := b.toList.toArray
  (matchedCount xs ys (xs.size + 1) 0 xs.size 0 ys.size, xs.size + ys.size)

/-- Whether the similarity `2 * m / t` is at least `0.6`; two empty words are alike. -/
def isClose (s : Nat × Nat) : Bool :=
  s.2 == 0 || 3 * s.2 ≤ 10 * s.1

/-- Whether the first of two scored words ranks above the second: a higher similarity, or the
same similarity and a greater word. -/
def ranksAbove (x y : (Nat × Nat) × String) : Bool :=
  let l := x.1.1 * y.1.2
  let r := y.1.1 * x.1.2
  -- Two empty words have similarity one, which the cross products do not see.
  let lx := if x.1.2 == 0 then 1 else 0
  let ly := if y.1.2 == 0 then 1 else 0
  if lx != ly then lx > ly
  else if l != r then l > r
  else y.2 < x.2

/-- The words of a list close to `word`, best first, at most `n` of them. -/
def closeMatches (word : String) (candidates : List String) (n : Nat) : List String :=
  let scored := candidates.filterMap fun x =>
    let s := similarity x word
    if isClose s then some (s, x) else none
  ((scored.mergeSort ranksAbove).take n).map (·.2)

end Manuscript.Text
