/-!
# Punycode

The Bootstring encoding of RFC 3492 with the Punycode parameters, which writes a label of
arbitrary code points with the ASCII letters, digits and `-`. `Punycode.encode` keeps the basic
code points in order, then a `-` if there were any, then the variable-length integers that
insert the other code points. `Punycode.decode` reverses it and fails on malformed input.
-/

namespace Manuscript.Text.Punycode

/-- The threshold of the `j`-th digit of a variable-length integer under `bias`. -/
def threshold (j bias : Nat) : Nat :=
  let r : Int := 36 * (j + 1) - bias
  if r < 1 then 1 else if r > 26 then 26 else r.toNat

/-- The digit character of a value below 36. -/
def digitChar (d : Nat) : Char :=
  if d < 26 then Char.ofNat (97 + d) else Char.ofNat (22 + d)

/-- Writes `n` as a variable-length integer under `bias`. -/
def encodeInteger (n bias : Nat) : List Char :=
  go n 0 (n + 1)
where
  go (n j : Nat) : Nat → List Char
    | 0 => []
    | fuel + 1 =>
      let t := threshold j bias
      if n < t then [digitChar n]
      else digitChar (t + (n - t) % (36 - t)) :: go ((n - t) / (36 - t)) (j + 1) fuel

/-- The bias after a delta has been written. -/
def adapt (delta : Nat) (first : Bool) (numPoints : Nat) : Nat :=
  let delta := if first then delta / 700 else delta / 2
  let delta := delta + delta / numPoints
  let rec loop (delta divisions : Nat) : Nat → Nat
    | 0 => divisions + 36 * delta / (delta + 38)
    | fuel + 1 =>
      if delta > 455 then loop (delta / 35) (divisions + 36) fuel
      else divisions + 36 * delta / (delta + 38)
  loop delta 0 (delta + 1)

/-- The deltas that insert the non-basic code points of `cs`, in the order of the standard:
by code point, and for equal code points by position. -/
def deltas (cs : List Nat) : List Nat :=
  let extended := (cs.filter (· ≥ 128)).mergeSort (· ≤ ·) |>.eraseDups
  let step (acc : List Nat × Nat × Int) (c : Nat) : List Nat × Nat × Int :=
    let (out, oldChar, oldIndex) := acc
    let curLen := (cs.filter (· < c)).length
    let delta0 : Int := (curLen + 1) * (c - oldChar)
    -- walk the string, counting the code points below `c`, and emit at each occurrence of `c`
    let (out, oldIndex, _, _, _) :=
      cs.foldl (fun (st : List Nat × Int × Int × Int × Bool) d =>
        let (out, oldIndex, index, delta, _) := st
        if d == c then
          let delta := delta + (index + 1) - oldIndex
          (out ++ [(delta - 1).toNat], index + 1, index + 1, 0, true)
        else if d < c then (out, oldIndex, index + 1, delta, true)
        else (out, oldIndex, index, delta, true))
        (out, oldIndex, -1, delta0, false)
    (out, c, oldIndex)
  (extended.foldl step ([], 128, -1)).1

/-- Encodes a label. -/
def encode (s : String) : String :=
  let cs := s.toList.map Char.toNat
  let basic := cs.filter (· < 128)
  let ds := deltas cs
  let (body, _) := ds.zipIdx.foldl (fun (acc : List Char × Nat) (d, i) =>
    let (out, bias) := acc
    (out ++ encodeInteger d bias, adapt d (i == 0) (basic.length + i + 1))) ([], 72)
  let head := basic.map Char.ofNat
  String.ofList (if head.isEmpty then body else head ++ ['-'] ++ body)

/-- The value of a digit character, upper case or digit, as the decoder reads it. -/
def digitValue? (c : Char) : Option Nat :=
  if 'A' ≤ c ∧ c ≤ 'Z' then some (c.toNat - 65)
  else if '0' ≤ c ∧ c ≤ '9' then some (c.toNat - 22)
  else none

/-- Reads one variable-length integer from `cs` under `bias`. -/
def decodeInteger (cs : List Char) (bias : Nat) : Option (Nat × List Char) :=
  go cs 0 1 0
where
  go : List Char → Nat → Nat → Nat → Option (Nat × List Char)
    | [], _, _, _ => none
    | c :: rest, result, w, j => do
      let d ← digitValue? c
      let t := threshold j bias
      let result := result + d * w
      if d < t then some (result, rest) else go rest result (w * (36 - t)) (j + 1)

/-- Inserts the code points that the integers of `ext` describe into `base`. -/
def insertAll (base : List Nat) (ext : List Char) : Option (List Nat) :=
  go base ext 128 (-1) 72 true ext.length
where
  go (base : List Nat) (ext : List Char) (char pos : Int) (bias : Nat) (first : Bool) :
      Nat → Option (List Nat)
    | 0 => some base
    | fuel + 1 =>
      if ext.isEmpty then some base
      else do
        let (delta, rest) ← decodeInteger ext bias
        let n : Int := base.length + 1
        let pos1 := pos + delta + 1
        let char := char + pos1 / n
        if char > 0x10FFFF then none
        else
          let p := (pos1 % n).toNat
          let base := base.take p ++ [char.toNat] ++ base.drop p
          go base rest char p (adapt delta first base.length) false fuel

/-- Decodes a label; `none` when it is not valid Punycode. -/
def decode (s : String) : Option String :=
  let cs := s.toList
  if cs.any (·.toNat ≥ 128) then none
  else
    let (base, ext) :=
      match cs.reverse.findIdx? (· == '-') with
      | some k => (cs.take (cs.length - 1 - k), cs.drop (cs.length - k))
      | none => ([], cs)
    (insertAll (base.map Char.toNat) (ext.map Char.toUpper)).map fun ps =>
      String.ofList (ps.map Char.ofNat)

end Manuscript.Text.Punycode
