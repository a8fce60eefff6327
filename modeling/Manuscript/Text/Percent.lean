/-!
# Percent encoding

`percentEncode` writes every character that is neither an ASCII letter or digit nor one of the
kept characters as `%XX` escapes of its UTF-8 bytes, in upper-case hexadecimal, and leaves a `%`
that already starts a two-digit escape alone. `percentDecode` reads runs of `%XX` escapes back:
an escape below 128 gives its character unless that character is protected, a well-formed UTF-8
sequence of two to four escapes gives its character, a malformed one a replacement character per
byte, and any other escape a single replacement character.
-/

namespace Manuscript.Text

/-- The UTF-8 bytes of a character. -/
def utf8Bytes (c : Char) : List Nat :=
  let n := c.toNat
  if n < 0x80 then [n]
  else if n < 0x800 then [0xC0 + n / 64, 0x80 + n % 64]
  else if n < 0x10000 then [0xE0 + n / 4096, 0x80 + (n / 64) % 64, 0x80 + n % 64]
  else [0xF0 + n / 262144, 0x80 + (n / 4096) % 64, 0x80 + (n / 64) % 64, 0x80 + n % 64]

/-- The upper-case hexadecimal digit of a value below 16. -/
def hexDigitUpper (d : Nat) : Char :=
  if d < 10 then Char.ofNat (48 + d) else Char.ofNat (55 + d)

/-- The escape `%XX` of a byte. -/
def escapeByte (b : Nat) : List Char :=
  ['%', hexDigitUpper (b / 16 % 16), hexDigitUpper (b % 16)]

/-- Whether `c` is a hexadecimal digit. -/
def isHexDigit (c : Char) : Bool :=
  ('0' ≤ c && c ≤ '9') || ('a' ≤ c && c ≤ 'f') || ('A' ≤ c && c ≤ 'F')

/-- The value of a hexadecimal digit. -/
def hexValueOf (c : Char) : Nat :=
  if '0' ≤ c && c ≤ '9' then c.toNat - 48
  else if 'a' ≤ c && c ≤ 'f' then c.toNat - 87
  else c.toNat - 55

/-- The characters that link destinations keep unescaped besides letters and digits. -/
def linkKeptChars : List Char := ";/?:@&=+$,-_.!~*'()#".toList

/-- Percent-encodes a list of characters, keeping letters, digits, `keep` and existing escapes. -/
def percentEncodeList (keep : List Char) : List Char → List Char
  | [] => []
  | '%' :: a :: b :: rest =>
    if isHexDigit a && isHexDigit b then '%' :: a :: b :: percentEncodeList keep rest
    else escapeByte 0x25 ++ percentEncodeList keep (a :: b :: rest)
  | c :: rest =>
    if c.toNat < 128 then
      (if c.isAlphanum || keep.contains c then [c] else escapeByte c.toNat) ++
        percentEncodeList keep rest
    else (utf8Bytes c).flatMap escapeByte ++ percentEncodeList keep rest

/-- Percent-encodes a link destination. -/
def percentEncode (s : String) : String :=
  String.ofList (percentEncodeList linkKeptChars s.toList)

/-- Decodes a well-formed UTF-8 sequence of two to four bytes, if it is one. -/
def utf8Decode? (bs : List Nat) : Option Char :=
  match bs with
  | [b1, b2] =>
    let n := (b1 % 32) * 64 + b2 % 64
    if n ≥ 0x80 then some (Char.ofNat n) else none
  | [b1, b2, b3] =>
    let n := (b1 % 16) * 4096 + (b2 % 64) * 64 + b3 % 64
    if n ≥ 0x800 && !(0xD800 ≤ n && n ≤ 0xDFFF) then some (Char.ofNat n) else none
  | [b1, b2, b3, b4] =>
    let n := (b1 % 8) * 262144 + (b2 % 64) * 4096 + (b3 % 64) * 64 + b4 % 64
    if n ≥ 0x10000 && n ≤ 0x10FFFF then some (Char.ofNat n) else none
  | _ => none

/-- Whether a byte continues a UTF-8 sequence. -/
def isContinuation (b : Nat) : Bool := b / 64 == 2

/-- The characters of a byte sequence of `k` bytes starting with `b1`, when `rest` continues it:
the decoded character, or one replacement character per byte if it is not well-formed. -/
def wideChar? (b1 : Nat) (rest : List Nat) (k : Nat) : Option (List Char) :=
  let more := rest.take (k - 1)
  if more.length == k - 1 && more.all isContinuation then
    some (match utf8Decode? (b1 :: more) with
      | some c => [c]
      | none => List.replicate k '\uFFFD')
  else none

/-- The length of the sequence that a leading byte announces, and its characters. -/
def leadSequence? (b1 : Nat) (rest : List Nat) : Option (List Char × Nat) :=
  let k := if b1 / 32 == 6 then 2 else if b1 / 16 == 14 then 3 else if b1 / 8 == 30 then 4 else 0
  if k == 0 then none else (wideChar? b1 rest k).map fun cs => (cs, k - 1)

/-- Decodes a run of escaped bytes; bytes below 128 whose character is in `protect` stay
escaped. -/
def decodeBytes (protect : List Char) : List Nat → List Char
  | [] => []
  | b1 :: rest =>
    if b1 < 0x80 then
      let c := Char.ofNat b1
      (if protect.contains c then escapeByte b1 else [c]) ++ decodeBytes protect rest
    else
      match leadSequence? b1 rest with
      | some (cs, k) => cs ++ decodeBytes protect (rest.drop k)
      | none => '\uFFFD' :: decodeBytes protect rest
termination_by bs => bs.length
decreasing_by all_goals (simp only [List.length_cons, List.length_drop]; omega)

/-- Decodes the escapes of a list; `run` holds the bytes of the current run of escapes, and
`protect` lists the characters below 128 that stay escaped. -/
def percentDecodeList (protect : List Char) : List Char → List Nat → List Char
  | '%' :: tl@(a :: b :: rest), run =>
    if isHexDigit a && isHexDigit b then
      percentDecodeList protect rest (run ++ [hexValueOf a * 16 + hexValueOf b])
    else decodeBytes protect run ++ '%' :: percentDecodeList protect tl []
  | c :: rest, run => decodeBytes protect run ++ c :: percentDecodeList protect rest []
  | [], run => decodeBytes protect run

/-- Decodes the escapes of a string, keeping those of the characters in `protect`. -/
def percentDecode (s : String) (protect : List Char) : String :=
  String.ofList (percentDecodeList protect s.toList [])

end Manuscript.Text
