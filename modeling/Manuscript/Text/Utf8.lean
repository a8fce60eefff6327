import Manuscript.Text.Quoted

/-!
# Decoding UTF-8

`decodeUtf8` reads bytes as UTF-8 and, on the first malformed sequence, reports where it is and
why, the way decoders of the standard library report it:

* a byte that cannot start a sequence (`80`–`C1`, `F5`–`FF`) is an invalid start byte;
* a byte that does not continue the sequence is an invalid continuation byte; the report covers
  the bytes of the sequence before it. Overlong forms, surrogates and values above U+10FFFF are
  refused at the second byte;
* a sequence cut off by the end of the data is an unexpected end of data, covering the bytes up
  to the end.

A report of one byte names the byte; a longer one names the span of positions.
-/

namespace Manuscript.Text

/-- Why decoding stopped. -/
inductive DecodeProblem where
  | invalidStart
  | invalidContinuation
  | unexpectedEnd
  deriving Inhabited, Repr, DecidableEq

/-- The reason text of a problem. -/
def DecodeProblem.reason : DecodeProblem → String
  | .invalidStart => "invalid start byte"
  | .invalidContinuation => "invalid continuation byte"
  | .unexpectedEnd => "unexpected end of data"

/-- A decoding failure: the bytes, the span `[start, stop)` of the offending sequence, and the
problem. -/
structure DecodeFailure where
  bytes : ByteArray
  start : Nat
  stop : Nat
  problem : DecodeProblem

/-- The report of a decoding failure. -/
def DecodeFailure.message (f : DecodeFailure) : String :=
  if f.stop == f.start + 1 && f.start < f.bytes.size then
    "'utf-8' codec can't decode byte 0x" ++ hexPadded 2 (f.bytes.get! f.start).toNat ++
      " in position " ++ toString f.start ++ ": " ++ f.problem.reason
  else
    "'utf-8' codec can't decode bytes in position " ++ toString f.start ++ "-" ++
      toString (f.stop - 1) ++ ": " ++ f.problem.reason

/-- Whether a byte continues a sequence. -/
def isContinuationByte (b : UInt8) : Bool := 0x80 ≤ b && b < 0xC0

/-- Whether the second byte of a sequence led by `lead` is allowed: it continues, and it does not
begin an overlong form, a surrogate or a value above U+10FFFF. -/
def secondAllowed (lead b : UInt8) : Bool :=
  isContinuationByte b &&
    (if lead == 0xE0 then b ≥ 0xA0
     else if lead == 0xED then b < 0xA0
     else if lead == 0xF0 then b ≥ 0x90
     else if lead == 0xF4 then b < 0x90
     else true)

/-- The number of bytes of a sequence led by `lead`, or zero for a byte that cannot lead. -/
def sequenceLength (lead : UInt8) : Nat :=
  if lead < 0x80 then 1
  else if lead < 0xC2 then 0
  else if lead < 0xE0 then 2
  else if lead < 0xF0 then 3
  else if lead < 0xF5 then 4
  else 0

/-- The code point of a complete, valid sequence. -/
def codePoint (bs : ByteArray) (i len : Nat) : Nat :=
  let b (k : Nat) : Nat := (bs.get! (i + k)).toNat
  match len with
  | 1 => b 0
  | 2 => (b 0 % 32) * 64 + b 1 % 64
  | 3 => ((b 0 % 16) * 64 + b 1 % 64) * 64 + b 2 % 64
  | _ => (((b 0 % 8) * 64 + b 1 % 64) * 64 + b 2 % 64) * 64 + b 3 % 64

/-- Checks the sequence at index `i`: its length, or the failure it holds. -/
def checkSequence (bs : ByteArray) (i : Nat) : Except DecodeFailure Nat :=
  let lead := bs.get! i
  let len := sequenceLength lead
  let fail (stop : Nat) (p : DecodeProblem) : Except DecodeFailure Nat := .error ⟨bs, i, stop, p⟩
  if len == 0 then fail (i + 1) .invalidStart
  else if len == 1 then .ok 1
  else
    let avail := bs.size - i
    -- the bytes after the lead that are present, checked in order
    let second := if avail ≥ 2 then some (bs.get! (i + 1)) else none
    match second with
    | none => fail bs.size .unexpectedEnd
    | some b2 =>
      if !secondAllowed lead b2 then fail (i + 1) .invalidContinuation
      else if len == 2 then .ok 2
      else if avail < 3 then fail bs.size .unexpectedEnd
      else if !isContinuationByte (bs.get! (i + 2)) then fail (i + 2) .invalidContinuation
      else if len == 3 then .ok 3
      else if avail < 4 then fail bs.size .unexpectedEnd
      else if !isContinuationByte (bs.get! (i + 3)) then fail (i + 3) .invalidContinuation
      else .ok 4

/-- Decodes UTF-8. -/
def decodeUtf8 (bs : ByteArray) : Except DecodeFailure String :=
  let rec go : Nat → Nat → List Char → Except DecodeFailure String
    | 0, _, acc => .ok (String.ofList acc.reverse)
    | fuel + 1, i, acc =>
      if i < bs.size then
        match checkSequence bs i with
        | .error f => .error f
        | .ok len => go fuel (i + len) (Char.ofNat (codePoint bs i len) :: acc)
      else .ok (String.ofList acc.reverse)
  go (bs.size + 1) 0 []

/-- Replaces CR LF and lone CR by LF, as reading text does. -/
def universalNewlines (s : String) : String :=
  let rec go : List Char → List Char
    | '\r' :: '\n' :: rest => '\n' :: go rest
    | '\r' :: rest => '\n' :: go rest
    | c :: rest => c :: go rest
    | [] => []
  String.ofList (go s.toList)

end Manuscript.Text
