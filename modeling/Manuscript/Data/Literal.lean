import Manuscript.Data.Value
import Manuscript.Text.Quoted
import Manuscript.Decimal.Format

/-!
# Values as Python literals

`Value.literal` writes a value as a Python expression that evaluates to it: `None`, `True`,
`False`, integers, float literals (`Notation.literal`; `inf` and `nan` as written), quoted
text, `b'…'` bytes, `[…]` lists, `{k: v, …}` mappings and sets (`set()` when empty), and
calendar values as constructor calls. `Value.display` is the text shown for a value: text as
it is, dates and timestamps in ISO form with a space between date and time, anything else as
its literal.
-/

namespace Manuscript

open Manuscript.Text

/-- The literal of bytes: in single quotes, or double quotes when the bytes hold a single quote
and no double quote; the backslash and the quote escaped, tab, line feed and carriage return by
their short escapes, and bytes outside printable ASCII in hexadecimal. -/
def bytesLiteral (bs : List UInt8) : String :=
  let q : UInt8 := if bs.contains 39 && !bs.contains 34 then 34 else 39
  let esc (b : UInt8) : String :=
    if b == q || b == 92 then String.ofList ['\\', Char.ofNat b.toNat]
    else if b == 9 then "\\t"
    else if b == 10 then "\\n"
    else if b == 13 then "\\r"
    else if b < 32 || b ≥ 127 then "\\x" ++ hexPadded 2 b.toNat
    else (Char.ofNat b.toNat).toString
  let qc := (Char.ofNat q.toNat).toString
  "b" ++ qc ++ String.join (bs.map esc) ++ qc

/-- Two digits of a clock field or a month or day. -/
def twoDigits (n : Nat) : String :=
  let d := Nat.toDigits 10 n
  String.ofList (List.replicate (2 - d.length) '0' ++ d)

/-- A calendar date in ISO form. -/
def Date.iso (d : Date) : String :=
  let y := Nat.toDigits 10 d.year
  String.ofList (List.replicate (4 - y.length) '0' ++ y) ++ "-" ++ twoDigits d.month ++ "-" ++
    twoDigits d.day

/-- A UTC offset in minutes as `+HH:MM`. -/
def offsetText (minutes : Int) : String :=
  let sign := if minutes < 0 then "-" else "+"
  let m := minutes.natAbs
  sign ++ twoDigits (m / 60) ++ ":" ++ twoDigits (m % 60)

/-- A timestamp in ISO form with the given separator between date and time; the fraction of a
second appears only when it is not zero, with six digits. -/
def Timestamp.iso (t : Timestamp) (sep : String) : String :=
  let micro := if t.micro == 0 then ""
    else
      let d := Nat.toDigits 10 t.micro
      "." ++ String.ofList (List.replicate (6 - d.length) '0' ++ d)
  t.date.iso ++ sep ++ twoDigits t.hour ++ ":" ++ twoDigits t.minute ++ ":" ++
    twoDigits t.second ++ micro ++ (t.offset.map offsetText).getD ""

namespace Value

/-- The literal of a float. -/
def floatLiteral (x : Float) : String :=
  Decimal.Notation.literal.write x

/-- The literal of a value. -/
def literal : Value → String
  | .null => "None"
  | .bool b => if b then "True" else "False"
  | .int n => toString n
  | .float x => floatLiteral x
  | .str s => quote s
  | .bytes bs => bytesLiteral bs
  | .date d => "datetime.date(" ++ toString d.year ++ ", " ++ toString d.month ++ ", " ++
      toString d.day ++ ")"
  | .timestamp t =>
    let fields := [t.date.year, t.date.month, t.date.day, t.hour, t.minute] ++
      (if t.micro != 0 then [t.second, t.micro] else if t.second != 0 then [t.second] else [])
    "datetime.datetime(" ++ ", ".intercalate (fields.map toString) ++ ")"
  | .list xs => "[" ++ ", ".intercalate (xs.map literal) ++ "]"
  | .set xs => if xs.isEmpty then "set()" else "\x7b" ++ ", ".intercalate (xs.map literal) ++ "\x7d"
  | .dict kvs => "\x7b" ++ ", ".intercalate (kvs.map fun kv => literal kv.1 ++ ": " ++ literal kv.2) ++
      "\x7d"
  | .callable p => "<function " ++ p.name ++ ">"
decreasing_by
  · exact Value.sizeOf_lt_list ‹_›
  · exact Value.sizeOf_lt_set ‹_›
  · exact Value.sizeOf_fst_lt_dict ‹_›
  · exact Value.sizeOf_snd_lt_dict ‹_›

/-- The text shown for a value. -/
def display : Value → String
  | .str s => s
  | .date d => d.iso
  | .timestamp t => t.iso " "
  | v => v.literal

end Value

end Manuscript
