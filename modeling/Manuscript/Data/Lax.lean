import Manuscript.Data.Value
import Manuscript.Decimal.Shortest
import Manuscript.Text.Blank

/-!
# Lax reading of option values

Options arrive as dynamic values and are read leniently: a flag may be written as a boolean,
as the integer 0 or 1, as a float equal to 0 or 1, or as one of the words `0`, `off`, `f`,
`false`, `n`, `no`, `1`, `on`, `t`, `true`, `y`, `yes` in any case of ASCII letters. Text
fields take text or UTF-8 bytes, a list may be given as a set, and a choice field takes exactly
one of its words. An integer may be
written as an integer, a boolean, a whole float, or a decimal word (see `integerWord?`).

`sortFields` orders the names of failing fields for reports: sorted by code point, each once.
-/

namespace Manuscript.Lax

/-- Lowers the ASCII letters of a text. -/
def lowerAscii (s : String) : String :=
  s.map fun c => if 'A' ≤ c && c ≤ 'Z' then Char.ofNat (c.toNat + 32) else c

/-- A flag written as a word. -/
def flagWord? (s : String) : Option Bool :=
  let w := lowerAscii s
  if s == "0" || ["f", "n", "no", "off", "false"].contains w then some false
  else if s == "1" || ["t", "y", "on", "yes", "true"].contains w then some true
  else none

/-- A flag. -/
def bool? : Value → Option Bool
  | .bool b => some b
  | .int 0 => some false
  | .int 1 => some true
  | .float x => if x == 0.0 then some false else if x == 1.0 then some true else none
  | .str s => flagWord? s
  | _ => none

/-- The integer a float equals, when it is finite and whole. -/
def wholeFloat? (x : Float) : Option Int :=
  match Decimal.classify x with
  | .finite b =>
    let m : Int := if b.negative then -(b.significand : Int) else b.significand
    if b.exponent ≥ 0 then some (m * (Nat.pow 2 b.exponent.toNat : Int))
    else
      let d : Int := Nat.pow 2 (-b.exponent).toNat
      if m % d == 0 then some (m / d) else none
  | _ => none

/-- The value of ASCII decimal digits, most significant first. -/
def digitsValue (ds : List Char) : Nat :=
  ds.foldl (fun acc d => acc * 10 + (d.toNat - '0'.toNat)) 0

/-- Splits off one leading sign: whether it is `-`, and the rest. -/
def splitSign : List Char → Bool × List Char
  | '-' :: rest => (true, rest)
  | '+' :: rest => (false, rest)
  | cs => (false, cs)

/-- A short integer word: a sign at most, then ASCII digits only. -/
def shortInteger? (cs : List Char) : Option Int :=
  let (negative, ds) := splitSign cs
  if ds.isEmpty || !ds.all Char.isDigit then none
  else some (if negative then -(digitsValue ds : Int) else digitsValue ds)

/-- A long integer word: a sign at most, then a digit, then digits and `_` in any order. -/
def longInteger? (cs : List Char) : Option Int :=
  let (negative, ds) := splitSign cs
  match ds with
  | d :: _ =>
    if d.isDigit && ds.all (fun c => c.isDigit || c == '_') then
      let n := digitsValue (ds.filter Char.isDigit)
      some (if negative then -(n : Int) else n)
    else none
  | [] => none

/-- A word without its zero fraction: the part before a point that one or more zeros follow, and
nothing else. -/
def dropZeroFraction (cs : List Char) : Option (List Char) :=
  match cs.splitOn '.' with
  | [whole, zeros] => if !zeros.isEmpty && zeros.all (· == '0') then some whole else none
  | _ => none

/-- Whether every `_` of a word that does not start with one stands between two digits. -/
def separatesDigits : List Char → Bool
  | a :: '_' :: tail@(b :: _) => a.isDigit && b.isDigit && separatesDigits tail
  | [_, '_'] => false
  | _ :: tail => separatesDigits tail
  | [] => true

/-- A word without the `_` that stand between two digits, when every `_` does. -/
def dropDigitSeparators (cs : List Char) : Option (List Char) :=
  if cs.head? != some '_' && separatesDigits cs then some (cs.filter (· != '_')) else none

/-- The most characters that an integer word may have. -/
def integerWordLimit : Nat := 4300

/-- An integer written in decimal. White space around it is dropped. A word of fewer than 19
bytes is a sign at most and ASCII digits; a longer one may also hold `_` anywhere after its
first digit. Either may end in a point followed by zeros, and `_` that each stand between two
digits are dropped first when the word does not read otherwise. A word of more than
`integerWordLimit` bytes is refused. -/
def integerWord? (s : String) : Option Int :=
  let cs := Text.trimListBy Text.isWhiteSpace s.toList
  let size := (String.ofList cs).utf8ByteSize
  let plain (w : List Char) : Option Int :=
    if size < 19 then shortInteger? w else longInteger? w
  let read (w : List Char) : Option Int :=
    (plain w).orElse fun _ => dropZeroFraction w >>= plain
  if size > integerWordLimit then none
  else (read cs).orElse fun _ => dropDigitSeparators cs >>= read

/-- An integer: an integer, a boolean as 0 or 1, a whole float, or an integer word. -/
def integer? : Value → Option Int
  | .int n => some n
  | .bool b => some (if b then 1 else 0)
  | .float x => wholeFloat? x
  | .str s => integerWord? s
  | _ => none

/-- A text: text itself, or bytes that are UTF-8. -/
def text? : Value → Option String
  | .str s => some s
  | .bytes bs => String.fromUTF8? ⟨bs.toArray⟩
  | _ => none

/-- One of the given words. -/
def choice? (words : List String) : Value → Option String
  | .str s => if words.contains s then some s else none
  | _ => none

/-- A list of texts, given as a list or a set. -/
def texts? : Value → Option (List String)
  | .list xs | .set xs => xs.mapM text?
  | _ => none

/-- A mapping with text keys: each key is text, or bytes that are UTF-8 text. Keys that become
the same text make one entry, at the place of the first with the value of the last. -/
def record? : Value → Option (List (String × Value))
  | .dict entries => entries.foldlM (fun acc (k, v) => (text? k).map (putEntry acc · v)) []
  | _ => none

/-- Field names sorted by code point, each once. -/
def sortFields (names : List String) : List String :=
  (names.mergeSort fun a b => decide (a ≤ b)).eraseDups

end Manuscript.Lax
