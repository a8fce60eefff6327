/-!
# Tags of YAML nodes

A node's tag names the kind of its value. Tags may be written on a node; a plain scalar without
one gets its tag from the form of its text, by the rules of YAML 1.1:

* `null`: empty, `~`, `null`, `Null`, `NULL`;
* `bool`: `yes`, `no`, `true`, `false`, `on`, `off`, each in lowercase, capitalized or uppercase;
* `int`: decimal (`0` or no leading zero), `0b` binary, `0` octal, `0x` hexadecimal, and
  base 60 (`1:30`), with a sign and `_` between digits;
* `float`: a decimal with a point and an exponent with a sign (`1.0e+3`, never `1e3`), a point
  and digits (`.5`), base 60 with a fraction, `.inf` with a sign and `.nan`;
* `timestamp`: a date `2001-12-14`, or a date with a time, a fraction and a zone;
* `merge` for `<<` and `value` for `=`.

The rules are tried in that fixed order, only those whose first character the text can start
with; like a line end, a final line feed may follow the text. Any other scalar is a `str`,
a sequence a `seq`, a mapping a `map`.
-/

namespace Manuscript.Yaml

namespace Tag

/-- The prefix of the standard tags. -/
def standard (name : String) : String := "tag:yaml.org,2002:" ++ name

/-- The tag of strings. -/
def str : String := standard "str"
/-- The tag of sequences. -/
def seq : String := standard "seq"
/-- The tag of mappings. -/
def map : String := standard "map"
/-- The tag of null. -/
def null : String := standard "null"
/-- The tag of booleans. -/
def bool : String := standard "bool"
/-- The tag of integers. -/
def int : String := standard "int"
/-- The tag of floats. -/
def float : String := standard "float"
/-- The tag of timestamps. -/
def timestamp : String := standard "timestamp"
/-- The tag of merge keys. -/
def merge : String := standard "merge"
/-- The tag of value keys. -/
def value : String := standard "value"
/-- The tag of the indicator characters. -/
def indicator : String := standard "yaml"

/-- Whether `c` is an ASCII digit. -/
def isDigit (c : Char) : Bool := '0' ≤ c && c ≤ '9'

/-- Whether `c` is a digit or `_`. -/
def isDigitOrUnderscore (c : Char) : Bool := isDigit c || c == '_'

/-- Drops a leading sign. -/
def dropSign : List Char → List Char
  | '-' :: cs | '+' :: cs => cs
  | cs => cs

/-- `[0-9][0-9_]*`. -/
def isDigitRun : List Char → Bool
  | c :: cs => isDigit c && cs.all isDigitOrUnderscore
  | [] => false

/-- `[0-5]?[0-9]`: one digit, or two of which the first is at most 5. -/
def isSexagesimalDigit : List Char → Bool
  | [d] => isDigit d
  | [a, d] => '0' ≤ a && a ≤ '5' && isDigit d
  | _ => false

/-- `[eE][-+][0-9]+`, or nothing. -/
def isExponent : List Char → Bool
  | [] => true
  | e :: s :: ds => (e == 'e' || e == 'E') && (s == '-' || s == '+') && !ds.isEmpty && ds.all isDigit
  | _ => false

/-- `[0-9_]*` followed by an optional exponent. -/
def isFractionAndExponent (cs : List Char) : Bool :=
  isExponent (cs.dropWhile isDigitOrUnderscore)

/-- The form of a float. -/
def isFloat (cs : List Char) : Bool :=
  let unsigned := dropSign cs
  let pointed :=
    match unsigned.splitOn '.' with
    | whole :: rest =>
      !rest.isEmpty && isDigitRun whole && isFractionAndExponent (['.'].intercalate rest)
    | [] => false
  let leadingPoint :=
    match cs with
    | '.' :: d :: rest => isDigit d && isFractionAndExponent rest
    | _ => false
  let sexagesimal :=
    match unsigned.splitOn ':' with
    | first :: second :: rest =>
      let parts := second :: rest
      let middle := parts.dropLast
      let last := parts.getLastD []
      isDigitRun first && middle.all isSexagesimalDigit &&
        (match last.splitOn '.' with
         | [digits, fraction] => isSexagesimalDigit digits && fraction.all isDigitOrUnderscore
         | _ => false)
    | _ => false
  let infinite := [".inf", ".Inf", ".INF"].contains (String.ofList unsigned)
  let notANumber := [".nan", ".NaN", ".NAN"].contains (String.ofList cs)
  pointed || leadingPoint || sexagesimal || infinite || notANumber

/-- The form of an integer. -/
def isInt (cs : List Char) : Bool :=
  match dropSign cs with
  | '0' :: 'b' :: ds => !ds.isEmpty && ds.all fun c => c == '0' || c == '1' || c == '_'
  | '0' :: 'x' :: ds =>
    !ds.isEmpty && ds.all fun c => isDigit c || ('a' ≤ c && c ≤ 'f') || ('A' ≤ c && c ≤ 'F') || c == '_'
  | ['0'] => true
  | '0' :: ds => ds.all fun c => ('0' ≤ c && c ≤ '7') || c == '_'
  | d :: ds =>
    '1' ≤ d && d ≤ '9' &&
      (ds.all isDigitOrUnderscore ||
        match ds.splitOn ':' with
        | first :: second :: rest =>
          first.all isDigitOrUnderscore && (second :: rest).all isSexagesimalDigit
        | _ => false)
  | [] => false

/-- The parts of a timestamp: date, and time with fraction and zone when given. -/
structure TimestampParts where
  year : Nat
  month : Nat
  day : Nat
  /-- Hour, minute and second. -/
  time : Option (Nat × Nat × Nat)
  /-- The digits after the point. -/
  fraction : Option (List Char)
  /-- `Z`, or a sign with hours and minutes. -/
  zone : Option (Option (Char × Nat × Option Nat))
  deriving Inhabited, Repr

/-- The value of decimal digits. -/
def digitsValue (ds : List Char) : Nat := ds.foldl (fun n c => 10 * n + (c.toNat - '0'.toNat)) 0

/-- One or two digits at the front, and the rest. -/
def oneOrTwoDigits : List Char → Option (List Char × List Char)
  | a :: b :: rest => if isDigit a then (if isDigit b then some ([a, b], rest) else some ([a], b :: rest)) else none
  | [a] => if isDigit a then some ([a], []) else none
  | [] => none

/-- Exactly `n` digits at the front, and the rest. -/
def exactDigits (n : Nat) (cs : List Char) : Option (List Char × List Char) :=
  if (cs.take n).length == n && (cs.take n).all isDigit then some (cs.take n, cs.drop n) else none

/-- Whether `c` is a space or a tab. -/
def isSpaceOrTab (c : Char) : Bool := c == ' ' || c == '\t'

/-- The zone of a timestamp: `Z`, or a sign, one or two digits of hours and optional minutes. -/
def zoneOf : List Char → Option (Option (Char × Nat × Option Nat))
  | ['Z'] => some none
  | s :: rest =>
    if s == '-' || s == '+' then do
      let (h, rest) ← oneOrTwoDigits rest
      match rest with
      | [] => some (some (s, digitsValue h, none))
      | ':' :: rest =>
        let (m, rest) ← exactDigits 2 rest
        if rest.isEmpty then some (some (s, digitsValue h, some (digitsValue m))) else none
      | _ => none
    else none
  | [] => none

/-- Reads a timestamp: `YYYY-M-D`, then optionally `T`, `t` or blanks, `H:MM:SS`, a fraction
and, after optional blanks, a zone. -/
def timestampParts? (cs : List Char) : Option TimestampParts := do
  let (y, rest) ← exactDigits 4 cs
  let rest ← match rest with | '-' :: r => some r | _ => none
  let (mo, rest) ← oneOrTwoDigits rest
  let rest ← match rest with | '-' :: r => some r | _ => none
  let (d, rest) ← oneOrTwoDigits rest
  let date : TimestampParts := ⟨digitsValue y, digitsValue mo, digitsValue d, none, none, none⟩
  match rest with
  | [] => some date
  | sep :: _ =>
    let rest ←
      if sep == 'T' || sep == 't' then some (rest.drop 1)
      else if isSpaceOrTab sep then some (rest.dropWhile isSpaceOrTab)
      else none
    let (h, rest) ← oneOrTwoDigits rest
    let rest ← match rest with | ':' :: r => some r | _ => none
    let (mi, rest) ← exactDigits 2 rest
    let rest ← match rest with | ':' :: r => some r | _ => none
    let (s, rest) ← exactDigits 2 rest
    let (fraction, rest) := match rest with
      | '.' :: r => (some (r.takeWhile isDigit), r.dropWhile isDigit)
      | r => (none, r)
    let time := some (digitsValue h, digitsValue mi, digitsValue s)
    if rest.isEmpty then some { date with time, fraction }
    else
      let zone ← zoneOf (rest.dropWhile isSpaceOrTab)
      some { date with time, fraction, zone := some zone }

/-- The form of a timestamp that a plain scalar resolves to: a date of two-digit month and day,
or a date with a time. -/
def isTimestamp (cs : List Char) : Bool :=
  let dateOnly := match exactDigits 4 cs with
    | some (_, '-' :: rest) =>
      match exactDigits 2 rest with
      | some (_, '-' :: rest) => (exactDigits 2 rest).any (·.2.isEmpty)
      | _ => false
    | _ => false
  dateOnly || (timestampParts? cs).any (·.time.isSome)

/-- The form of a boolean. -/
def isBool (cs : List Char) : Bool :=
  ["yes", "Yes", "YES", "no", "No", "NO", "true", "True", "TRUE", "false", "False", "FALSE",
    "on", "On", "ON", "off", "Off", "OFF"].contains (String.ofList cs)

/-- The form of null. -/
def isNull (cs : List Char) : Bool :=
  ["", "~", "null", "Null", "NULL"].contains (String.ofList cs)

/-- The rules a scalar starting with `c` is tried against, in order: a tag and its form. -/
def rulesFor (c : Option Char) : List (String × (List Char → Bool)) :=
  let all : List (String × (List Char → Bool) × (Option Char → Bool)) := [
    (bool, isBool, fun c => c.any ("yYnNtTfFoO".toList.contains ·)),
    (float, isFloat, fun c => c.any ("-+0123456789.".toList.contains ·)),
    (int, isInt, fun c => c.any ("-+0123456789".toList.contains ·)),
    (merge, (· == ['<', '<']), (· == some '<')),
    (null, isNull, fun c => c.isNone || c.any ("~nN".toList.contains ·)),
    (timestamp, isTimestamp, fun c => c.any isDigit),
    (value, (· == ['=']), (· == some '=')),
    (indicator, fun cs => cs == ['!'] || cs == ['&'] || cs == ['*'], fun c => c.any ("!&*".toList.contains ·))]
  (all.filter fun (_, _, first) => first c).map fun (t, form, _) => (t, form)

/-- Whether a form holds of a text, or of the text before a final line feed. -/
def holdsToEnd (form : List Char → Bool) (cs : List Char) : Bool :=
  form cs || (cs.getLast? == some '\n' && form cs.dropLast)

/-- The tag of a scalar that may be resolved from its text (`plain`), and otherwise the tag of
strings. -/
def ofScalar (text : String) (plain : Bool) : String :=
  if !plain then str
  else
    let cs := text.toList
    match (rulesFor cs.head?).find? fun (_, form) => holdsToEnd form cs with
    | some (t, _) => t
    | none => str

end Tag

end Manuscript.Yaml
