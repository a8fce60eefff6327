import Manuscript.Data.Value
import Manuscript.Data.Literal
import Manuscript.Decimal.Format
import Manuscript.Decimal.Read
import Manuscript.Text.Quoted
import Manuscript.Error

/-!
# JSON

`Json.parse` reads JSON text into values: objects become mappings with text keys in the order
written, numbers with a fraction or an exponent become floats and all others integers, of at
most `Decimal.maxDigits` digits; `NaN`, `Infinity` and `-Infinity` are read as floats.

`Json.write` writes a value as JSON text under a `Json.Style`: the separators, whether keys are
sorted, and whether text is kept to ASCII. Values that JSON has no form for are written as the
text shown for them (`Value.display`). Mapping keys that are integers, floats, booleans or
null are written as text; other keys are refused, and so is an integer of more than
`Decimal.maxDigits` digits, which Python does not convert to text.
-/

namespace Manuscript.Json

/-- Whether `c` is JSON white space. -/
def isSpace (c : Char) : Bool := c == ' ' || c == '\t' || c == '\n' || c == '\r'

/-- Skips white space from index `i`. -/
def skipSpace (s : Array Char) (i : Nat) : Nat :=
  if h : i < s.size then
    if isSpace s[i] then skipSpace s (i + 1) else i
  else i
termination_by s.size - i

/-- The value of a hexadecimal digit. -/
def hexDigit? (c : Char) : Option Nat :=
  if '0' ≤ c && c ≤ '9' then some (c.toNat - '0'.toNat)
  else if 'a' ≤ c && c ≤ 'f' then some (c.toNat - 'a'.toNat + 10)
  else if 'A' ≤ c && c ≤ 'F' then some (c.toNat - 'A'.toNat + 10)
  else none

/-- Four hexadecimal digits at index `i`. -/
def hex4? (s : Array Char) (i : Nat) : Option Nat := do
  let a ← s[i]? >>= hexDigit?
  let b ← s[i + 1]? >>= hexDigit?
  let c ← s[i + 2]? >>= hexDigit?
  let d ← s[i + 3]? >>= hexDigit?
  return ((a * 16 + b) * 16 + c) * 16 + d

/-- Why JSON text could not be read. -/
inductive Failure where
  /-- The text is no JSON: what was wrong, and the index of the character where it was found. -/
  | malformed (message : String) (pos : Nat)
  /-- An integer has more decimal digits than are read; `count` of them. -/
  | overlong (count : Nat)
  deriving Inhabited, Repr, DecidableEq

/-- The full text of a failure in a document: the message, then the line, the column and the
index of the character. -/
def Failure.text (s : Array Char) : Failure → String
  | .malformed message pos =>
    let before := (s.extract 0 pos).toList
    let line := (before.filter (· == '\n')).length + 1
    let column := (before.reverse.takeWhile (· != '\n')).length + 1
    message ++ ": line " ++ toString line ++ " column " ++ toString column ++ " (char " ++
      toString pos ++ ")"
  | .overlong count =>
    "Exceeds the limit (" ++ toString Decimal.maxDigits ++
      " digits) for integer string conversion: value has " ++ toString count ++
      " digits; use sys.set_int_max_str_digits() to increase the limit"

/-- The character a one-letter escape stands for. -/
def escapeOf? : Char → Option Char
  | '"' => some '"'
  | '\\' => some '\\'
  | '/' => some '/'
  | 'b' => some '\x08'
  | 'f' => some '\x0c'
  | 'n' => some '\n'
  | 'r' => some '\r'
  | 't' => some '\t'
  | _ => none

/-- Whether a code is a high or a low surrogate. -/
def isHighSurrogate (u : Nat) : Bool := 0xD800 ≤ u && u < 0xDC00

/-- Whether a code is a low surrogate. -/
def isLowSurrogate (u : Nat) : Bool := 0xDC00 ≤ u && u < 0xE000

/-- The character of a code read from an escape; a lone surrogate becomes U+FFFD. -/
def escapedChar (u : Nat) : Char :=
  if isHighSurrogate u || isLowSurrogate u then '\uFFFD' else Char.ofNat u

/-- Reads the rest of a string literal from index `i`, after its opening quote at `i - 1`.
Control characters must be escaped; a `\\u` escape needs four hexadecimal digits and a
character after them, and a high surrogate followed by an escaped low one is one character. -/
def readString (s : Array Char) (i : Nat) : Except Failure (String × Nat) :=
  let begin := i - 1
  let rec go : Nat → Nat → List Char → Except Failure (String × Nat)
    | 0, _, _ => .error (.malformed "Unterminated string starting at" begin)
    | fuel + 1, j, acc =>
      match s[j]? with
      | none => .error (.malformed "Unterminated string starting at" begin)
      | some '"' => .ok (String.ofList acc.reverse, j + 1)
      | some '\\' =>
        match s[j + 1]? with
        | none => .error (.malformed "Unterminated string starting at" begin)
        | some 'u' =>
          let next := j + 2
          let stop := next + 4
          if stop ≥ s.size then .error (.malformed "Invalid \\uXXXX escape" (next - 1))
          else
            match hex4? s next with
            | none => .error (.malformed "Invalid \\uXXXX escape" (next - 1))
            | some u =>
              if isHighSurrogate u && stop + 6 < s.size && s[stop]? == some '\\' &&
                  s[stop + 1]? == some 'u' then
                match hex4? s (stop + 2) with
                | none => .error (.malformed "Invalid \\uXXXX escape" (stop + 1))
                | some l =>
                  if isLowSurrogate l then
                    go fuel (stop + 6) (Char.ofNat (0x10000 + (u - 0xD800) * 0x400 + (l - 0xDC00)) :: acc)
                  else go fuel stop (escapedChar u :: acc)
              else go fuel stop (escapedChar u :: acc)
        | some c =>
          match escapeOf? c with
          | some d => go fuel (j + 2) (d :: acc)
          | none => .error (.malformed "Invalid \\escape" j)
      | some c =>
        if c.toNat ≤ 0x1f then .error (.malformed "Invalid control character at" j)
        else go fuel (j + 1) (c :: acc)
  go (s.size + 1) i []

/-- Skips decimal digits from index `i`. -/
def skipDigits (s : Array Char) (i : Nat) : Nat :=
  if h : i < s.size then
    if s[i].isDigit then skipDigits s (i + 1) else i
  else i
termination_by s.size - i

/-- The number written by a run of decimal digits. -/
def digitsValue (cs : List Char) : Nat :=
  cs.foldl (fun n c => n * 10 + (c.toNat - '0'.toNat)) 0

/-- Whether the character at index `i` is a decimal digit. -/
def digitAt (s : Array Char) (i : Nat) : Bool := (s[i]?.map Char.isDigit).getD false

/-- Reads a number at index `start`: an optional minus, `0` or digits not starting with `0`, a
fraction of a point and digits, and an exponent of `e`, an optional sign and digits. A point or
an exponent that is not followed by what it needs is not part of the number. -/
def readNumber (s : Array Char) (start : Nat) : Except Failure (Value × Nat) :=
  let negative := s[start]? == some '-'
  let a := if negative then start + 1 else start
  let b? : Option Nat := match s[a]? with
    | some '0' => some (a + 1)
    | some c => if '1' ≤ c && c ≤ '9' then some (skipDigits s (a + 1)) else none
    | none => none
  match b? with
  | none => .error (.malformed "Expecting value" start)
  | some b =>
    let intDigits := (s.extract a b).toList
    let (fracDigits, c) :=
      if s[b]? == some '.' && digitAt s (b + 1) then
        let c := skipDigits s (b + 2)
        ((s.extract (b + 1) c).toList, c)
      else ([], b)
    let (expPart, d) : Option Int × Nat :=
      if (s[c]? == some 'e' || s[c]? == some 'E') && c + 1 < s.size then
        let sgn := s[c + 1]?
        let e0 := if (sgn == some '+' || sgn == some '-') && c + 2 < s.size then c + 2 else c + 1
        let e1 := skipDigits s e0
        if e1 == e0 then (none, c)
        else
          let mag : Int := digitsValue (s.extract e0 e1).toList
          (some (if sgn == some '-' then -mag else mag), e1)
      else (none, c)
    if fracDigits.isEmpty && expPart.isNone then
      if intDigits.length > Decimal.maxDigits then .error (.overlong intDigits.length)
      else
        let n : Int := digitsValue intDigits
        .ok (.int (if negative then -n else n), d)
    else
      let mantissa := digitsValue (intDigits ++ fracDigits)
      let e : Int := expPart.getD 0 - fracDigits.length
      let x := Float.ofScientific mantissa (e < 0) e.natAbs
      .ok (.float (if negative then -x else x), d)

/-- Whether the characters from index `i` spell `word`. -/
def spells (s : Array Char) (i : Nat) (word : String) : Bool :=
  (s.extract i (i + word.length)).toList == word.toList

/-- Reads a value at exactly index `i`, at most `fuel` levels deep. Objects keep the first
place of a key and its last value. -/
def readValue : Nat → Array Char → Nat → Except Failure (Value × Nat)
  | 0, _, i => .error (.malformed "Expecting value" i)
  | fuel + 1, s, i =>
    match s[i]? with
    | some '{' =>
      let done (acc : List (String × Value)) : Value := .dict (acc.map fun (k, v) => (.str k, v))
      let rec fields : Nat → Nat → List (String × Value) → Except Failure (Value × Nat)
        | 0, j, _ => .error (.malformed "Expecting property name enclosed in double quotes" j)
        | n + 1, j, acc =>
          if s[j]? != some '"' then
            .error (.malformed "Expecting property name enclosed in double quotes" j)
          else do
            let (k, j) ← readString s (j + 1)
            let j := skipSpace s j
            if s[j]? != some ':' then .error (.malformed "Expecting ':' delimiter" j)
            else
              let (v, j) ← readValue fuel s (skipSpace s (j + 1))
              let j := skipSpace s j
              let acc := putEntry acc k v
              if s[j]? == some '}' then .ok (done acc, j + 1)
              else if s[j]? != some ',' then .error (.malformed "Expecting ',' delimiter" j)
              else fields n (skipSpace s (j + 1)) acc
      let j := skipSpace s (i + 1)
      if s[j]? == some '}' then .ok (.dict [], j + 1) else fields (s.size + 1) j []
    | some '[' =>
      let rec items : Nat → Nat → List Value → Except Failure (Value × Nat)
        | 0, j, _ => .error (.malformed "Expecting value" j)
        | n + 1, j, acc => do
          let (v, j) ← readValue fuel s j
          let j := skipSpace s j
          let acc := v :: acc
          if s[j]? == some ']' then .ok (.list acc.reverse, j + 1)
          else if s[j]? != some ',' then .error (.malformed "Expecting ',' delimiter" j)
          else items n (skipSpace s (j + 1)) acc
      let j := skipSpace s (i + 1)
      if s[j]? == some ']' then .ok (.list [], j + 1) else items (s.size + 1) j []
    | some '"' => do
      let (str, j) ← readString s (i + 1)
      return (.str str, j)
    | some 'n' => if spells s i "null" then .ok (.null, i + 4) else readNumber s i
    | some 't' => if spells s i "true" then .ok (.bool true, i + 4) else readNumber s i
    | some 'f' => if spells s i "false" then .ok (.bool false, i + 5) else readNumber s i
    | some 'N' => if spells s i "NaN" then .ok (.float (0.0 / 0.0), i + 3) else readNumber s i
    | some 'I' =>
      if spells s i "Infinity" then .ok (.float (1.0 / 0.0), i + 8) else readNumber s i
    | some '-' =>
      if spells s i "-Infinity" then .ok (.float (-1.0 / 0.0), i + 9) else readNumber s i
    | some _ => readNumber s i
    | none => .error (.malformed "Expecting value" i)

/-- Reads a JSON document: one value with white space around it. -/
def read (t : String) : Except Failure Value := do
  let s := t.toList.toArray
  let (v, i) ← readValue (s.size + 1) s (skipSpace s 0)
  let j := skipSpace s i
  if j == s.size then .ok v else .error (.malformed "Extra data" j)

/-- Reads a JSON document; a failure is given as its full text. -/
def parse (t : String) : Except String Value :=
  (read t).mapError (Failure.text t.toList.toArray)

/-- How JSON is written: the separator between items and between a key and its value, whether
mapping keys are sorted, and whether text is kept to ASCII. -/
structure Style where
  itemSep : String
  keySep : String
  sortKeys : Bool
  asciiOnly : Bool
  deriving Inhabited, Repr

/-- The escape of one character of a JSON string. -/
def escapeChar (asciiOnly : Bool) (c : Char) : String :=
  let u4 (n : Nat) := "\\u" ++ Text.hexPadded 4 n
  if c == '"' then "\\\""
  else if c == '\\' then "\\\\"
  else if c == '\n' then "\\n"
  else if c == '\r' then "\\r"
  else if c == '\t' then "\\t"
  else if c == '\x08' then "\\b"
  else if c == '\x0c' then "\\f"
  else if c.toNat < 0x20 then u4 c.toNat
  else if asciiOnly && c.toNat > 0x7E then
    if c.toNat ≥ 0x10000 then
      let v := c.toNat - 0x10000
      u4 (0xD800 + v / 0x400) ++ u4 (0xDC00 + v % 0x400)
    else u4 c.toNat
  else c.toString

/-- A JSON string literal. -/
def quoteText (asciiOnly : Bool) (s : String) : String :=
  "\"" ++ String.join (s.toList.map (escapeChar asciiOnly)) ++ "\""

/-- The text of a float in JSON. -/
def floatText (x : Float) : String :=
  Decimal.Notation.write ⟨-4, 16, 2, "Infinity", "NaN"⟩ x

/-- The decimal text of an integer; one of more than `Decimal.maxDigits` digits is refused. -/
def intText (n : Int) : Except Error String :=
  if Decimal.maxDigits < (Nat.toDigits 10 n.natAbs).length then
    .error (.badValue ("Exceeds the limit (" ++ toString Decimal.maxDigits ++
      " digits) for integer string conversion; use sys.set_int_max_str_digits() to increase " ++
      "the limit"))
  else .ok (toString n)

/-- The refusal of a mapping key of a kind that JSON has no key for. -/
def refusedKey (kind : String) : Error :=
  .badArguments ("keys must be str, int, float, bool or None, not " ++ kind)

/-- The text of a mapping key. -/
def keyText : Value → Except Error String
  | .str s => .ok s
  | .int n => intText n
  | .float x => .ok (floatText x)
  | .bool b => .ok (if b then "true" else "false")
  | .null => .ok "null"
  | .bytes _ => .error (refusedKey "bytes")
  | .date _ => .error (refusedKey "datetime.date")
  | .timestamp _ => .error (refusedKey "datetime.datetime")
  | .list _ => .error (refusedKey "list")
  | .set _ => .error (refusedKey "set")
  | .dict _ => .error (refusedKey "dict")
  | .callable _ => .error (refusedKey "function")

/-- The order of mapping keys: text by code point, numbers by value. -/
def keyLess : Value → Value → Bool
  | .str a, .str b => decide (a < b)
  | .int a, .int b => decide (a < b)
  | .float a, .float b => a < b
  | .int a, .float b => Float.ofInt a < b
  | .float a, .int b => a < Float.ofInt b
  | _, _ => false

/-- The entries of a mapping in the order they are written. -/
def orderedEntries (sortKeys : Bool) (kvs : List (Value × Value)) : List (Value × Value) :=
  if sortKeys then kvs.mergeSort fun a b => !keyLess b.1 a.1 else kvs

theorem mem_orderedEntries {sortKeys : Bool} {kv : Value × Value} {kvs : List (Value × Value)}
    (h : kv ∈ orderedEntries sortKeys kvs) : kv ∈ kvs := by
  unfold orderedEntries at h
  split at h
  · exact List.mem_mergeSort.1 h
  · exact h

/-- Writes a value as JSON text. -/
def write (st : Style) : Value → Except Error String
  | .null => .ok "null"
  | .bool b => .ok (if b then "true" else "false")
  | .int n => intText n
  | .float x => .ok (floatText x)
  | .str s => .ok (quoteText st.asciiOnly s)
  | .list xs => do
    let parts ← xs.mapM (write st)
    return "[" ++ st.itemSep.intercalate parts ++ "]"
  | .dict kvs => do
    let parts ← (orderedEntries st.sortKeys kvs).attach.mapM fun ⟨kv, _⟩ => do
      let kt ← keyText kv.1
      return quoteText st.asciiOnly kt ++ st.keySep ++ (← write st kv.2)
    return "\x7b" ++ st.itemSep.intercalate parts ++ "\x7d"
  | v => .ok (quoteText st.asciiOnly v.display)
decreasing_by
  · exact Value.sizeOf_lt_list ‹_›
  · exact Value.sizeOf_snd_lt_dict (mem_orderedEntries ‹_›)

end Manuscript.Json
