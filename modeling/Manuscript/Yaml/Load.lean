import Manuscript.Yaml.Node
import Manuscript.Data.Value
import Manuscript.Decimal.Read
import Manuscript.Decimal.Shortest
import Manuscript.Text.Case

/-!
# Values of YAML documents

`Yaml.load` reads the single document of a text as a `Value`, by the tags of its nodes:

* `null`, `bool`, `int`, `float` and `timestamp` read the text of a scalar by the YAML 1.1
  rules; an `int` of base 60 is `1:30`, a `bool` may be `yes` or `off` in any case, a
  `timestamp` is a date, or a timestamp with an optional fraction and zone;
* `str` is the text, `binary` the bytes that its base64 text decodes to;
* `seq` is a list, `map` a mapping, `set` the keys of a mapping, and `omap` and `pairs` lists of
  key-value pairs;
* any other tag is a problem.

In a mapping, a `<<` key merges the entries of the mapping, or of the list of mappings, that it
maps to: the mapping's own entries come after the merged ones, and of merged mappings the
earlier wins. Keys must be scalars; two keys that are equal as values (`1`, `1.0` and `true`
are) make one entry, which keeps the first key and the last value. A NaN equals nothing, but all
`.nan` keys are one NaN.

A scalar whose text its tag cannot read fails the way reading numbers and dates fails, not as
a YAML problem: an `int` that is no integer, a date that is no day of the calendar. Of several
problems, the one nearest the top of the document is reported (see `fillRounds`).
-/

namespace Manuscript.Yaml

open Manuscript.Text

/-! ### Equal keys -/

/-- The exact value of a finite float, as `(numerator, exponent of two)`; none for NaN and the
infinities. -/
def floatExact (x : Float) : Option (Int × Int) :=
  match Decimal.classify x with
  | .finite b => some (if b.negative then -(b.significand : Int) else b.significand, b.exponent)
  | _ => none

/-- Whether an integer equals a float. -/
def intEqualsFloat (n : Int) (x : Float) : Bool :=
  match floatExact x with
  | some (m, e) =>
    if e ≥ 0 then m * Nat.pow 2 e.toNat == n
    else n * Nat.pow 2 (-e).toNat == m
  | none => false

/-- The numeric value of a boolean, integer or float. -/
inductive Number where
  | int (n : Int)
  | float (x : Float)

/-- The number a value stands for, if it is one. -/
def numberOf? : Value → Option Number
  | .bool b => some (.int (if b then 1 else 0))
  | .int n => some (.int n)
  | .float x => some (.float x)
  | _ => none

/-- Days from 0001-01-01 to a date, in the proleptic Gregorian calendar. -/
def dayNumber (d : Date) : Int :=
  let y : Int := d.year - 1
  let monthDays := [31, 28, 31, 30, 31, 30, 31, 31, 30, 31, 30, 31]
  let leap := (d.year % 4 == 0 && d.year % 100 != 0) || d.year % 400 == 0
  let before : Int := ((monthDays.take (d.month - 1)).foldl (· + ·) 0 : Nat) +
    (if leap && d.month > 2 then 1 else 0)
  y * 365 + y / 4 - y / 100 + y / 400 + before + d.day

/-- The microseconds of a timestamp since 0001-01-01, at UTC when it has an offset. -/
def instant (t : Timestamp) : Int :=
  let minutes : Int := (dayNumber t.date * 24 + t.hour) * 60 + t.minute - t.offset.getD 0
  (minutes * 60 + t.second) * 1000000 + t.micro

/-- Whether two values are equal as keys. Numbers compare by value across booleans, integers
and floats, a NaN equals nothing; timestamps with an offset compare as instants, and never equal
one without; collections are no keys. -/
def sameKey (a b : Value) : Bool :=
  match numberOf? a, numberOf? b with
  | some (.int m), some (.int n) => m == n
  | some (.float x), some (.float y) => x == y
  | some (.int n), some (.float x) | some (.float x), some (.int n) => intEqualsFloat n x
  | some _, none | none, some _ => false
  | none, none =>
    match a, b with
    | .null, .null => true
    | .str s, .str t => s == t
    | .bytes s, .bytes t => s == t
    | .date d, .date e => d == e
    | .timestamp s, .timestamp t =>
      match s.offset, t.offset with
      | some _, some _ => instant s == instant t
      | none, none => s == t
      | _, _ => false
    | _, _ => false

/-! ### Reading scalars -/

/-- The failure of reading an integer: the quoted text is cut after 200 characters. -/
def intFailure (base : Nat) (s : String) : LoadError :=
  .badValue ("invalid literal for int() with base " ++ toString base ++ ": " ++
    String.ofList ((quote s).toList.take 200))

/-- The failure of reading an integer from too many digits. -/
def digitsFailure (count : Nat) : LoadError :=
  .badValue ("Exceeds the limit (" ++ toString Decimal.maxDigits ++
    " digits) for integer string conversion: value has " ++ toString count ++
    " digits; use sys.set_int_max_str_digits() to increase the limit")

/-- Reads an integer in a base, or fails. -/
def intIn (base : Nat) (s : String) : Except LoadError Int :=
  match Decimal.readInteger s base with
  | .ok n => .ok n
  | .error .invalid => .error (intFailure base s)
  | .error (.tooManyDigits count) => .error (digitsFailure count)

/-- Reads a float, or fails. -/
def floatOf (s : String) : Except LoadError Float :=
  match Decimal.readFloat? s with
  | some x => .ok x
  | none => .error (.badValue ("could not convert string to float: " ++ quote s))

/-- The failure of indexing an empty text. -/
def emptyText : LoadError := .outOfRange "string index out of range"

/-- Splits a leading sign off a text that must not be empty. -/
def signOf (s : String) : Except LoadError (Int × String) :=
  match s.toList with
  | [] => .error emptyText
  | '-' :: rest => .ok (-1, String.ofList rest)
  | '+' :: rest => .ok (1, String.ofList rest)
  | _ => .ok (1, s)

/-- The value of base-60 digits, most significant first. -/
def sexagesimal (digits : List Int) : Int :=
  digits.foldl (fun acc d => acc * 60 + d) 0

/-- Reads the text of an `int`: a sign, then `0`, `0b` binary, `0x` hexadecimal, `0` octal,
base 60, or decimal; `_` is ignored. -/
def readYamlInt (text : String) : Except LoadError Int := do
  let (sign, s) ← signOf (String.ofList (text.toList.filter (· != '_')))
  if s == "0" then return 0
  if s.startsWith "0b" then return sign * (← intIn 2 (String.ofList (s.toList.drop 2)))
  if s.startsWith "0x" then return sign * (← intIn 16 (String.ofList (s.toList.drop 2)))
  match s.toList with
  | [] => throw emptyText
  | '0' :: _ => return sign * (← intIn 8 s)
  | _ =>
    if s.toList.contains ':' then
      let digits ← (s.splitOn ":").mapM (intIn 10)
      return sign * sexagesimal digits
    return sign * (← intIn 10 s)

/-- The infinite float. -/
def infinity : Float := Float.ofScientific 1 false 400

/-- The text of a `float` as it is read: without `_`, in lower case. -/
def floatWord (text : String) : String :=
  toLower (String.ofList (text.toList.filter (· != '_')))

/-- Reads the text of a `float`: a sign, then `.inf`, `.nan`, base 60 with a fraction, or a
decimal; `_` is ignored and case does not matter. -/
def readYamlFloat (text : String) : Except LoadError Float := do
  let (sign, s) ← signOf (floatWord text)
  let signed (x : Float) : Float := if sign < 0 then -x else x
  if s == ".inf" then return signed infinity
  if s == ".nan" then return 0.0 / 0.0
  if s.toList.contains ':' then
    let digits ← (s.splitOn ":").mapM floatOf
    let (total, _) := digits.reverse.foldl (fun (acc : Float × Nat) d =>
      (acc.1 + d * Float.ofNat acc.2, acc.2 * 60)) (0.0, 1)
    return signed total
  return signed (← floatOf s)

/-- Reads the text of a `bool`. -/
def readYamlBool (text : String) : Except LoadError Bool :=
  let word := toLower text
  if word == "yes" || word == "true" || word == "on" then .ok true
  else if word == "no" || word == "false" || word == "off" then .ok false
  else .error (.missingKey (quote word))

/-- The number of days of a month. -/
def daysInMonth (year month : Nat) : Nat :=
  let leap := (year % 4 == 0 && year % 100 != 0) || year % 400 == 0
  if month == 2 then (if leap then 29 else 28)
  else if month == 4 || month == 6 || month == 9 || month == 11 then 30
  else 31

/-- Checks that a date is a day of the calendar. -/
def checkDate (y m d : Nat) : Except LoadError Date := do
  if y < 1 || y > 9999 then throw (.badValue ("year " ++ toString y ++ " is out of range"))
  if m < 1 || m > 12 then throw (.badValue "month must be in 1..12")
  if d < 1 || d > daysInMonth y m then throw (.badValue "day is out of range for month")
  return ⟨y, m, d⟩

/-- How a span of time is shown: days, seconds and microseconds, each when not zero. -/
def durationText (seconds : Int) : String :=
  let days := seconds / 86400
  let rest := seconds - days * 86400
  let parts := (if days != 0 then ["days=" ++ toString days] else []) ++
    (if rest != 0 then ["seconds=" ++ toString rest] else [])
  "datetime.timedelta(" ++ (if parts.isEmpty then "0" else ", ".intercalate parts) ++ ")"

/-- Reads the text of a `timestamp`: a date, or a timestamp with its fraction to the
microsecond and its zone. -/
def readYamlTimestamp (text : String) : Except LoadError Value := do
  let cs := text.toList
  let parts? := (Tag.timestampParts? cs).orElse fun _ =>
    if cs.getLast? == some '\n' then Tag.timestampParts? cs.dropLast else none
  let some p := parts?
    | throw (.missingAttribute "'NoneType' object has no attribute 'groupdict'")
  match p.time with
  | none => return .date (← checkDate p.year p.month p.day)
  | some (hour, minute, second) =>
    let micro := match p.fraction with
      | some ds =>
        if ds.isEmpty then 0
        else Tag.digitsValue ((ds.take 6) ++ List.replicate (6 - (ds.take 6).length) '0')
      | none => 0
    let offset ← match p.zone with
      | some (some (sign, h, m)) =>
        let minutes : Int := h * 60 + (m.getD 0)
        let minutes := if sign == '-' then -minutes else minutes
        if minutes.natAbs ≥ 1440 then
          throw (.badValue ("offset must be a timedelta strictly between " ++
            "-timedelta(hours=24) and timedelta(hours=24), not " ++
            durationText (minutes * 60) ++ "."))
        pure (some minutes)
      | some none => pure (some 0)
      | none => pure none
    let date ← checkDate p.year p.month p.day
    if hour > 23 then throw (.badValue "hour must be in 0..23")
    if minute > 59 then throw (.badValue "minute must be in 0..59")
    if second > 59 then throw (.badValue "second must be in 0..59")
    return .timestamp ⟨date, hour, minute, second, micro, offset⟩

/-- The base64 alphabet value of a character. -/
def base64Value (c : Char) : Option Nat :=
  if 'A' ≤ c && c ≤ 'Z' then some (c.toNat - 'A'.toNat)
  else if 'a' ≤ c && c ≤ 'z' then some (c.toNat - 'a'.toNat + 26)
  else if '0' ≤ c && c ≤ '9' then some (c.toNat - '0'.toNat + 52)
  else if c == '+' then some 62
  else if c == '/' then some 63
  else none

/-- Decodes base64 leniently: characters outside the alphabet are skipped, and a full padding
ends the data. A final group of one character, or of two or three without their padding, is an
error. -/
def decodeBase64 (cs : List Char) : Except String (List UInt8) :=
  let rec go : List Char → Nat → Nat → Nat → List UInt8 → Except String (List UInt8)
    | [], quad, _, _, out =>
      if quad == 0 then .ok out.reverse
      else if quad == 1 then
        .error ("Invalid base64-encoded string: number of data characters (" ++
          toString (out.length / 3 * 4 + 1) ++ ") cannot be 1 more than a multiple of 4")
      else .error "Incorrect padding"
    | c :: rest, quad, left, pads, out =>
      if c == '=' then
        if quad ≥ 2 && quad + (pads + 1) ≥ 4 then .ok out.reverse
        else go rest quad left (if quad ≥ 2 then pads + 1 else pads) out
      else
        match base64Value c with
        | none => go rest quad left pads out
        | some v =>
          match quad with
          | 0 => go rest 1 v 0 out
          | 1 => go rest 2 (v % 16) 0 ((left * 4 + v / 16).toUInt8 :: out)
          | 2 => go rest 3 (v % 4) 0 ((left * 16 + v / 4).toUInt8 :: out)
          | _ => go rest 0 0 0 ((left * 64 + v).toUInt8 :: out)
  go cs 0 0 0 []

/-- The failure of writing a text in ASCII: the first run of other characters. -/
def asciiFailure (s : String) : Option String :=
  let cs := s.toList
  match cs.findIdx? (·.toNat ≥ 128) with
  | none => none
  | some i =>
    let run := (cs.drop i).takeWhile (·.toNat ≥ 128)
    let detail :=
      match run with
      | [c] =>
        let code := c.toNat
        let escaped := if code < 0x100 then "\\x" ++ hexPadded 2 code
          else if code < 0x10000 then "\\u" ++ hexPadded 4 code
          else "\\U" ++ hexPadded 8 code
        "character '" ++ escaped ++ "' in position " ++ toString i
      | _ => "characters in position " ++ toString i ++ "-" ++ toString (i + run.length - 1)
    some ("'ascii' codec can't encode " ++ detail ++ ": ordinal not in range(128)")

/-! ### Building values -/

/-- The tags whose values are collections, built empty before their content. -/
def collectionTags : List String :=
  [Tag.seq, Tag.map, Tag.standard "set", Tag.standard "omap", Tag.standard "pairs"]

/-- A problem at a node, without context. -/
def problemAt {α : Type} (problem : String) (n : Node) : Except LoadError α :=
  .error (.marked (.plain problem n.start))

/-- A problem at a node in the context of another. -/
def problemWithin {α : Type} (context : String) (outer : Node) (problem : String) (n : Node) :
    Except LoadError α :=
  .error (.marked (.within context outer.start problem n.start))

/-- A key as a mapping keeps it: a `=` key becomes a text key. -/
def ownKey (k : Node) : Node := if k.tag == Tag.value then k.withTag Tag.str else k

mutual

/-- The entries of a mapping with its merge keys resolved, as the merged and the own entries:
a `<<` entry contributes the entries of the mapping it maps to, or of each mapping of the list
it maps to, the last mapping first; a `=` key becomes a text key. Problems are reported in the
context of the mapping `context`. -/
def flattenEntries (context : Node) :
    List (Node × Node) → Except LoadError (List (Node × Node) × List (Node × Node))
  | [] => pure ([], [])
  | (k, v) :: rest => do
    let first ← flattenEntry context k v
    let (merged, own) ← flattenEntries context rest
    return (first.1 ++ merged, first.2 ++ own)

/-- The merged and the own entries that one entry of a mapping contributes. -/
def flattenEntry (context : Node) (k : Node) :
    Node → Except LoadError (List (Node × Node) × List (Node × Node))
  | v@(.mapping _ entries _) =>
    if k.tag == Tag.merge then do
      let (merged, own) ← flattenEntries v entries
      return (merged ++ own, [])
    else pure ([], [(ownKey k, v)])
  | v@(.sequence _ subs _) =>
    if k.tag == Tag.merge then do
      let groups ← flattenList context subs
      return (groups.reverse.flatten, [])
    else pure ([], [(ownKey k, v)])
  | v =>
    if k.tag == Tag.merge then
      match v with
      | .unfinished .mapping .. => pure ([], [])
      | _ =>
        problemWithin "while constructing a mapping" context
          ("expected a mapping or list of mappings for merging, but found " ++ v.kindName) v
    else pure ([], [(ownKey k, v)])

/-- The flattened entries of each mapping of a list merged into `context`. -/
def flattenList (context : Node) : List Node → Except LoadError (List (List (Node × Node)))
  | [] => pure []
  | sub :: rest => do
    let first ← match sub with
      | .mapping _ entries _ => do
        let (merged, own) ← flattenEntries sub entries
        pure (merged ++ own)
      | _ =>
        problemWithin "while constructing a mapping" context
          ("expected a mapping for merging, but found " ++ sub.kindName) sub
    return first :: (← flattenList context rest)

end

/-- The entries of a mapping node with its merge keys resolved. -/
def flatten (n : Node) : Except LoadError (List (Node × Node)) :=
  match n with
  | .mapping _ entries _ => do
    let (merged, own) ← flattenEntries n entries
    return merged ++ own
  | _ => pure []

/-- The text of a scalar node; a mapping with a `=` key stands for the scalar of that key. -/
def scalarText : Nat → Node → Except LoadError String
  | 0, _ => .error .recursive
  | _ + 1, .scalar _ s _ => pure s
  | fuel + 1, n@(.mapping _ entries _) =>
    match entries.find? (·.1.tag == Tag.value) with
    | some (_, v) => scalarText fuel v
    | none => problemAt ("expected a scalar node, but found " ++ n.kindName) n
  | _ + 1, n => problemAt ("expected a scalar node, but found " ++ n.kindName) n

/-- The context in which problems of an ordered map or of a list of pairs are reported. -/
def pairsContext (t : String) : String :=
  if t == Tag.standard "omap" then "while constructing an ordered map" else "while constructing pairs"

/-- The pairs of an ordered map or of a list of pairs: a sequence of mappings of one entry. -/
def pairNodes (t : String) (n : Node) : Except LoadError (List (Node × Node)) :=
  match n with
  | .sequence _ subs _ =>
    subs.mapM fun sub =>
      match sub with
      | .mapping _ [(k, v)] _ => pure (k, v)
      | .mapping _ entries _ =>
        problemWithin (pairsContext t) n
          ("expected a single mapping item, but found " ++ toString entries.length ++ " items") sub
      | _ =>
        problemWithin (pairsContext t) n ("expected a mapping of length 1, but found " ++ sub.kindName)
          sub
  | _ => problemWithin (pairsContext t) n ("expected a sequence, but found " ++ n.kindName) n

/-- Builds the value of a node whose tag is not a collection's. -/
def buildScalar (fuel : Nat) (n : Node) : Except LoadError Value := do
  let t := n.tag
  if t == Tag.null then
    let _ ← scalarText fuel n
    return .null
  if t == Tag.bool then return .bool (← readYamlBool (← scalarText fuel n))
  if t == Tag.int then return .int (← readYamlInt (← scalarText fuel n))
  if t == Tag.float then return .float (← readYamlFloat (← scalarText fuel n))
  if t == Tag.timestamp then return ← readYamlTimestamp (← scalarText fuel n)
  if t == Tag.str then return .str (← scalarText fuel n)
  if t == Tag.standard "binary" then
    let text ← scalarText fuel n
    if let some msg := asciiFailure text then
      problemAt ("failed to convert base64 data into ascii: " ++ msg) n
    match decodeBase64 text.toList with
    | .ok bs => return .bytes bs
    | .error msg => problemAt ("failed to decode base64 data: " ++ msg) n
  problemAt ("could not determine a constructor for the tag " ++ quote t) n

/-! ### The order of problems

A collection is built in two steps: first it is opened, empty, and later its content is
filled in. The content of the collections opened while filling one round is filled in the next
round, in the order they were opened, while scalars are read at once. Of several problems in a
document, the one met first in this order is reported; so a scalar near the top fails before
anything inside a nested collection.
-/

/-- Starts building a node: a scalar is read at once; a collection is opened and returned, to be
filled in the next round. A collection that holds itself is already open. -/
def openNode (n : Node) : Except LoadError (List Node) :=
  if collectionTags.contains n.tag then
    match n with
    | .unfinished .. => pure []
    | _ => pure [n]
  else do
    let _ ← buildScalar (n.height + 1) n
    pure []

/-- Fills in an opened collection: checks its shape, and starts building its items, or the keys
and values of its entries, in order. Returns the collections that this opens. -/
def fillNode (n : Node) : Except LoadError (List Node) := do
  let t := n.tag
  if t == Tag.seq then
    match n with
    | .sequence _ items _ => return (← items.mapM openNode).flatten
    | _ => problemAt ("expected a sequence node, but found " ++ n.kindName) n
  else if t == Tag.standard "omap" || t == Tag.standard "pairs" then
    match n with
    | .sequence _ subs _ =>
      subs.foldlM (fun opened sub =>
        match sub with
        | .mapping _ [(k, v)] _ => do return opened ++ (← openNode k) ++ (← openNode v)
        | .mapping _ entries _ =>
          problemWithin (pairsContext t) n
            ("expected a single mapping item, but found " ++ toString entries.length ++ " items")
            sub
        | _ =>
          problemWithin (pairsContext t) n
            ("expected a mapping of length 1, but found " ++ sub.kindName) sub) []
    | _ => problemWithin (pairsContext t) n ("expected a sequence, but found " ++ n.kindName) n
  else
    match n with
    | .mapping .. => do
      let entries ← flatten n
      entries.foldlM (fun opened (k, v) => do
        let key ← openNode k
        if collectionTags.contains k.tag then
          problemWithin "while constructing a mapping" n "found unhashable key" k
        return opened ++ key ++ (← openNode v)) []
    | _ => problemAt ("expected a mapping node, but found " ++ n.kindName) n

/-- Fills in the opened collections round by round, and fails with the first problem met.
`fuel` bounds the rounds: each round is one level deeper in the document. -/
def fillRounds : Nat → List Node → Except LoadError Unit
  | 0, _ => pure ()
  | _, [] => pure ()
  | fuel + 1, opened => do
    let next ← opened.mapM fillNode
    fillRounds fuel next.flatten

/-! ### Keys -/

/-- What makes two keys of a mapping one key besides equal values: a key is always the same key
as itself, even a NaN. Every `.nan` reads as one and the same NaN; any other NaN is the one of
the node it was read from, and an alias repeats that node. -/
inductive KeyOrigin where
  | value
  | sharedNan
  | nanAt (m : Mark)
  deriving DecidableEq

/-- Whether the text of a `float` reads as the shared NaN. -/
def isSharedNan (text : String) : Bool :=
  match (floatWord text).toList with
  | '-' :: rest | '+' :: rest => String.ofList rest == ".nan"
  | cs => String.ofList cs == ".nan"

/-- The origin of a key read from a node. -/
def keyOrigin (k : Node) (key : Value) : KeyOrigin :=
  match key with
  | .float x =>
    if x.isNaN then
      match k with
      | .scalar _ text m => if isSharedNan text then .sharedNan else .nanAt m
      | _ => .nanAt k.start
    else .value
  | _ => .value

/-- Whether two keys are one key: the same NaN, or equal values. -/
def sameEntryKey (a b : Value × KeyOrigin) : Bool :=
  (a.2 != .value && a.2 == b.2) || sameKey a.1 b.1

/-- Adds an entry to a mapping with key origins: a key that is one with a key present replaces
that entry's value. -/
def insertOriginEntry (entries : List ((Value × KeyOrigin) × Value)) (k : Value × KeyOrigin)
    (v : Value) : List ((Value × KeyOrigin) × Value) :=
  if entries.any (sameEntryKey ·.1 k) then
    entries.map fun (k', v') => if sameEntryKey k' k then (k', v) else (k', v')
  else entries ++ [(k, v)]

/-- Builds the value of a node, at most `fuel` levels deep. -/
def build : Nat → Node → Except LoadError Value
  | 0, _ => .error .recursive
  | fuel + 1, n => do
    let t := n.tag
    if let .unfinished .. := n then
      if collectionTags.contains t then throw .recursive
    if t == Tag.seq then
      match n with
      | .sequence _ items _ => return .list (← items.mapM (build fuel))
      | _ => problemAt ("expected a sequence node, but found " ++ n.kindName) n
    if t == Tag.map then return .dict (← mappingEntries fuel n)
    if t == Tag.standard "set" then return .set ((← mappingEntries fuel n).map (·.1))
    if t == Tag.standard "omap" || t == Tag.standard "pairs" then
      let pairs ← pairNodes t n
      return .list (← pairs.mapM fun (k, v) => do
        return .list [← build fuel k, ← build fuel v])
    buildScalar fuel n
where
  /-- The entries of a mapping node as values: keys must not be collections, and keys that are
  one key make one entry. -/
  mappingEntries (fuel : Nat) (n : Node) : Except LoadError (List (Value × Value)) :=
    match n with
    | .mapping .. => do
      let entries ← flatten n
      let built ← entries.foldlM (fun acc (k, v) => do
        if collectionTags.contains k.tag then
          problemWithin "while constructing a mapping" n "found unhashable key" k
        let key ← build fuel k
        let value ← build fuel v
        return insertOriginEntry acc (key, keyOrigin k key) value) []
      return built.map fun (k, v) => (k.1, v)
    | _ => problemAt ("expected a mapping node, but found " ++ n.kindName) n

/-- Reads the single document of a text as a value; no document reads as null. The problems of
the document are looked for in the order of building, and only then is the value built. -/
def load (text : String) : Except LoadError Value := do
  match ← Node.ofText text with
  | none => return .null
  | some n =>
    fillRounds (n.height + 1) (← openNode n)
    build (n.height + 1) n

end Manuscript.Yaml
