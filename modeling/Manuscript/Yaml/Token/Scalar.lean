import Manuscript.Yaml.Cursor
import Manuscript.Yaml.Token
import Manuscript.Text.Utf8

/-!
# Scanning the tokens that carry text

The scans here read one token that carries text from the cursor on: a directive, an anchor or
alias, a tag, or a scalar in one of its five styles. Each starts at the token's indicator and
ends after its last character; on malformed text it stops with the problem, in the context of
the token it was reading, at the mark where it saw the fault.

* Plain scalars end at `: `, at ` #`, at a line indented no deeper than the enclosing block, and,
  inside flow collections, at the flow indicators. Line breaks fold: a single break becomes a
  space, and each further one is kept.
* Quoted scalars fold breaks the same way. Single-quoted ones escape a quote by doubling it;
  double-quoted ones know the escapes of YAML 1.1, including `\x`, `\u` and `\U` codes and an
  escaped line break that joins lines.
* Block scalars take their indentation from the indicator or from the first non-empty line.
  Folded ones join lines that start with a non-space by a space, and the chomping indicator
  decides what becomes of the final breaks.
-/

namespace Manuscript.Yaml

/-- Scanning: a cursor that moves, and may stop at a problem. -/
abbrev Scan := StateT Cursor (Except LoadError)

namespace Scan

/-- The mark of the cursor. -/
def here : Scan Mark := return (← get).mark

/-- The character under the cursor. -/
def peek : Scan Char := return (← get).peek

/-- The character `k` places ahead. -/
def peekAt (k : Nat) : Scan Char := return (← get).peekAt k

/-- The next `n` characters. -/
def ahead (n : Nat) : Scan String := return (← get).ahead n

/-- Steps over `n` characters. -/
def forward (n : Nat) : Scan Unit := modify (·.forward n)

/-- Takes the next `n` characters. -/
def take (n : Nat) : Scan String := do
  let s ← ahead n
  forward n
  return s

/-- Reads a line break, or nothing. -/
def lineBreak : Scan String := modifyGet Cursor.lineBreak

/-- Steps over spaces. -/
def skipSpaces : Scan Unit := modify Cursor.skipSpaces

/-- Stops at a problem. -/
def fail {α : Type} (p : Problem) : Scan α := throw (.marked p)

/-- Stops at a problem in a context, at the cursor. -/
def failHere {α : Type} (context : String) (start : Mark) (problem : String) : Scan α := do
  fail (.within context start problem (← here))

/-- The number of characters left. -/
def left : Scan Nat := return (← get).left

end Scan

open Scan

/-- The value of hexadecimal digits. -/
def hexValue (s : String) : Nat :=
  s.toList.foldl (fun n c =>
    let d := if '0' ≤ c && c ≤ '9' then c.toNat - '0'.toNat
      else if 'a' ≤ c && c ≤ 'f' then c.toNat - 'a'.toNat + 10
      else c.toNat - 'A'.toNat + 10
    16 * n + d) 0

/-- The value of decimal digits. -/
def decimalValue (s : String) : Nat :=
  s.toList.foldl (fun n c => 10 * n + (c.toNat - '0'.toNat)) 0

/-! ### Directives -/

/-- The name of a directive. -/
def directiveName (start : Mark) : Scan String := do
  let n := (← get).countWhile isWordChar
  if n == 0 then
    failHere "while scanning a directive" start
      ("expected alphabetic or numeric character, but found " ++ charText (← peek))
  let name ← take n
  let ch ← peek
  if !(ch == ' ' || isBreakOrEnd ch) then
    failHere "while scanning a directive" start
      ("expected alphabetic or numeric character, but found " ++ charText ch)
  return name

/-- A number of a version directive. -/
def versionNumber (start : Mark) : Scan Nat := do
  let ch ← peek
  if !('0' ≤ ch && ch ≤ '9') then
    failHere "while scanning a directive" start ("expected a digit, but found " ++ charText ch)
  let n := (← get).countWhile fun c => '0' ≤ c && c ≤ '9'
  return decimalValue (← take n)

/-- The value of a version directive: major and minor number. -/
def versionValue (start : Mark) : Scan DirectiveValue := do
  skipSpaces
  let major ← versionNumber start
  if (← peek) != '.' then
    failHere "while scanning a directive" start
      ("expected a digit or '.', but found " ++ charText (← peek))
  forward 1
  let minor ← versionNumber start
  let ch ← peek
  if !(ch == ' ' || isBreakOrEnd ch) then
    failHere "while scanning a directive" start
      ("expected a digit or ' ', but found " ++ charText ch)
  return .version major minor

/-- A tag handle, `!`, `!!` or `!word!`, in the context of a `what`. -/
def tagHandle (what : String) (start : Mark) : Scan String := do
  let ch ← peek
  if ch != '!' then
    failHere ("while scanning a " ++ what) start ("expected '!', but found " ++ charText ch)
  let c ← get
  let length ←
    if c.peekAt 1 != ' ' then do
      let n := 1 + (c.step).countWhile isWordChar
      let close := c.peekAt n
      if close != '!' then
        forward n
        failHere ("while scanning a " ++ what) start ("expected '!', but found " ++ charText close)
      pure (n + 1)
    else pure 1
  take length

/-- Whether `c` may stand in a tag URI. -/
def isUriChar (c : Char) : Bool :=
  ('0' ≤ c && c ≤ '9') || ('A' ≤ c && c ≤ 'Z') || ('a' ≤ c && c ≤ 'z') ||
    "-;/?:@&=+$,_.!~*'()[]%".toList.contains c

/-- A run of `%` escapes of a URI, decoded as UTF-8. -/
def uriEscapes (what : String) (start : Mark) : Scan String := do
  let begin ← here
  let rec bytes : Nat → Scan (List UInt8)
    | 0 => pure []
    | fuel + 1 => do
      if (← peek) != '%' then return []
      forward 1
      for k in [0, 1] do
        let d ← peekAt k
        if !isHexDigit d then
          failHere ("while scanning a " ++ what) start
            ("expected URI escape sequence of 2 hexadecimal numbers, but found " ++ charText d)
      let b := (hexValue (← take 2)).toUInt8
      return b :: (← bytes fuel)
  let bs ← bytes ((← left) + 1)
  match Text.decodeUtf8 ⟨bs.toArray⟩ with
  | .ok s => return s
  | .error f => fail (.within ("while scanning a " ++ what) start f.message begin)

/-- A tag URI, with its `%` escapes decoded. -/
def tagUri (what : String) (start : Mark) : Scan String := do
  let rec go : Nat → List String → Scan (List String)
    | 0, chunks => pure chunks
    | fuel + 1, chunks => do
      let n := (← get).countWhile fun c => isUriChar c && c != '%'
      if (← peekAt n) == '%' then
        let plain ← take n
        let decoded ← uriEscapes what start
        go fuel (chunks ++ [plain, decoded])
      else if n > 0 then
        return chunks ++ [← take n]
      else return chunks
  let chunks ← go ((← left) + 1) []
  if chunks.isEmpty then
    failHere ("while parsing a " ++ what) start ("expected URI, but found " ++ charText (← peek))
  return String.join chunks

/-- The value of a tag directive: a handle and its expansion. -/
def tagDirectiveValue (start : Mark) : Scan DirectiveValue := do
  skipSpaces
  let handle ← tagHandle "directive" start
  if (← peek) != ' ' then
    failHere "while scanning a directive" start ("expected ' ', but found " ++ charText (← peek))
  skipSpaces
  let expansion ← tagUri "directive" start
  let ch ← peek
  if !(ch == ' ' || isBreakOrEnd ch) then
    failHere "while scanning a directive" start ("expected ' ', but found " ++ charText ch)
  return .tagHandle handle expansion

/-- Steps over the rest of a line that may hold only blanks and a comment, in a context. -/
def ignoredLine (context : String) (start : Mark) : Scan Unit := do
  skipSpaces
  if (← peek) == '#' then modify Cursor.skipToBreak
  let ch ← peek
  if !isBreakOrEnd ch then
    failHere context start ("expected a comment or a line break, but found " ++ charText ch)
  discard lineBreak

/-- A directive, from its `%`. -/
def directive : Scan Token := do
  let start ← here
  forward 1
  let name ← directiveName start
  let (value, stop) ← match name with
    | "YAML" => do
      let v ← versionValue start
      pure (v, ← here)
    | "TAG" => do
      let v ← tagDirectiveValue start
      pure (v, ← here)
    | _ => do
      let m ← here
      modify Cursor.skipToBreak
      pure (DirectiveValue.other, m)
  ignoredLine "while scanning a directive" start
  return ⟨.directive name value, start, stop⟩

/-! ### Anchors, aliases and tags -/

/-- An anchor `&name` or an alias `*name`. -/
def anchorOrAlias : Scan Token := do
  let start ← here
  let isAlias := (← peek) == '*'
  let what := if isAlias then "while scanning an alias" else "while scanning an anchor"
  forward 1
  let n := (← get).countWhile isWordChar
  if n == 0 then
    failHere what start ("expected alphabetic or numeric character, but found " ++ charText (← peek))
  let name ← take n
  let ch ← peek
  if !(isBlankOrEnd ch || "?:,]\x7d%@\x60".toList.contains ch) then
    failHere what start ("expected alphabetic or numeric character, but found " ++ charText ch)
  return ⟨if isAlias then .alias name else .anchor name, start, ← here⟩

/-- A tag: verbatim `!<uri>`, the lone `!`, or a handle and a suffix. -/
def tag : Scan Token := do
  let start ← here
  let c ← get
  let next := c.peekAt 1
  let (handle, suffix) ←
    if next == '<' then do
      forward 2
      let suffix ← tagUri "tag" start
      if (← peek) != '>' then
        failHere "while parsing a tag" start ("expected '>', but found " ++ charText (← peek))
      forward 1
      pure (none, suffix)
    else if isBlankOrEnd next then do
      forward 1
      pure (none, "!")
    else do
      -- a second `!` before the next blank makes the first part a handle
      let n := 1 + c.step.countWhile fun ch => !(ch == ' ' || isBreakOrEnd ch || ch == '!')
      let handle ←
        if c.peekAt n == '!' then tagHandle "tag" start
        else do
          forward 1
          pure "!"
      let suffix ← tagUri "tag" start
      pure (some handle, suffix)
  let ch ← peek
  if !(ch == ' ' || isBreakOrEnd ch) then
    failHere "while scanning a tag" start ("expected ' ', but found " ++ charText ch)
  return ⟨.tag handle suffix, start, ← here⟩

/-! ### Block scalars -/

/-- The chomping of a block scalar: strip the final breaks, clip to one, or keep them all. -/
inductive Chomping where
  | strip
  | clip
  | keep
  deriving Inhabited, Repr, DecidableEq

/-- The indicators of a block scalar: chomping, and an explicit indentation. -/
def blockIndicators (start : Mark) : Scan (Chomping × Option Nat) := do
  let chompingOf (c : Char) : Option Chomping :=
    if c == '+' then some .keep else if c == '-' then some .strip else none
  let digitOf (c : Char) : Option Nat :=
    if '0' ≤ c && c ≤ '9' then some (c.toNat - '0'.toNat) else none
  let readDigit : Scan (Option Nat) := do
    match digitOf (← peek) with
    | some 0 =>
      failHere "while scanning a block scalar" start
        "expected indentation indicator in the range 1-9, but found 0"
    | some d =>
      forward 1
      return some d
    | none => return none
  let result ←
    match chompingOf (← peek) with
    | some ch => do
      forward 1
      let d ← readDigit
      pure (ch, d)
    | none => do
      let d ← readDigit
      if d.isSome then
        match chompingOf (← peek) with
        | some ch => do
          forward 1
          pure (ch, d)
        | none => pure (.clip, d)
      else pure (.clip, none)
  let ch ← peek
  if !(ch == ' ' || isBreakOrEnd ch) then
    failHere "while scanning a block scalar" start
      ("expected chomping or indentation indicators, but found " ++ charText ch)
  return result

/-- The empty lines before the first line of a block scalar whose indentation is not given:
their breaks, the deepest column their spaces reach, and the mark after the last break. -/
def blockIndentation : Scan (List String × Nat × Mark) := do
  let rec go : Nat → List String → Nat → Mark → Scan (List String × Nat × Mark)
    | 0, bs, m, e => pure (bs, m, e)
    | fuel + 1, bs, m, e => do
      let ch ← peek
      if ch == ' ' then
        forward 1
        go fuel bs (max m (← get).column) e
      else if isBreak ch then
        let b ← lineBreak
        go fuel (bs ++ [b]) m (← here)
      else pure (bs, m, e)
  go ((← left) + 1) [] 0 (← here)

/-- The breaks of the empty lines of a block scalar indented to `indent`, and the mark after the
last of them. -/
def blockBreaks (indent : Nat) : Scan (List String × Mark) := do
  let e0 ← here
  modify (Cursor.spacesTo indent)
  let rec go : Nat → List String → Mark → Scan (List String × Mark)
    | 0, bs, e => pure (bs, e)
    | fuel + 1, bs, e => do
      if isBreak (← peek) then
        let b ← lineBreak
        let e ← here
        modify (Cursor.spacesTo indent)
        go fuel (bs ++ [b]) e
      else pure (bs, e)
  go ((← left) + 1) [] e0

/-- Whether `c` is a space or a tab. -/
def isSpaceOrTab (c : Char) : Bool := c == ' ' || c == '\t'

/-- A block scalar, literal or folded, inside a block indented to `blockIndent`. -/
def blockScalar (folded : Bool) (blockIndent : Int) : Scan Token := do
  let start ← here
  forward 1
  let (chomping, increment) ← blockIndicators start
  ignoredLine "while scanning a block scalar" start
  let minIndent : Nat := max 1 (blockIndent + 1).toNat
  let (breaks0, indent, end0) ← match increment with
    | none => do
      let (bs, maxIndent, e) ← blockIndentation
      pure (bs, max minIndent maxIndent, e)
    | some inc => do
      let indent := minIndent + inc - 1
      let (bs, e) ← blockBreaks indent
      pure (bs, indent, e)
  let rec lines : Nat → List String → List String → String → Mark →
      Scan (List String × List String × String × Mark)
    | 0, chunks, breaks, lb, e => pure (chunks, breaks, lb, e)
    | fuel + 1, chunks, breaks, lb, e => do
      let c ← get
      if !(c.column == indent && c.peek != '\x00') then return (chunks, breaks, lb, e)
      let leadingNonSpace := !isSpaceOrTab c.peek
      let text ← take (c.countWhile fun ch => !isBreakOrEnd ch)
      let lb ← lineBreak
      let (breaks', e') ← blockBreaks indent
      let c' ← get
      let chunks := chunks ++ breaks ++ [text]
      if c'.column == indent && c'.peek != '\x00' then
        let joiner :=
          if folded && lb == "\n" && leadingNonSpace && !isSpaceOrTab c'.peek then
            (if breaks'.isEmpty then [" "] else [])
          else [lb]
        lines fuel (chunks ++ joiner) breaks' lb e'
      else return (chunks, breaks', lb, e')
  let (chunks, breaks, lb, stop) ← lines ((← left) + 1) [] breaks0 "" end0
  let tail := (if chomping != .strip then [lb] else []) ++ (if chomping == .keep then breaks else [])
  return ⟨.scalar (String.join (chunks ++ tail)) (if folded then .folded else .literal), start, stop⟩

/-! ### Quoted scalars -/

/-- The character that an escape of a double-quoted scalar stands for. -/
def escapeReplacement : Char → Option Char
  | '0' => some '\x00'
  | 'a' => some '\x07'
  | 'b' => some '\x08'
  | 't' => some '\t'
  | '\t' => some '\t'
  | 'n' => some '\n'
  | 'v' => some '\x0b'
  | 'f' => some '\x0c'
  | 'r' => some '\r'
  | 'e' => some '\x1b'
  | ' ' => some ' '
  | '"' => some '"'
  | '\\' => some '\\'
  | '/' => some '/'
  | 'N' => some '\x85'
  | '_' => some '\xa0'
  | 'L' => some '\u2028'
  | 'P' => some '\u2029'
  | _ => none

/-- The number of hexadecimal digits of a code escape. -/
def escapeLength : Char → Option Nat
  | 'x' => some 2
  | 'u' => some 4
  | 'U' => some 8
  | _ => none

/-- The breaks of the empty lines inside a quoted scalar. A document marker there ends the
text too early. -/
def flowBreaks (start : Mark) : Scan (List String) := do
  let rec go : Nat → List String → Scan (List String)
    | 0, bs => pure bs
    | fuel + 1, bs => do
      let c ← get
      if c.atMarker "---" || c.atMarker "..." then
        failHere "while scanning a quoted scalar" start "found unexpected document separator"
      modify (Cursor.skipWhile isSpaceOrTab)
      if isBreak (← peek) then
        let b ← lineBreak
        go fuel (bs ++ [b])
      else pure bs
  go ((← left) + 1) []

/-- Whether `c` ends a run of ordinary characters of a quoted scalar. -/
def endsQuotedRun (c : Char) : Bool := c == '\'' || c == '"' || c == '\\' || isBlankOrEnd c

/-- The characters of a quoted scalar up to the next blank, break or closing quote, with
escapes read. -/
def flowNonSpaces (double : Bool) (start : Mark) : Scan (List String) := do
  let context := "while scanning a double-quoted scalar"
  let rec go : Nat → List String → Scan (List String)
    | 0, cs => pure cs
    | fuel + 1, cs => do
      let run ← take ((← get).countWhile fun ch => !endsQuotedRun ch)
      let cs := if run.isEmpty then cs else cs ++ [run]
      let ch ← peek
      let next ← peekAt 1
      if !double && ch == '\'' && next == '\'' then
        forward 2
        go fuel (cs ++ ["'"])
      else if (double && ch == '\'') || (!double && (ch == '"' || ch == '\\')) then
        forward 1
        go fuel (cs ++ [ch.toString])
      else if double && ch == '\\' then
        forward 1
        let e ← peek
        match escapeReplacement e, escapeLength e with
        | some r, _ =>
          forward 1
          go fuel (cs ++ [r.toString])
        | none, some len =>
          forward 1
          for k in List.range len do
            let d ← peekAt k
            if !isHexDigit d then
              failHere context start ("expected escape sequence of " ++ toString len ++
                " hexadecimal numbers, but found " ++ charText d)
          let code := hexValue (← ahead len)
          if code > 0x10FFFF then throw (.badValue "chr() arg not in range(0x110000)")
          forward len
          go fuel (cs ++ [(Char.ofNat code).toString])
        | none, none =>
          if isBreak e then
            discard lineBreak
            let bs ← flowBreaks start
            go fuel (cs ++ bs)
          else failHere context start ("found unknown escape character " ++ charText e)
      else pure cs
  go ((← left) + 1) []

/-- The blanks and breaks inside a quoted scalar, folded: blanks before a break are dropped, a
single break becomes a space and further breaks are kept. -/
def flowSpaces (start : Mark) : Scan (List String) := do
  let ws ← take ((← get).countWhile isSpaceOrTab)
  let ch ← peek
  if ch == '\x00' then
    failHere "while scanning a quoted scalar" start "found unexpected end of stream"
  else if isBreak ch then
    let lb ← lineBreak
    let bs ← flowBreaks start
    let first := if lb != "\n" then [lb] else if bs.isEmpty then [" "] else []
    return first ++ bs
  else return [ws]

/-- A quoted scalar, single- or double-quoted. -/
def flowScalar (double : Bool) : Scan Token := do
  let start ← here
  let quote ← peek
  forward 1
  let first ← flowNonSpaces double start
  let rec go : Nat → List String → Scan (List String)
    | 0, cs => pure cs
    | fuel + 1, cs => do
      if (← peek) == quote then return cs
      let sp ← flowSpaces start
      let ns ← flowNonSpaces double start
      go fuel (cs ++ sp ++ ns)
  let chunks ← go ((← left) + 1) first
  forward 1
  let style := if double then ScalarStyle.doubleQuoted else .singleQuoted
  return ⟨.scalar (String.join chunks) style, start, ← here⟩

/-! ### Plain scalars -/

/-- The length of the run of characters of a plain scalar from the cursor on: it ends at a
blank, at a `:` before a blank, and inside a flow collection at a flow indicator or a `:`
before one. -/
def plainRunLength (c : Cursor) (inFlow : Bool) : Nat :=
  let flowIndicators := ",[]\x7b\x7d".toList
  let rec go (k : Nat) : Nat :=
    if h : c.pointer + k < c.buffer.size then
      let ch := c.buffer[c.pointer + k]
      let next := c.peekAt (k + 1)
      if isBlankOrEnd ch ||
          (ch == ':' && (isBlankOrEnd next || (inFlow && flowIndicators.contains next))) ||
          (inFlow && (ch == '?' || flowIndicators.contains ch)) then k
      else go (k + 1)
    else k
  termination_by c.buffer.size - (c.pointer + k)
  go 0

/-- The blanks and breaks after a run of a plain scalar, folded; `none` where a document marker
follows a break, which ends the scalar. Also answers whether a break was read. -/
def plainSpaces : Scan (Option (List String) × Bool) := do
  let ws ← take ((← get).countWhile (· == ' '))
  if isBreak (← peek) then
    let lb ← lineBreak
    let c ← get
    if c.atMarker "---" || c.atMarker "..." then return (none, true)
    let rec go : Nat → List String → Scan (Option (List String))
      | 0, bs => pure (some bs)
      | fuel + 1, bs => do
        let ch ← peek
        if ch == ' ' then
          forward 1
          go fuel bs
        else if isBreak ch then
          let b ← lineBreak
          let c ← get
          if c.atMarker "---" || c.atMarker "..." then return none
          go fuel (bs ++ [b])
        else pure (some bs)
    match ← go ((← left) + 1) [] with
    | none => return (none, true)
    | some bs =>
      let first := if lb != "\n" then [lb] else if bs.isEmpty then [" "] else []
      return (some (first ++ bs), true)
  else if ws.isEmpty then return (some [], false)
  else return (some [ws], false)

/-- A plain scalar inside a block indented to `blockIndent`, in or out of a flow collection.
Also answers whether a simple key may follow it: `allow` as given when the scalar is empty,
else whether its last run was followed by a line break. -/
def plainScalar (blockIndent : Int) (inFlow : Bool) (allow : Bool) : Scan (Token × Bool) := do
  let start ← here
  let indent : Int := blockIndent + 1
  let rec go : Nat → List String → List String → Mark → Bool → Scan (List String × Mark × Bool)
    | 0, cs, _, e, allow => pure (cs, e, allow)
    | fuel + 1, cs, spaces, e, allow => do
      let c ← get
      if c.peek == '#' then return (cs, e, allow)
      let n := plainRunLength c inFlow
      if n == 0 then return (cs, e, allow)
      let text ← take n
      let cs := cs ++ spaces ++ [text]
      let e ← here
      let (sp, broke) ← plainSpaces
      let c ← get
      match sp with
      | none => return (cs, e, broke)
      | some sp =>
        if sp.isEmpty || c.peek == '#' || (!inFlow && (c.column : Int) < indent) then
          return (cs, e, broke)
        else go fuel cs sp e broke
  let (cs, stop, allow) ← go ((← left) + 1) [] [] start allow
  return (⟨.scalar (String.join cs) .plain, start, stop⟩, allow)

end Manuscript.Yaml
