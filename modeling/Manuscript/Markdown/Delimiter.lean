import Manuscript.Markdown.Token

/-!
# Emphasis delimiters

Runs of `*`, `_` and `~~` are first written as plain text tokens, each marker with a delimiter
record. `Delimiter.balance` pairs closers with openers following the rules of emphasis (the
same marker, the rule of three, and the bounds that keep the search linear);
`markEmphasis` and `markStrikethrough` then turn paired markers into opening and closing tokens,
and `joinText` merges the text tokens that are left next to each other.
-/

namespace Manuscript.Markdown

/-- A delimiter: its marker, the length of its run (zero for strikethrough), the index of its
text token, the index of its closer once paired, and whether it may open or close. -/
structure Delimiter where
  marker : Char
  length : Nat
  token : Nat
  closer : Option Nat := none
  canOpen : Bool
  canClose : Bool
  deriving Inhabited, Repr

namespace Delimiter

/-- The slot of the lower bound for a closer: whether it can also open, and its length
modulo three. -/
def bottomSlot (d : Delimiter) : Nat :=
  (if d.canOpen then 3 else 0) + d.length % 3

/-- Whether pairing an opener with a closer would break the rule of three: when either marker
can both open and close, the two run lengths may not add up to a multiple of three unless both
are multiples of three. -/
def oddMatch (opener closer : Delimiter) : Bool :=
  (opener.canClose || closer.canOpen) && (opener.length + closer.length) % 3 == 0 &&
    (opener.length % 3 != 0 || closer.length % 3 != 0)

/-- Pairs every closer with the nearest suitable opener before it. -/
def balance (delims : Array Delimiter) : Array Delimiter := Id.run do
  let mut ds := delims
  let mut bottoms : List (Char × Array Int) := []
  let mut headerIdx := 0
  let mut lastTokenIdx : Int := -2
  let mut jumps : Array Nat := #[]
  for closerIdx in [0:delims.size] do
    let closer := ds[closerIdx]!
    jumps := jumps.push 0
    if ds[headerIdx]!.marker != closer.marker || lastTokenIdx != (closer.token : Int) - 1 then
      headerIdx := closerIdx
    lastTokenIdx := closer.token
    if !closer.canClose then continue
    let marks := (bottoms.lookup closer.marker).getD #[-1, -1, -1, -1, -1, -1]
    let minOpenerIdx := marks[closer.bottomSlot]!
    let mut openerIdx : Int := (headerIdx : Int) - jumps[headerIdx]! - 1
    let mut newMinOpenerIdx := openerIdx
    for _ in [0:closerIdx + 1] do
      if openerIdx ≤ minOpenerIdx then break
      let o := openerIdx.toNat
      let opener := ds[o]!
      if opener.marker != closer.marker then
        openerIdx := openerIdx - jumps[o]! - 1
        continue
      if opener.canOpen && opener.closer.isNone && !oddMatch opener closer then
        let lastJump := if o > 0 && !ds[o - 1]!.canOpen then jumps[o - 1]! + 1 else 0
        jumps := (jumps.set! closerIdx (closerIdx - o + lastJump)).set! o lastJump
        ds := ds.set! closerIdx { ds[closerIdx]! with canOpen := false }
        ds := ds.set! o { ds[o]! with closer := some closerIdx, canClose := false }
        newMinOpenerIdx := -1
        lastTokenIdx := -2
        break
      openerIdx := openerIdx - jumps[o]! - 1
    if newMinOpenerIdx != -1 then
      bottoms := (closer.marker, marks.set! closer.bottomSlot newMinOpenerIdx) ::
        bottoms.filter (·.1 != closer.marker)
  return ds

end Delimiter

/-- Turns paired `*` and `_` markers into emphasis tokens; two adjacent pairs that nest
exactly become one strong pair. -/
def markEmphasis (tokens : Array InlineToken) (ds : Array Delimiter) : Array InlineToken :=
  Id.run do
  let mut toks := tokens
  let mut i := ds.size
  for _ in [0:ds.size] do
    if i == 0 then break
    i := i - 1
    let startDelim := ds[i]!
    if startDelim.marker != '_' && startDelim.marker != '*' then continue
    match startDelim.closer with
    | none => continue
    | some e =>
      let endDelim := ds[e]!
      let isStrong := i > 0 && ds[i - 1]!.closer == some (e + 1) &&
        ds[i - 1]!.marker == startDelim.marker && ds[i - 1]!.token + 1 == startDelim.token &&
        ds[e + 1]!.token == endDelim.token + 1
      let opening := if isStrong then InlineKind.strongOpen else .emOpen
      let closing := if isStrong then InlineKind.strongClose else .emClose
      toks := toks.set! startDelim.token { kind := opening }
      toks := toks.set! endDelim.token { kind := closing }
      if isStrong then
        toks := toks.set! ds[i - 1]!.token { kind := .text, content := "" }
        toks := toks.set! ds[e + 1]!.token { kind := .text, content := "" }
        i := i - 1
  return toks

/-- Turns paired `~~` markers into strikethrough tokens, then moves the odd `~` left before a
closing marker behind the closing tokens that follow it. -/
def markStrikethrough (tokens : Array InlineToken) (ds : Array Delimiter) : Array InlineToken :=
  Id.run do
  let mut toks := tokens
  let mut lone : Array Nat := #[]
  for d in ds do
    if d.marker != '~' then continue
    match d.closer with
    | none => continue
    | some e =>
      let endDelim := ds[e]!
      toks := toks.set! d.token { kind := .strikeOpen }
      toks := toks.set! endDelim.token { kind := .strikeClose }
      let prev := toks[endDelim.token - 1]!
      if endDelim.token > 0 && prev.kind == .text && prev.content == "~" then
        lone := lone.push (endDelim.token - 1)
  for i in lone.reverse do
    let mut j := i + 1
    for _ in [0:toks.size] do
      if j < toks.size && toks[j]!.kind == .strikeClose then j := j + 1 else break
    j := j - 1
    if i != j then
      let t := toks[j]!
      toks := (toks.set! j toks[i]!).set! i t
  return toks

/-- Merges each run of adjacent text tokens into one. -/
def joinText (tokens : Array InlineToken) : Array InlineToken :=
  tokens.foldl (fun acc t =>
    match acc.back? with
    | some last =>
      if last.kind == .text && t.kind == .text then
        acc.pop.push { last with content := last.content ++ t.content }
      else acc.push t
    | none => acc.push t) #[]

end Manuscript.Markdown
