import Std.Data.HashMap
import Manuscript.Markdown.Rule
import Manuscript.Markdown.Token
import Manuscript.Markdown.Html
import Manuscript.Markdown.LinkText
import Manuscript.Markdown.Delimiter
import Manuscript.Text.Url
import Manuscript.Text.Punctuation

/-!
# Inline reading

The running text of a block is read left to right. At each position the inline rules are tried
in a fixed order (text, line break, escape, code span, strikethrough, emphasis, link, image,
automatic link, raw HTML, character reference); the first that matches emits its tokens and
moves on, and a character that no rule takes becomes plain text. Emphasis and strikethrough
markers are paired afterwards (`Manuscript/Markdown/Delimiter`).

Link text is read by the same machinery, one level deeper: `InlineOps` bundles the two
recursive entry points (skip one token, read a range), and `InlineOps.atDepth` builds them for a
given depth. Every level of recursion raises the nesting level, and no rule runs at the nesting
limit, so depth `maxNesting + 3` is never exhausted.
-/

namespace Manuscript.Markdown

open Manuscript.Text

/-- A link reference definition: its destination and title. -/
structure LinkReference where
  href : String
  title : String
  deriving Inhabited, Repr

/-- What inline reading needs from the rest of the document: the rule set and the reference
definitions, if the document has any. -/
structure InlineContext where
  dialect : Dialect
  references : Option (Std.HashMap String LinkReference)

/-- The state of inline reading. `pending` is plain text not yet written as a token;
`delimiters` are the emphasis markers of the innermost open link, `outer` those of the
enclosing levels and `inner` those of closed links. `cache` remembers where skipping a token from
a position ends, and `backticks` where runs of backticks of each length were last seen. -/
structure InlineState where
  src : Array Char
  pos : Nat := 0
  posMax : Nat
  level : Nat := 0
  pending : String := ""
  tokens : Array InlineToken := #[]
  delimiters : Array Delimiter := #[]
  outer : List (Array Delimiter) := []
  inner : Array (Array Delimiter) := #[]
  cache : Std.HashMap Nat Nat := {}
  backticks : Std.HashMap Nat Nat := {}
  backticksScanned : Bool := false
  deriving Inhabited

namespace InlineState

/-- Writes the pending text as a text token. -/
def flush (st : InlineState) : InlineState :=
  if st.pending.isEmpty then st
  else { st with tokens := st.tokens.push { kind := .text, content := st.pending }, pending := "" }

/-- Writes a token after the pending text, entering or leaving a level for opening and closing
tokens. -/
def push (st : InlineState) (t : InlineToken) : InlineState :=
  let st := st.flush
  let n := t.kind.nesting
  let st :=
    if n < 0 then
      match st.outer with
      | d :: rest =>
        { st with level := st.level - 1, inner := st.inner.push st.delimiters, delimiters := d,
                  outer := rest }
      | [] => { st with level := st.level - 1 }
    else st
  let st := { st with tokens := st.tokens.push t }
  if n > 0 then
    { st with level := st.level + 1, outer := st.delimiters :: st.outer, delimiters := #[] }
  else st

/-- The character at position `i`. -/
def at? (st : InlineState) (i : Nat) : Option Char := st.src[i]?

/-- The characters from position `a` up to position `b`. -/
def text (st : InlineState) (a b : Nat) : String := slice st.src a b

/-- Scans a run of the marker at `start` and decides whether it can open and close emphasis:
a run is left-flanking unless followed by white space, or by punctuation without white space or
punctuation before it, and right-flanking symmetrically. `_` inside a word neither opens nor
closes. -/
def scanDelims (st : InlineState) (start : Nat) (canSplitWord : Bool) : Bool × Bool × Nat :=
  let marker := (st.at? start).getD ' '
  let lastChar := if start > 0 then (st.at? (start - 1)).getD ' ' else ' '
  let pos := skipWhileBefore st.src st.posMax (· == marker) start
  let count := pos - start
  let nextChar := if pos < st.posMax then (st.at? pos).getD ' ' else ' '
  let lastPunct := isAsciiPunct lastChar || isPunctuation lastChar
  let nextPunct := isAsciiPunct nextChar || isPunctuation nextChar
  let lastSpace := isFlankSpace lastChar
  let nextSpace := isFlankSpace nextChar
  let left := !(nextSpace || (nextPunct && !(lastSpace || lastPunct)))
  let right := !(lastSpace || (lastPunct && !(nextSpace || nextPunct)))
  if canSplitWord then (left, right, count)
  else (left && (!right || lastPunct), right && (!left || nextPunct), count)

end InlineState

/-! ### Rules that do not recurse -/

/-- The characters that may start something other than plain text. -/
def isTerminatorChar (c : Char) : Bool :=
  ['\n', '!', '#', '$', '%', '&', '*', '+', '-', ':', '<', '=', '@', '[', '\\', ']', '^', '_', '`',
    '\x7B', '\x7D', '~'].contains c

/-- Plain text: a run of characters that start nothing else. -/
def textRule (st : InlineState) (silent : Bool) : Option InlineState :=
  let e := skipWhileBefore st.src st.posMax (fun c => !isTerminatorChar c) st.pos
  if e == st.pos then none
  else
    let st := if silent then st else { st with pending := st.pending ++ st.text st.pos e }
    some { st with pos := e }

/-- A line break: hard after two spaces, soft otherwise; spaces around it are dropped. -/
def newlineRule (st : InlineState) (silent : Bool) : Option InlineState :=
  if st.at? st.pos != some '\n' then none
  else
    let st :=
      if silent then st
      else
        let p := st.pending.toList
        if p.getLast? == some ' ' then
          if p.dropLast.getLast? == some ' ' then
            ({ st with pending := String.ofList (trimListRightBy (· == ' ') p) }).push
              { kind := .hardbreak }
          else ({ st with pending := String.ofList p.dropLast }).push { kind := .softbreak }
        else st.push { kind := .softbreak }
    some { st with pos := skipWhileBefore st.src st.posMax isSpaceOrTab (st.pos + 1) }

/-- A backslash escape: of a line break, a hard break; of ASCII punctuation, the character
itself; of anything else, the backslash and the character. -/
def escapeRule (st : InlineState) (silent : Bool) : Option InlineState :=
  if st.at? st.pos != some '\\' then none
  else
    let pos := st.pos + 1
    if pos ≥ st.posMax then none
    else match st.at? pos with
      | some '\n' =>
        let st := if silent then st else st.push { kind := .hardbreak }
        some { st with pos := skipWhileBefore st.src st.posMax isSpaceOrTab (pos + 1) }
      | some c =>
        let st :=
          if silent then st
          else st.push { kind := .textSpecial,
                         content := if isAsciiPunct c then c.toString else "\\" ++ c.toString }
        some { st with pos := pos + 1 }
      | none => none

/-- The first index `j ≥ i` of a backtick anywhere in `src`. -/
def nextBacktick (src : Array Char) (i : Nat) : Option Nat :=
  findFrom src i ['`']

/-- Looks for a closing run of exactly `n` backticks from `from`, recording the runs of other
lengths on the way. -/
def findCloser (st : InlineState) (n : Nat) (start : Nat) :
    Option (Nat × Nat) × InlineState :=
  go st start (st.src.size + 1)
where
  go (st : InlineState) (start : Nat) : Nat → Option (Nat × Nat) × InlineState
    | 0 => (none, st)
    | fuel + 1 =>
      match nextBacktick st.src start with
      | none => (none, st)
      | some ms =>
        let me := skipWhileBefore st.src st.posMax (· == '`') (ms + 1)
        if me - ms == n then (some (ms, me), st)
        else go { st with backticks := st.backticks.insert (me - ms) ms } me fuel

/-- A code span: a run of backticks up to the next run of the same length. The content has its
line breaks turned into spaces and loses one space at each end when it has both and is not all
blank. -/
def backtickRule (st : InlineState) (silent : Bool) : Option InlineState :=
  if st.at? st.pos != some '`' then none
  else
    let start := st.pos
    let pos := skipWhileBefore st.src st.posMax (· == '`') (start + 1)
    let openLen := pos - start
    let marker := String.ofList (List.replicate openLen '`')
    let literal (st : InlineState) : InlineState :=
      let st := if silent then st else { st with pending := st.pending ++ marker }
      { st with pos := st.pos + openLen }
    if st.backticksScanned && (st.backticks.getD openLen 0) ≤ start then some (literal st)
    else
      match findCloser st openLen pos with
      | (some (ms, me), st) =>
        let st :=
          if silent then st
          else
            let raw := (st.text pos ms).map fun c => if c == '\n' then ' ' else c
            let content :=
              if raw.startsWith " " && raw.endsWith " " && !(isAllBlank raw) then
                String.ofList (raw.toList.drop 1).dropLast
              else raw
            st.push { kind := .codeInline, content := content }
        some { st with pos := me }
      | (none, st) => some (literal { st with backticksScanned := true })

/-- A run of tildes; two or more are written as text tokens with strikethrough delimiters, an
odd one first as plain text. -/
def strikethroughRule (st : InlineState) (silent : Bool) : Option InlineState :=
  if silent || st.at? st.pos != some '~' then none
  else
    let (canOpen, canClose, len) := st.scanDelims st.pos true
    if len < 2 then none
    else
      let st := if len % 2 == 1 then st.push { kind := .text, content := "~" } else st
      let st := (List.range (len / 2)).foldl (fun st _ =>
        let st := st.push { kind := .text, content := "~~" }
        let d : Delimiter := { marker := '~', length := 0, token := st.tokens.size - 1,
                               canOpen := canOpen, canClose := canClose }
        { st with delimiters := st.delimiters.push d })
        st
      some { st with pos := st.pos + len }

/-- A run of `*` or `_`, written as one text token per marker, each with a delimiter. -/
def emphasisRule (st : InlineState) (silent : Bool) : Option InlineState :=
  match st.at? st.pos with
  | some m =>
    if silent || !(m == '*' || m == '_') then none
    else
      let (canOpen, canClose, len) := st.scanDelims st.pos (m == '*')
      let st := (List.range len).foldl (fun st _ =>
        let st := st.push { kind := .text, content := m.toString }
        let d : Delimiter := { marker := m, length := len, token := st.tokens.size - 1,
                               canOpen := canOpen, canClose := canClose }
        { st with delimiters := st.delimiters.push d })
        st
      some { st with pos := st.pos + len }
  | none => none

/-- Drops one line break at the end, the only one that an end-anchored pattern lets through. -/
def dropFinalNewline (cs : List Char) : List Char :=
  if cs.getLast? == some '\n' then cs.dropLast else cs

/-- Whether `s` is an absolute URI: a scheme of 2 to 32 letters, digits, `+`, `.` and `-`
starting with a letter, a colon, and no spaces, controls or angle brackets. -/
def isAutolinkUri (s : String) : Bool :=
  match s.toList with
  | c :: rest =>
    let scheme := rest.takeWhile fun d => isAsciiLetter d || isAsciiDigit d || d == '+' ||
      d == '.' || d == '-'
    let after := rest.drop scheme.length
    isAsciiLetter c && 1 ≤ scheme.length && scheme.length ≤ 31 && after.head? == some ':' &&
      (dropFinalNewline after.tail).all fun d => d.toNat > 0x20 && d != '<' && d != '>'
  | [] => false

/-- Whether `s` is an e-mail address: a local part, `@`, and dot-separated labels of one to 63
letters, digits and inner hyphens. -/
def isAutolinkEmail (s : String) : Bool :=
  let cs := dropFinalNewline s.toList
  let localPart := cs.takeWhile fun c => isAsciiLetter c || isAsciiDigit c ||
    ['.', '!', '#', '$', '%', '&', '\'', '*', '+', '/', '=', '?', '^', '_', '`', '\x7B', '|',
      '\x7D', '~', '-'].contains c
  let rest := cs.drop localPart.length
  let label (l : List Char) : Bool :=
    1 ≤ l.length && l.length ≤ 63 && l.all (fun c => isAsciiLetter c || isAsciiDigit c || c == '-') &&
      l.head? != some '-' && l.getLast? != some '-'
  !localPart.isEmpty && rest.head? == some '@' && (rest.tail.splitOn '.').all label

/-- An automatic link in angle brackets: an absolute URI or an e-mail address. -/
def autolinkRule (st : InlineState) (silent : Bool) : Option InlineState :=
  if st.at? st.pos != some '<' then none
  else
    let body := (st.src.extract (st.pos + 1) st.posMax).toList
    let inner := body.takeWhile fun c => c != '<' && c != '>'
    if (body.drop inner.length).head? != some '>' then none
    else
      let url := String.ofList inner
      let emit (href : String) : Option InlineState :=
        if !Url.isSafe href then none
        else
          let st := if silent then st
            else ((st.push { kind := .linkOpen, href := href }).push
              { kind := .text, content := Url.normalizeText url }).push { kind := .linkClose }
          some { st with pos := st.pos + inner.length + 2 }
      if isAutolinkUri url then emit (Url.normalize url)
      else if isAutolinkEmail url then emit (Url.normalize ("mailto:" ++ url))
      else none

/-- Raw inline HTML: a tag, comment, processing instruction, declaration or character data
section. -/
def htmlInlineRule (st : InlineState) (silent : Bool) : Option InlineState :=
  if st.at? st.pos != some '<' || st.pos + 2 ≥ st.posMax then none
  else match st.at? (st.pos + 1) with
    | some c =>
      if !(c == '!' || c == '?' || c == '/' || isAsciiLetter c) then none
      else match htmlTagEnd st.src st.pos with
        | some e =>
          let st := if silent then st
            else st.push { kind := .htmlInline, content := st.text st.pos e }
          some { st with pos := e }
        | none => none
    | none => none

/-- A character reference: numeric (up to seven decimal or six hexadecimal digits) or named. -/
def entityRule (st : InlineState) (silent : Bool) : Option InlineState :=
  if st.at? st.pos != some '&' || st.pos + 1 ≥ st.posMax then none
  else
    let rest := (st.src.extract (st.pos + 1) (st.pos + 40)).toList
    let emit (content : String) (len : Nat) : Option InlineState :=
      let st := if silent then st else st.push { kind := .textSpecial, content := content }
      some { st with pos := st.pos + len }
    match rest with
    | '#' :: r =>
      let hex := r.head?.any (fun c => c == 'x' || c == 'X')
      let ds := if hex then (r.drop 1).takeWhile isHexDigit else r.takeWhile isAsciiDigit
      let ok := if hex then 1 ≤ ds.length && ds.length ≤ 6 else 1 ≤ ds.length && ds.length ≤ 7
      let used := (if hex then 1 else 0) + ds.length
      if ok && (r.drop used).head? == some ';' then
        let code := numeralValue (if hex then 16 else 10) ds
        emit (if isValidEntityCode code then (Char.ofNat code).toString else "�") (used + 3)
      else none
    | c :: r =>
      let body := r.takeWhile fun d => isFoldedLetter d || isAsciiDigit d
      if isFoldedLetter c && 1 ≤ body.length && body.length ≤ 31 &&
          (r.drop body.length).head? == some ';' then
        match entity? (String.ofList (c :: body)) with
        | some t => emit t (body.length + 3)
        | none => none
      else none
    | [] => none

/-! ### Links and the recursive entry points -/

/-- The two recursive entry points of inline reading at some depth: skipping one token from
the current position, and reading the current range into tokens. -/
structure InlineOps where
  skip : InlineState → InlineState
  tokenize : InlineState → InlineState

/-- Finds the `]` that closes a link label opened at `start`, skipping whole tokens inside it.
With `disableNested`, a nested link makes the label fail. Answers the index of the `]`, and the
state with its position restored. -/
def findLabelEnd (ops : InlineOps) (st : InlineState) (start : Nat) (disableNested : Bool) :
    Option Nat × InlineState :=
  let oldPos := st.pos
  let (r, st) := go { st with pos := start + 1 } 1 (st.src.size + 2)
  (r, { st with pos := oldPos })
where
  go (st : InlineState) (level : Nat) : Nat → Option Nat × InlineState
    | 0 => (none, st)
    | fuel + 1 =>
      if st.pos < st.posMax then
        let marker := st.at? st.pos
        if marker == some ']' && level == 1 then (some st.pos, st)
        else
          let level := if marker == some ']' then level - 1 else level
          let prevPos := st.pos
          let st := ops.skip st
          if marker == some '[' then
            if prevPos + 1 == st.pos then go st (level + 1) fuel
            else if disableNested then (none, st)
            else go st level fuel
          else go st level fuel
      else (none, st)

/-- Skips blanks and line breaks from `pos`. -/
def skipLinkSpace (st : InlineState) (pos : Nat) : Nat :=
  skipWhileBefore st.src st.posMax (fun c => isSpaceOrTab c || c == '\n') pos

/-- The destination and title of an inline link whose `(` is at `pos - 1`. Answers the
position after them, the destination and the title; the destination stays empty if it is
missing or unsafe. `titleNeedsDest` reads a title only after a valid destination. -/
def inlineTarget (st : InlineState) (pos : Nat) (titleNeedsDest : Bool) :
    Nat × String × String :=
  let pos := skipLinkSpace st pos
  let dest := scanDestination st.src pos st.posMax
  let (href, pos) := match dest with
    | some (d, e) =>
      let h := Url.normalize d
      if Url.isSafe h then (h, e) else ("", pos)
    | none => ("", pos)
  if titleNeedsDest && dest.isNone then (pos, href, "")
  else
    let start := pos
    let pos := skipLinkSpace st pos
    let t := scanTitle st.src pos st.posMax none
    if pos < st.posMax && start != pos && t.closed then
      (skipLinkSpace st t.pos, href, t.text)
    else (pos, href, "")

/-- Looks up a reference link whose label runs from `labelStart` to `labelEnd`, with an
optional second label from `pos`. Answers the end position and the reference. -/
def referenceTarget (ops : InlineOps) (ctx : InlineContext) (st : InlineState)
    (labelStart labelEnd pos : Nat) : Option (Nat × LinkReference) × InlineState :=
  match ctx.references with
  | none => (none, st)
  | some refs =>
    let (label, pos, st) :=
      if pos < st.posMax && st.at? pos == some '[' then
        match findLabelEnd ops st pos false with
        | (some e, st) => (st.text (pos + 1) e, e + 1, st)
        | (none, st) => ("", labelEnd + 1, st)
      else ("", labelEnd + 1, st)
    let label := if label.isEmpty then st.text labelStart labelEnd else label
    match refs.get? (normalizeLabel label) with
    | some r => (some (pos, r), st)
    | none => (none, st)

/-- A link: a label in brackets followed by an inline destination and title in parentheses, or
by a reference label, or alone as a shortcut reference. Its text is read one level deeper. -/
def linkRule (ops : InlineOps) (ctx : InlineContext) (st : InlineState) (silent : Bool) :
    Bool × InlineState :=
  if st.at? st.pos != some '[' then (false, st)
  else
    let labelStart := st.pos + 1
    match findLabelEnd ops st st.pos true with
    | (none, st) => (false, st)
    | (some lEnd, st) =>
      let pos := lEnd + 1
      let inlineForm := pos < st.posMax && st.at? pos == some '('
      let attempt : Option (Nat × String × String) × Bool :=
        if inlineForm then
          if skipLinkSpace st (pos + 1) ≥ st.posMax then (none, false)
          else
            let (p, href, title) := inlineTarget st (pos + 1) true
            if p < st.posMax && st.at? p == some ')' then (some (p + 1, href, title), false)
            else (none, true)
        else (none, true)
      let (target, st) : Option (Nat × String × String) × InlineState :=
        match attempt with
        | (some t, _) => (some t, st)
        | (none, false) => (none, st)
        | (none, true) =>
          let afterParen := if inlineForm then
              (inlineTarget st (pos + 1) true).1 + 1 else pos
          match referenceTarget ops ctx st labelStart lEnd afterParen with
          | (some (p, r), st) => (some (p, r.href, r.title), st)
          | (none, st) => (none, st)
      match target with
      | none => (false, st)
      | some (endPos, href, title) =>
        let st :=
          if silent then st
          else
            let oldMax := st.posMax
            let st := { st with pos := labelStart, posMax := lEnd }
            let st := st.push { kind := .linkOpen, href := href, title := title }
            let st := ops.tokenize st
            let st := st.push { kind := .linkClose }
            { st with posMax := oldMax }
        (true, { st with pos := endPos })

/-- An image: `!` and a link whose label is the alternative text. -/
def imageRule (ops : InlineOps) (ctx : InlineContext) (st : InlineState) (silent : Bool) :
    Bool × InlineState :=
  if st.at? st.pos != some '!' then (false, st)
  else if st.pos + 1 < st.posMax && st.at? (st.pos + 1) != some '[' then (false, st)
  else
    let labelStart := st.pos + 2
    match findLabelEnd ops st (st.pos + 1) false with
    | (none, st) => (false, st)
    | (some lEnd, st) =>
      let pos := lEnd + 1
      let (target, st) : Option (Nat × String × String) × InlineState :=
        if pos < st.posMax && st.at? pos == some '(' then
          if skipLinkSpace st (pos + 1) ≥ st.posMax then (none, st)
          else
            let (p, href, title) := inlineTarget st (pos + 1) false
            if p < st.posMax && st.at? p == some ')' then (some (p + 1, href, title), st)
            else (none, st)
        else
          match referenceTarget ops ctx st labelStart lEnd pos with
          | (some (p, r), st) => (some (p, r.href, r.title), st)
          | (none, st) => (none, st)
      match target with
      | none => (false, st)
      | some (endPos, href, title) =>
        let st := if silent then st
          else st.push { kind := .image, href := href, title := title,
                         content := st.text labelStart lEnd }
        (true, { st with pos := endPos })

/-- Tries the switched-on rules in order at the current position. -/
def runRules (ops : InlineOps) (ctx : InlineContext) (st : InlineState) (silent : Bool) :
    Bool × InlineState :=
  let simple (r : Rule) (f : InlineState → Bool → Option InlineState) (st : InlineState) :
      Option (Bool × InlineState) :=
    if ctx.dialect.has r then (f st silent).map fun st => (true, st) else none
  let recursive (r : Rule) (f : InlineOps → InlineContext → InlineState → Bool → Bool × InlineState)
      (st : InlineState) : Bool × InlineState :=
    if ctx.dialect.has r then f ops ctx st silent else (false, st)
  match simple .text textRule st with
  | some r => r
  | none => match simple .newline newlineRule st with
  | some r => r
  | none => match simple .escape escapeRule st with
  | some r => r
  | none => match simple .backticks backtickRule st with
  | some r => r
  | none => match simple .strikethrough strikethroughRule st with
  | some r => r
  | none => match simple .emphasis emphasisRule st with
  | some r => r
  | none => match recursive .link linkRule st with
  | (true, st) => (true, st)
  | (false, st) => match recursive .image imageRule st with
  | (true, st) => (true, st)
  | (false, st) => match simple .autolink autolinkRule st with
  | some r => r
  | none => match simple .htmlInline htmlInlineRule st with
  | some r => r
  | none => match simple .entity entityRule st with
  | some r => r
  | none => (false, st)

/-- Skips one token from the current position without writing anything, remembering the
result per position; at the nesting limit it skips to the end of the range. -/
def skipWith (ops : InlineOps) (ctx : InlineContext) (st : InlineState) : InlineState :=
  let pos := st.pos
  match st.cache.get? pos with
  | some p => { st with pos := p }
  | none =>
    let (ok, st) :=
      if st.level < ctx.dialect.maxNesting then
        let (ok, st') := runRules ops ctx { st with level := st.level + 1 } true
        (ok, { st' with level := st'.level - 1 })
      else (false, { st with pos := st.posMax })
    let st := if ok then st else { st with pos := st.pos + 1 }
    { st with cache := st.cache.insert pos st.pos }

/-- Reads the current range into tokens; characters that no rule takes become plain text. -/
def tokenizeWith (ops : InlineOps) (ctx : InlineContext) (st : InlineState) : InlineState :=
  let stop := st.posMax
  (go st stop (stop + 1)).flush
where
  go (st : InlineState) (stop : Nat) : Nat → InlineState
    | 0 => st
    | fuel + 1 =>
      if st.pos < stop then
        let prevPos := st.pos
        let (ok, st) :=
          if st.level < ctx.dialect.maxNesting then runRules ops ctx st false else (false, st)
        if ok && st.pos > prevPos then
          if st.pos ≥ stop then st else go st stop fuel
        else
          match st.at? st.pos with
          | some c => go { st with pending := st.pending.push c, pos := st.pos + 1 } stop fuel
          | none => st
      else st

/-- The entry points at a given depth; at depth zero nothing is read. -/
def InlineOps.atDepth (ctx : InlineContext) : Nat → InlineOps
  | 0 => { skip := fun st => { st with pos := st.posMax + 1 }, tokenize := fun st => st.flush }
  | n + 1 =>
    let inner := InlineOps.atDepth ctx n
    { skip := skipWith inner ctx, tokenize := tokenizeWith inner ctx }

/-- Reads running text into inline tokens, with emphasis paired and adjacent text merged. -/
def parseInline (ctx : InlineContext) (text : String) : Array InlineToken :=
  let src := text.toList.toArray
  let ops := InlineOps.atDepth ctx (ctx.dialect.maxNesting + 3)
  let st := ops.tokenize { src := src, posMax := src.size }
  let lists := #[st.delimiters] ++ st.inner
  let lists := if ctx.dialect.has .balancePairs then lists.map Delimiter.balance else lists
  let toks := st.tokens
  let toks := if ctx.dialect.has .strikethrough then
      lists.foldl markStrikethrough toks else toks
  let toks := if ctx.dialect.has .emphasis then lists.foldl markEmphasis toks else toks
  if ctx.dialect.has .fragmentsJoin then joinText toks else toks

end Manuscript.Markdown
