import Std.Data.HashMap
import Manuscript.Markdown.Rule
import Manuscript.Markdown.Token
import Manuscript.Markdown.Html
import Manuscript.Markdown.LinkText
import Manuscript.Markdown.Inline
import Manuscript.Text.Url

/-!
# Block reading

The document is read line by line. For every line the reader knows where it begins and ends,
where its first non-blank character is, and how far that character is indented with tabs
expanded; containers (block quotes and list items) narrow these marks for the lines inside them
and read those lines again, one level deeper.

At each line the block rules are tried in a fixed order (table, indented code, fence, block
quote, thematic break, list, reference definition, HTML block, heading, setext heading,
paragraph); the first that matches emits tokens and moves past its lines. Some rules end a
paragraph, a block quote or a list without a blank line; those are asked in "silent" mode,
which only answers whether they would match.

`BlockOps` carries the recursive entry point, built by depth in `BlockOps.atDepth`; every level
of recursion opens a token, and nothing is read at the nesting limit.
-/

namespace Manuscript.Markdown

open Manuscript.Text

/-- The kind of container that a rule runs inside, which decides what may interrupt it. -/
inductive ParentKind where
  | root | blockquote | list | paragraph | reference | table
  deriving DecidableEq, Repr, Inhabited

/-- The state of block reading: the source, the marks of each line (begin, end, offset of the
first non-blank character, indent with tabs expanded, and the virtual spaces before the line
begins), the required indent, the current line, the tokens so far and the reference
definitions. -/
structure BlockState where
  src : Array Char
  bMarks : Array Nat
  eMarks : Array Nat
  tShift : Array Nat
  sCount : Array Int
  bsCount : Array Int
  blkIndent : Nat := 0
  line : Nat := 0
  lineMax : Nat
  tight : Bool := false
  listIndent : Int := -1
  parentType : ParentKind := .root
  level : Nat := 0
  tokens : Array BlockToken := #[]
  references : Option (Std.HashMap String LinkReference) := none
  deriving Inhabited

/-- The marks of one line while the source is being measured. -/
structure LineScan where
  bMarks : Array Nat := #[]
  eMarks : Array Nat := #[]
  tShift : Array Nat := #[]
  sCount : Array Int := #[]
  indentFound : Bool := false
  start : Nat := 0
  indent : Nat := 0
  offset : Nat := 0

/-- Measures one more character `c`, at index `pos` of a source of length `len`: blanks before
the first other character make the indent, and a line feed or the last character ends the
line. -/
def LineScan.step (len : Nat) (ls : LineScan) (ci : Char × Nat) : LineScan :=
  let (c, pos) := ci
  if !ls.indentFound && isSpaceOrTab c then
    { ls with indent := ls.indent + 1,
              offset := ls.offset + (if c == '\t' then 4 - ls.offset % 4 else 1) }
  else
    let ls := { ls with indentFound := true }
    if c == '\n' || pos + 1 == len then
      let e := if c == '\n' then pos else pos + 1
      { bMarks := ls.bMarks.push ls.start, eMarks := ls.eMarks.push e,
        tShift := ls.tShift.push ls.indent, sCount := ls.sCount.push ls.offset,
        indentFound := false, indent := 0, offset := 0, start := e + 1 }
    else ls

namespace BlockState

/-- Measures the lines of a source. A line of blanks only at the very end is not a line. -/
def init (src : Array Char) : BlockState :=
  let len := src.size
  let ls := src.toList.zipIdx.foldl (LineScan.step len) {}
  let n := ls.bMarks.size
  { src := src, bMarks := ls.bMarks.push len, eMarks := ls.eMarks.push len,
    tShift := ls.tShift.push 0, sCount := ls.sCount.push 0,
    bsCount := Array.replicate (n + 1) 0, lineMax := n }

/-- Where line `i` begins. -/
def bm (st : BlockState) (i : Nat) : Nat := st.bMarks.getD i 0
/-- Where line `i` ends. -/
def em (st : BlockState) (i : Nat) : Nat := st.eMarks.getD i 0
/-- The offset of the first non-blank character of line `i`. -/
def ts (st : BlockState) (i : Nat) : Nat := st.tShift.getD i 0
/-- The indent of line `i`, tabs expanded. -/
def sc (st : BlockState) (i : Nat) : Int := st.sCount.getD i 0
/-- The virtual spaces before line `i`. -/
def bs (st : BlockState) (i : Nat) : Int := st.bsCount.getD i 0
/-- The character at position `i`. -/
def at? (st : BlockState) (i : Nat) : Option Char := st.src[i]?
/-- Where the content of line `i` starts. -/
def first (st : BlockState) (i : Nat) : Nat := st.bm i + st.ts i

/-- Whether line `i` has no content. -/
def isEmptyLine (st : BlockState) (i : Nat) : Bool := st.first i ≥ st.em i

/-- The first line from `i` on that has content, or the last line. -/
def skipEmptyLines (st : BlockState) (i : Nat) : Nat :=
  if i < st.lineMax then
    if st.isEmptyLine i then skipEmptyLines st (i + 1) else i
  else i
termination_by st.lineMax - i

/-- Skips spaces and tabs from `pos`. -/
def skipSpaces (st : BlockState) (pos : Nat) : Nat := skipWhile st.src isSpaceOrTab pos

/-- Skips the character `c` from `pos`. -/
def skipChars (st : BlockState) (pos : Nat) (c : Char) : Nat := skipWhile st.src (· == c) pos

/-- Steps back over the characters satisfying `p` from `pos`, not below `min`. -/
def skipBackWhile (st : BlockState) (p : Char → Bool) (pos min : Nat) : Nat :=
  if min < pos then
    match st.at? (pos - 1) with
    | some c => if p c then skipBackWhile st p (pos - 1) min else pos
    | none => pos
  else pos
termination_by pos

/-- Writes a block token at the current level. -/
def push (st : BlockState) (t : BlockToken) : BlockState :=
  let n := t.kind.nesting
  let level := if n < 0 then st.level - 1 else st.level
  let st := { st with level := level, tokens := st.tokens.push { t with level := level } }
  if n > 0 then { st with level := st.level + 1 } else st

/-- The characters of line `i` from its first non-blank character to its end. -/
def lineText (st : BlockState) (i : Nat) : String := slice st.src (st.first i) (st.em i)

/-- Strips up to `indent` columns of indentation from line `i`, from its beginning; a tab that
is only partly stripped leaves its remaining columns as spaces. -/
def stripIndent (st : BlockState) (i indent last : Nat) : String :=
  let lineStart := st.bm i
  let rec go (first lineIndent : Nat) (fuel : Nat) : Nat × Nat :=
    match fuel with
    | 0 => (first, lineIndent)
    | fuel + 1 =>
      if first < last && lineIndent < indent then
        match st.at? first with
        | some c =>
          if isSpaceOrTab c then
            let w := if c == '\t' then
                (4 - ((lineIndent : Int) + st.bs i) % 4).toNat else 1
            go (first + 1) (lineIndent + w) fuel
          else if first - lineStart < st.ts i then go (first + 1) (lineIndent + 1) fuel
          else (first, lineIndent)
        | none => (first, lineIndent)
      else (first, lineIndent)
  let (first, lineIndent) := go lineStart 0 (last - lineStart + 1)
  let body := slice st.src first last
  if lineIndent > indent then String.ofList (List.replicate (lineIndent - indent) ' ') ++ body
  else body

/-- The text of the lines from `begin` up to `stop`, each stripped of `indent` columns, with
their line breaks; the last one keeps its line break only with `keepLastLF`. -/
def getLines (st : BlockState) (begin stop indent : Nat) (keepLastLF : Bool) : String :=
  String.join <| (List.range (stop - begin)).map fun k =>
    let i := begin + k
    let last := if i + 1 < stop || keepLastLF then st.em i + 1 else st.em i
    st.stripIndent i indent last

end BlockState

/-- What block reading needs besides its state: the rule set. -/
structure BlockContext where
  dialect : Dialect

namespace BlockContext

/-- Whether line `i` is indented enough to be indented code, when indented code is switched
on. -/
def isCodeBlock (ctx : BlockContext) (st : BlockState) (i : Nat) : Bool :=
  ctx.dialect.has .code && st.sc i - (st.blkIndent : Int) ≥ 4

end BlockContext

/-- The recursive entry point of block reading: read the lines from one line up to another. -/
structure BlockOps where
  tokenize : BlockState → Nat → Nat → BlockState

/-- A block rule: given the recursive entry point, the state, the first line, the line to stop
before, and whether only to answer. -/
abbrev BlockRule := BlockContext → BlockOps → BlockState → Nat → Nat → Bool → Bool × BlockState

/-- A silent check whether a rule would match at a line: the question that decides whether it
interrupts a paragraph, block quote, list or table. -/
abbrev Probe := BlockState → Nat → Nat → Bool

/-- The recursive entry point that reads nothing, for silent checks, which never recurse. -/
def BlockOps.idle : BlockOps := ⟨fun st _ _ => st⟩

/-! ### Leaf blocks -/

/-- Indented code: lines indented by four or more columns, with blank lines among them. -/
def codeRule : BlockRule := fun ctx _ st startLine endLine _ =>
  if !ctx.isCodeBlock st startLine then (false, st)
  else
    let rec scan (next last : Nat) (fuel : Nat) : Nat :=
      match fuel with
      | 0 => last
      | fuel + 1 =>
        if next < endLine then
          if st.isEmptyLine next then scan (next + 1) last fuel
          else if ctx.isCodeBlock st next then scan (next + 1) (next + 1) fuel
          else last
        else last
    let last := scan (startLine + 1) (startLine + 1) endLine
    let st := { st with line := last }
    (true, st.push { kind := .codeBlock, lines := some (startLine, last),
                     content := st.getLines startLine last (4 + st.blkIndent) false ++ "\n" })

/-- A fence: three or more backticks or tildes, an info string, and the lines up to a closing
fence at least as long, or the end of the container. -/
def fenceRule : BlockRule := fun ctx _ st startLine endLine silent =>
  let pos := st.first startLine
  let max := st.em startLine
  if ctx.isCodeBlock st startLine || pos + 3 > max then (false, st)
  else match st.at? pos with
    | some marker =>
      if marker != '~' && marker != '`' then (false, st)
      else
        let mem := pos
        let pos := st.skipChars pos marker
        let len := pos - mem
        let params := slice st.src pos max
        if len < 3 || (marker == '`' && params.contains '`') then (false, st)
        else if silent then (true, st)
        else
          let rec scan (next : Nat) (fuel : Nat) : Nat × Bool :=
            match fuel with
            | 0 => (next, false)
            | fuel + 1 =>
              let next := next + 1
              if next ≥ endLine then (next, false)
              else
                let p := st.first next
                let m := st.em next
                if p < m && st.sc next < st.blkIndent then (next, false)
                else match st.at? p with
                  | none => (next, false)
                  | some c =>
                    if c != marker || ctx.isCodeBlock st next then scan next fuel
                    else
                      let q := st.skipChars p marker
                      if q - p < len then scan next fuel
                      else if st.skipSpaces q < m then scan next fuel
                      else (next, true)
          let (next, closed) := scan startLine endLine
          let st := { st with line := next + (if closed then 1 else 0) }
          (true, st.push { kind := .fence, lines := some (startLine, st.line), info := params,
                           content := st.getLines (startLine + 1) next (st.sc startLine).toNat true })
    | none => (false, st)

/-- A thematic break: three or more of the same `*`, `-` or `_`, with only spaces and tabs
between. -/
def hrRule : BlockRule := fun ctx _ st startLine _ silent =>
  let pos := st.first startLine
  let max := st.em startLine
  if ctx.isCodeBlock st startLine then (false, st)
  else match st.at? pos with
    | some marker =>
      if !(marker == '*' || marker == '-' || marker == '_') then (false, st)
      else
        let rest := (st.src.extract (pos + 1) max).toList
        if !rest.all (fun c => c == marker || isSpaceOrTab c) then (false, st)
        else if rest.countP (· == marker) + 1 < 3 then (false, st)
        else if silent then (true, st)
        else
          let st := { st with line := startLine + 1 }
          (true, st.push { kind := .hr, lines := some (startLine, startLine + 1) })
    | none => (false, st)

/-- An ATX heading: one to six `#`, then a space or the end of the line; a closing run of `#`
after a space is dropped. -/
def headingRule : BlockRule := fun ctx _ st startLine _ silent =>
  let pos := st.first startLine
  let max := st.em startLine
  if ctx.isCodeBlock st startLine || st.at? pos != some '#' || pos ≥ max then (false, st)
  else
    let stop := skipWhileBefore st.src max (· == '#') pos
    let level := stop - pos
    if level > 6 || (stop < max && !(st.at? stop).any isSpaceOrTab) then (false, st)
    else if silent then (true, st)
    else
      let max := st.skipBackWhile isSpaceOrTab max stop
      let tmp := st.skipBackWhile (· == '#') max stop
      let max := if tmp > stop && (st.at? (tmp - 1)).any isSpaceOrTab then tmp else max
      let st := { st with line := startLine + 1 }
      let lines := some (startLine, startLine + 1)
      let st := st.push { kind := .headingOpen, lines := lines, depth := level }
      let st := st.push { kind := .inline, lines := lines,
                          content := trimBlank (slice st.src stop max) }
      (true, st.push { kind := .headingClose, depth := level })

/-- The kinds of HTML block that end a paragraph, by first line. -/
def htmlBlockRule : BlockRule := fun ctx _ st startLine endLine silent =>
  let pos := st.first startLine
  if ctx.isCodeBlock st startLine || st.at? pos != some '<' then (false, st)
  else
    let lineText := st.src.extract pos (st.em startLine)
    match htmlBlockStart lineText with
    | none => (false, st)
    | some kind =>
      if silent then (kind.interrupts, st)
      else
        let rec scan (next : Nat) (fuel : Nat) : Nat :=
          match fuel with
          | 0 => next
          | fuel + 1 =>
            if next < endLine then
              if st.sc next < st.blkIndent then next
              else
                let t := st.src.extract (st.first next) (st.em next)
                if kind.ends t then (if t.size != 0 then next + 1 else next)
                else scan (next + 1) fuel
            else next
        let next := if kind.ends lineText then startLine + 1 else scan (startLine + 1) endLine
        let st := { st with line := next }
        (true, st.push { kind := .htmlBlock, lines := some (startLine, next),
                         content := st.getLines startLine next st.blkIndent true })

/-! ### Tables -/

/-- Splits a table row at the pipes that are not escaped with a backslash; an escaped pipe
loses its backslash. -/
def splitRow (s : String) : List String :=
  let step (acc : List String × String × Bool) (c : Char) : List String × String × Bool :=
    let (cells, cur, escaped) := acc
    if c == '|' then
      if escaped then (cells, (String.ofList cur.toList.dropLast).push c, false)
      else (cells ++ [cur], "", false)
    else (cells, cur.push c, c == '\\')
  let (cells, cur, _) := s.toList.foldl step ([], "", false)
  cells ++ [cur]

/-- Drops an empty first and an empty last cell. -/
def trimRow (cells : List String) : List String :=
  let cells := match cells with
    | "" :: rest => rest
    | _ => cells
  if cells.getLast? == some "" then cells.dropLast else cells

/-- Reads the alignment row of a table: one alignment per column, or `none` if it is not one.
Empty cells are allowed only first and last. -/
def alignments (row : String) : Option (List String) :=
  let cols := row.splitOn "|"
  let n := cols.length
  let step (acc : Option (List String)) (ci : String × Nat) : Option (List String) := do
    let out ← acc
    let t := trimBlank ci.1
    if t.isEmpty then
      if ci.2 == 0 || ci.2 + 1 == n then some out else none
    else
      let cs := t.toList
      let core := (if cs.head? == some ':' then cs.drop 1 else cs)
      let core := if core.getLast? == some ':' then core.dropLast else core
      if core.isEmpty || !core.all (· == '-') then none
      else if cs.getLast? == some ':' then
        some (out ++ [if cs.head? == some ':' then "center" else "right"])
      else if cs.head? == some ':' then some (out ++ ["left"])
      else some (out ++ [""])
  cols.zipIdx.foldl step (some [])

/-- The most cells that rows of a table may leave out, summed over the rows. -/
def maxAutocompletedCells : Int := 0x10000

/-- The cells of a header or body row as tokens. -/
def rowTokens (openKind closeKind : BlockKind) (aligns : List String) (cells : List String)
    (count : Nat) : List BlockToken :=
  (List.range count).flatMap fun i =>
    let a := aligns.getD i ""
    [{ kind := openKind, align := if a.isEmpty then none else some a },
     { kind := .inline, content := trimBlank (cells.getD i "") },
     { kind := closeKind }]

/-- A table: a header row, an alignment row with as many columns, and body rows up to a blank
line or a block that interrupts it. -/
def tableRule (terminators : List Probe) : BlockRule := fun ctx _ st startLine endLine silent =>
  let nextLine := startLine + 1
  if startLine + 2 > endLine || st.sc nextLine < st.blkIndent || ctx.isCodeBlock st nextLine then
    (false, st)
  else
    let pos := st.first nextLine
    let lineEnd := st.em nextLine
    let isDelimChar (c : Char) := c == '|' || c == '-' || c == ':'
    let firstOk := pos < lineEnd && (st.at? pos).any isDelimChar
    let secondOk := pos + 1 < lineEnd &&
      (st.at? (pos + 1)).any (fun c => isDelimChar c || isSpaceOrTab c) &&
      !(st.at? pos == some '-' && (st.at? (pos + 1)).any isSpaceOrTab)
    let restOk := (st.src.extract (pos + 2) lineEnd).all fun c => isDelimChar c || isSpaceOrTab c
    if !(firstOk && secondOk && restOk) then (false, st)
    else match alignments (st.lineText nextLine) with
    | none => (false, st)
    | some aligns =>
      let header := trimBlank (st.lineText startLine)
      if !header.contains '|' || ctx.isCodeBlock st startLine then (false, st)
      else
        let columns := trimRow (splitRow header)
        let count := columns.length
        if count == 0 || count != aligns.length then (false, st)
        else if silent then (true, st)
        else
          let oldParent := st.parentType
          let st := { st with parentType := .table }
          let tableIdx := st.tokens.size
          let st := st.push { kind := .tableOpen, lines := some (startLine, 0) }
          let st := st.push { kind := .theadOpen, lines := some (startLine, startLine + 1) }
          let st := st.push { kind := .rowOpen, lines := some (startLine, startLine + 1) }
          let st := (rowTokens .headerCellOpen .headerCellClose aligns columns count).foldl
            BlockState.push st
          let st := st.push { kind := .rowClose }
          let st := st.push { kind := .theadClose }
          let rec body (st : BlockState) (next : Nat) (filled : Int) (fuel : Nat) :
              BlockState × Nat :=
            match fuel with
            | 0 => (st, next)
            | fuel + 1 =>
              if next < endLine then
                if st.sc next < st.blkIndent then (st, next)
                else if terminators.any (fun r => r st next endLine) then (st, next)
                else
                  let text := trimBlank (st.lineText next)
                  if text.isEmpty || ctx.isCodeBlock st next then (st, next)
                  else
                    let cells := trimRow (splitRow text)
                    let filled := filled + count - cells.length
                    if filled > maxAutocompletedCells then (st, next)
                    else
                      let st := if next == startLine + 2 then
                          st.push { kind := .tbodyOpen, lines := some (startLine + 2, 0) } else st
                      let st := st.push { kind := .rowOpen, lines := some (next, next + 1) }
                      let st := (rowTokens .cellOpen .cellClose aligns cells count).foldl
                        BlockState.push st
                      body (st.push { kind := .rowClose }) (next + 1) filled fuel
              else (st, next)
          let bodyIdx := st.tokens.size
          let (st, next) := body st (startLine + 2) 0 endLine
          let st := if st.tokens.size > bodyIdx then
              let t := st.tokens[bodyIdx]!
              let t := { t with lines := some (startLine + 2, next) }
              let st := { st with tokens := st.tokens.set! bodyIdx t }
              st.push { kind := .tbodyClose }
            else st
          let st := st.push { kind := .tableClose }
          let t := st.tokens[tableIdx]!
          let st := { st with tokens := st.tokens.set! tableIdx { t with lines := some (startLine, next) } }
          (true, { st with parentType := oldParent, line := next })

/-! ### Containers -/

/-- The marks of one line, saved to be restored after a container has read it. -/
structure SavedMarks where
  bMark : Nat
  tShift : Nat
  sCount : Int
  bsCount : Int

namespace BlockState

/-- The marks of line `i`. -/
def marksOf (st : BlockState) (i : Nat) : SavedMarks :=
  ⟨st.bm i, st.ts i, st.sc i, st.bs i⟩

/-- Restores the marks of the lines from `start` on. -/
def restoreMarks (st : BlockState) (start : Nat) (saved : Array SavedMarks) : BlockState :=
  saved.zipIdx.foldl (fun st (m, k) =>
    { st with bMarks := st.bMarks.set! (start + k) m.bMark,
              tShift := st.tShift.set! (start + k) m.tShift,
              sCount := st.sCount.set! (start + k) m.sCount,
              bsCount := st.bsCount.set! (start + k) m.bsCount }) st

/-- Sets the indent of line `i`. -/
def setSCount (st : BlockState) (i : Nat) (v : Int) : BlockState :=
  { st with sCount := st.sCount.set! i v }

end BlockState

/-- The outcome of marking the lines of a block quote: the state, the line after the quote,
and the saved marks. -/
structure QuoteScan where
  st : BlockState
  next : Nat
  saved : Array SavedMarks

/-- Marks the lines of a block quote from `next` on: a line starting with `>` is narrowed to the
text after the marker and one optional space; a lazy line after a non-blank one continues the
paragraph inside (its indent is set to -1); a blank line or an interrupting block ends the
quote. -/
def quoteLines (terminators : List Probe) (endLine : Nat) :
    BlockState → Nat → Bool → Array SavedMarks → Nat → QuoteScan
  | st, next, _, saved, 0 => ⟨st, next, saved⟩
  | st, next, lastLineEmpty, saved, fuel + 1 =>
    if next ≥ endLine then ⟨st, next, saved⟩
    else
      let isOutdented := st.sc next < st.blkIndent
      let pos := st.first next
      let max := st.em next
      if pos ≥ max then ⟨st, next, saved⟩
      else if st.at? pos == some '>' && !isOutdented then
        let pos := pos + 1
        let initial : Int := st.sc next + 1
        let (pos, initial, offset, adjustTab, spaceAfter) :=
          match st.at? pos with
          | some ' ' => (pos + 1, initial + 1, initial + 1, false, true)
          | some '\t' =>
            if (st.bs next + initial) % 4 == 3 then (pos + 1, initial + 1, initial + 1, false, true)
            else (pos, initial, initial, true, true)
          | _ => (pos, initial, initial, false, false)
        let saved := saved.push (st.marksOf next)
        let newBMark := pos
        let rec spaces (pos : Nat) (offset : Int) (fuel : Nat) : Nat × Int :=
          match fuel with
          | 0 => (pos, offset)
          | fuel + 1 =>
            if pos < max then
              match st.at? pos with
              | some '\t' =>
                spaces (pos + 1)
                  (offset + 4 - (offset + st.bs next + (if adjustTab then 1 else 0)) % 4) fuel
              | some ' ' => spaces (pos + 1) (offset + 1) fuel
              | _ => (pos, offset)
            else (pos, offset)
        let (pos, offset) := spaces pos offset (max - pos)
        let lastLineEmpty := pos ≥ max
        let st := { st with
          bMarks := st.bMarks.set! next newBMark,
          bsCount := st.bsCount.set! next (st.sc next + 1 + (if spaceAfter then 1 else 0)),
          sCount := st.sCount.set! next (offset - initial),
          tShift := st.tShift.set! next (pos - newBMark) }
        quoteLines terminators endLine st (next + 1) lastLineEmpty saved fuel
      else if lastLineEmpty then ⟨st, next, saved⟩
      else if terminators.any (fun r => r st next endLine) then
        let st := { st with lineMax := next }
        if st.blkIndent != 0 then
          let saved := saved.push (st.marksOf next)
          ⟨st.setSCount next (st.sc next - (st.blkIndent : Int)), next, saved⟩
        else ⟨st, next, saved⟩
      else
        let saved := saved.push (st.marksOf next)
        quoteLines terminators endLine (st.setSCount next (-1)) (next + 1) false saved fuel

/-- A block quote: lines starting with `>`, and lazy continuation lines, read again one level
deeper with the markers taken away. -/
def blockquoteRule (terminators : List Probe) : BlockRule := fun ctx ops st startLine endLine silent =>
  let pos := st.first startLine
  if ctx.isCodeBlock st startLine || st.at? pos != some '>' then (false, st)
  else if silent then (true, st)
  else
    let oldLineMax := st.lineMax
    let oldParent := st.parentType
    let scan := quoteLines terminators endLine { st with parentType := .blockquote } startLine false
      #[] (endLine - startLine + 1)
    let st := scan.st
    let oldIndent := st.blkIndent
    let st := { st with blkIndent := 0 }
    let openIdx := st.tokens.size
    let st := st.push { kind := .blockquoteOpen, lines := some (startLine, 0) }
    let st := ops.tokenize st startLine scan.next
    let st := st.push { kind := .blockquoteClose }
    let t := st.tokens[openIdx]!
    let st := { st with tokens := st.tokens.set! openIdx { t with lines := some (startLine, st.line) },
                        lineMax := oldLineMax, parentType := oldParent }
    let st := st.restoreMarks startLine scan.saved
    (true, { st with blkIndent := oldIndent })

/-- The position after a bullet list marker on line `i` (`*`, `-` or `+`, then a space, a tab
or the end of the line). -/
def bulletMarkerEnd (st : BlockState) (i : Nat) : Option Nat :=
  let pos := st.first i
  match st.at? pos with
  | some m =>
    if !(m == '*' || m == '-' || m == '+') then none
    else if pos + 1 < st.em i && !(st.at? (pos + 1)).any isSpaceOrTab then none
    else some (pos + 1)
  | none => none

/-- The position after an ordered list marker on line `i` (one to nine digits, then `.` or
`)`, then a space, a tab or the end of the line). -/
def orderedMarkerEnd (st : BlockState) (i : Nat) : Option Nat :=
  let start := st.first i
  let max := st.em i
  if start + 1 ≥ max then none
  else if !(st.at? start).any isAsciiDigit then none
  else
    let d := skipWhileBefore st.src max isAsciiDigit (start + 1)
    if d - start ≥ 10 || d ≥ max then none
    else if !(st.at? d == some '.' || st.at? d == some ')') then none
    else if d + 1 < max && !(st.at? (d + 1)).any isSpaceOrTab then none
    else some (d + 1)

/-- Marks the paragraphs directly inside the items of a tight list, from token `idx` on, as
hidden. -/
def markTightParagraphs (st : BlockState) (idx : Nat) : BlockState :=
  let level := st.level + 2
  let n := st.tokens.size
  let rec go (toks : Array BlockToken) (i : Nat) (fuel : Nat) : Array BlockToken :=
    match fuel with
    | 0 => toks
    | fuel + 1 =>
      if i + 2 < n then
        let t := toks[i]!
        if t.level == level && t.kind == .paragraphOpen then
          let toks := toks.set! i { t with hidden := true }
          let c := toks[i + 2]!
          go (toks.set! (i + 2) { c with hidden := true }) (i + 3) fuel
        else go toks (i + 1) fuel
      else toks
  { st with tokens := go st.tokens (idx + 2) n }

/-- The facts about the first marker of a list. -/
structure ListStart where
  ordered : Bool
  posAfterMarker : Nat
  markerValue : Nat
  markerChar : Char

/-- Reads the marker of the first item of a list at `startLine`; in silent mode after a
paragraph only lists that start at 1 and have content on their first line may interrupt it. -/
def listStart? (ctx : BlockContext) (st : BlockState) (startLine : Nat) (silent : Bool) :
    Option ListStart :=
  if ctx.isCodeBlock st startLine then none
  else if st.listIndent ≥ 0 && st.sc startLine - st.listIndent ≥ 4 &&
      st.sc startLine < st.blkIndent then none
  else
    let terminating := silent && st.parentType == .paragraph && st.sc startLine ≥ st.blkIndent
    let found : Option (Bool × Nat × Nat) :=
      match orderedMarkerEnd st startLine with
      | some p =>
        let v := numeralValue 10 (slice st.src (st.first startLine) (p - 1)).toList
        if terminating && v != 1 then none else some (true, p, v)
      | none =>
        match bulletMarkerEnd st startLine with
        | some p => some (false, p, 0)
        | none => none
    match found with
    | none => none
    | some (ordered, p, v) =>
      if terminating && st.skipSpaces p ≥ st.em startLine then none
      else some ⟨ordered, p, v, (st.at? (p - 1)).getD ' '⟩

/-- A list: items with the same kind of marker, each read one level deeper with the indent of
its content. -/
def listRule (terminators : List Probe) : BlockRule := fun ctx ops st startLine endLine silent =>
  match listStart? ctx st startLine silent with
  | none => (false, st)
  | some ls =>
    if silent then (true, st)
    else
      let listIdx := st.tokens.size
      let st := st.push (if ls.ordered then
          { kind := .orderedListOpen, lines := some (startLine, 0),
            start := if ls.markerValue != 1 then some ls.markerValue else none }
        else { kind := .bulletListOpen, lines := some (startLine, 0) })
      let oldParent := st.parentType
      let st := { st with parentType := .list }
      let rec items (st : BlockState) (startLine posAfterMarker : Nat) (tight prevEmptyEnd : Bool)
          (fuel : Nat) : BlockState × Nat × Bool :=
        match fuel with
        | 0 => (st, startLine, tight)
        | fuel + 1 =>
          let next := startLine
          let max := st.em next
          let initial : Int := st.sc next + posAfterMarker - st.first startLine
          let rec spaces (pos : Nat) (offset : Int) (fuel : Nat) : Nat × Int :=
            match fuel with
            | 0 => (pos, offset)
            | fuel + 1 =>
              if pos < max then
                match st.at? pos with
                | some '\t' => spaces (pos + 1) (offset + 4 - (offset + st.bs next) % 4) fuel
                | some ' ' => spaces (pos + 1) (offset + 1) fuel
                | _ => (pos, offset)
              else (pos, offset)
          let (contentStart, offset) := spaces posAfterMarker initial (max - posAfterMarker)
          let indentAfterMarker : Int := if contentStart ≥ max then 1 else offset - initial
          let indentAfterMarker := if indentAfterMarker > 4 then 1 else indentAfterMarker
          let indent := initial + indentAfterMarker
          let itemIdx := st.tokens.size
          let st := st.push { kind := .listItemOpen, lines := some (startLine, 0) }
          let oldTight := st.tight
          let oldTShift := st.ts startLine
          let oldSCount := st.sc startLine
          let oldListIndent := st.listIndent
          let st := { st with listIndent := st.blkIndent, blkIndent := indent.toNat, tight := true,
                              tShift := st.tShift.set! startLine (contentStart - st.bm startLine),
                              sCount := st.sCount.set! startLine offset }
          let st :=
            if contentStart ≥ max && st.isEmptyLine (startLine + 1) then
              { st with line := Nat.min (st.line + 2) endLine }
            else ops.tokenize st startLine endLine
          let tight := tight && st.tight && !prevEmptyEnd
          let prevEmptyEnd := st.line - startLine > 1 && st.isEmptyLine (st.line - 1)
          let st := { st with blkIndent := st.listIndent.toNat, listIndent := oldListIndent,
                              tShift := st.tShift.set! startLine oldTShift,
                              sCount := st.sCount.set! startLine oldSCount, tight := oldTight }
          let st := st.push { kind := .listItemClose }
          let next := st.line
          let t := st.tokens[itemIdx]!
          let st := { st with tokens := st.tokens.set! itemIdx { t with lines := some (startLine, next) } }
          if next ≥ endLine then (st, next, tight)
          else if st.sc next < st.blkIndent then (st, next, tight)
          else if ctx.isCodeBlock st next then (st, next, tight)
          else if terminators.any (fun r => r st next endLine) then (st, next, tight)
          else
            let m := if ls.ordered then orderedMarkerEnd st next else bulletMarkerEnd st next
            match m with
            | none => (st, next, tight)
            | some p =>
              if st.at? (p - 1) != some ls.markerChar then (st, next, tight)
              else items st next p tight prevEmptyEnd fuel
      let (st, next, tight) := items st startLine ls.posAfterMarker true false (endLine - startLine + 1)
      let st := st.push { kind := if ls.ordered then .orderedListClose else .bulletListClose }
      let t := st.tokens[listIdx]!
      let st := { st with tokens := st.tokens.set! listIdx { t with lines := some (startLine, next) },
                          line := next, parentType := oldParent }
      (true, if tight then markTightParagraphs st listIdx else st)

/-! ### Paragraph-like blocks -/

/-- The line after a paragraph starting at `startLine`: the first blank line, or the first line
that an interrupting block starts. Lines indented as code, and lines marked lazy by a block quote,
continue the paragraph. -/
def paragraphEnd (terminators : List Probe) (st : BlockState) (startLine endLine : Nat) : Nat :=
  go (startLine + 1) (endLine - startLine)
where
  go (next : Nat) : Nat → Nat
    | 0 => next
    | fuel + 1 =>
      if next < endLine then
        if st.isEmptyLine next then next
        else if st.sc next - (st.blkIndent : Int) > 3 then go (next + 1) fuel
        else if st.sc next < 0 then go (next + 1) fuel
        else if terminators.any (fun r => r st next endLine) then next
        else go (next + 1) fuel
      else next

/-- A setext heading: paragraph lines followed by a line of `=` (level 1) or `-` (level 2). When
there is no such line the rule fails, leaving the container marked as a paragraph. -/
def lheadingRule (terminators : List Probe) : BlockRule := fun ctx _ st startLine endLine _ =>
  if ctx.isCodeBlock st startLine then (false, st)
  else
    let oldParent := st.parentType
    let st := { st with parentType := .paragraph }
    let underline (next : Nat) : Option (Nat × Char) :=
      if st.sc next ≥ st.blkIndent then
        let pos := st.first next
        let max := st.em next
        if pos < max then
          match st.at? pos with
          | some m =>
            if m == '-' || m == '=' then
              let p := st.skipSpaces (st.skipChars pos m)
              if p ≥ max then some (if m == '=' then 1 else 2, m) else none
            else none
          | none => none
        else none
      else none
    let rec scan (next : Nat) (fuel : Nat) : Option (Nat × Nat) :=
      match fuel with
      | 0 => none
      | fuel + 1 =>
        if next < endLine && !st.isEmptyLine next then
          if st.sc next - (st.blkIndent : Int) > 3 then scan (next + 1) fuel
          else match underline next with
            | some (level, _) => some (next, level)
            | none =>
              if st.sc next < 0 then scan (next + 1) fuel
              else if terminators.any (fun r => r st next endLine) then none
              else scan (next + 1) fuel
        else none
    match scan (startLine + 1) (endLine - startLine) with
    | none => (false, st)
    | some (next, level) =>
      let content := trimBlank (st.getLines startLine next st.blkIndent false)
      let st := { st with line := next + 1 }
      let st := st.push { kind := .headingOpen, lines := some (startLine, next + 1), depth := level }
      let st := st.push { kind := .inline, lines := some (startLine, next), content := content }
      let st := st.push { kind := .headingClose, depth := level }
      (true, { st with parentType := oldParent })

/-- A paragraph: lines up to a blank line or an interrupting block, with the limit of the
whole document rather than of the container. -/
def paragraphRule (terminators : List Probe) : BlockRule := fun _ _ st startLine _ _ =>
  let oldParent := st.parentType
  let st := { st with parentType := .paragraph }
  let next := paragraphEnd terminators st startLine st.lineMax
  let content := trimBlank (st.getLines startLine next st.blkIndent false)
  let st := { st with line := next }
  let lines := some (startLine, next)
  let st := st.push { kind := .paragraphOpen, lines := lines }
  let st := st.push { kind := .inline, lines := lines, content := content }
  let st := st.push { kind := .paragraphClose }
  (true, { st with parentType := oldParent })

/-! ### Reference definitions -/

/-- The text of line `i` from its first non-blank character, with its line break, if it may
continue a reference definition: it is not blank and no interrupting block starts there. -/
def referenceLine? (terminators : List Probe) (st : BlockState) (i : Nat) : Option (List Char) :=
  if i ≥ st.lineMax || st.isEmptyLine i then none
  else
    let continues := st.sc i - (st.blkIndent : Int) > 3 || st.sc i < 0
    let interrupted := !continues &&
      terminators.any (fun r => r { st with parentType := .reference } i st.lineMax)
    if interrupted then none
    else some (st.src.extract (st.first i) (st.em i + 1)).toList

/-- The text of a reference definition read so far, and the next line that may extend it. -/
structure RefText where
  chars : Array Char
  nextLine : Nat

/-- Appends the next line to the text of a reference definition, if it may continue it. -/
def RefText.extend (terminators : List Probe) (st : BlockState) (r : RefText) : RefText :=
  match referenceLine? terminators st r.nextLine with
  | some cs => ⟨r.chars ++ cs.toArray, r.nextLine + 1⟩
  | none => r

/-- A reference definition: `[label]:`, a destination, an optional title, and nothing else on
the line; it may run over several lines. The first definition of a label wins. -/
def referenceRule (terminators : List Probe) : BlockRule := fun ctx _ st startLine _ silent =>
  let pos := st.first startLine
  if ctx.isCodeBlock st startLine || st.at? pos != some '[' then (false, st)
  else
    let r0 : RefText := ⟨st.src.extract pos (st.em startLine + 1), startLine + 1⟩
    -- the label, extending the text at line breaks
    let rec label (r : RefText) (p : Nat) (fuel : Nat) : Option (RefText × Nat) :=
      match fuel with
      | 0 => none
      | fuel + 1 =>
        if p < r.chars.size then
          match r.chars[p]? with
          | some '[' => none
          | some ']' => some (r, p)
          | some '\n' => label (r.extend terminators st) (p + 1) fuel
          | some '\\' =>
            let p := p + 1
            if p < r.chars.size && r.chars[p]? == some '\n' then
              label (r.extend terminators st) (p + 1) fuel
            else label r (p + 1) fuel
          | _ => label r (p + 1) fuel
        else none
    let rec blanks (r : RefText) (p : Nat) (fuel : Nat) : RefText × Nat :=
      match fuel with
      | 0 => (r, p)
      | fuel + 1 =>
        if p < r.chars.size then
          match r.chars[p]? with
          | some '\n' => blanks (r.extend terminators st) (p + 1) fuel
          | some c => if isSpaceOrTab c then blanks r (p + 1) fuel else (r, p)
          | none => (r, p)
        else (r, p)
    let budget := st.src.size + 2
    match label r0 1 budget with
    | none => (false, st)
    | some (r, labelEnd) =>
      if r.chars[labelEnd + 1]? != some ':' then (false, st)
      else
        let (r, p) := blanks r (labelEnd + 2) budget
        match scanDestination r.chars p r.chars.size with
        | none => (false, st)
        | some (dest, destEnd) =>
          let href := Url.normalize dest
          if !Url.isSafe href then (false, st)
          else
            let destEndLine := r.nextLine
            let (r, p) := blanks r destEnd budget
            let start := destEnd
            let rec title (r : RefText) (p : Nat) (t : TitleScan) (fuel : Nat) : RefText × Nat × TitleScan :=
              match fuel with
              | 0 => (r, p, t)
              | fuel + 1 =>
                if t.resumable then
                  let r' := r.extend terminators st
                  if r'.nextLine == r.nextLine then (r, p, t)
                  else title r' r.chars.size (scanTitle r'.chars r.chars.size r'.chars.size (some t)) fuel
                else (r, p, t)
            let (r, p, t) := title r p (scanTitle r.chars p r.chars.size none) budget
            let max := r.chars.size
            let (titleText, p, nextLine) :=
              if p < max && start != p && t.closed then (t.text, t.pos, r.nextLine)
              else ("", destEnd, destEndLine)
            let skipBlank (p : Nat) : Nat := skipWhileBefore r.chars max isSpaceOrTab p
            let p := skipBlank p
            let (titleText, p, nextLine) :=
              if p < max && r.chars[p]? != some '\n' && !titleText.isEmpty then
                ("", skipBlank destEnd, destEndLine)
              else (titleText, p, nextLine)
            if p < max && r.chars[p]? != some '\n' then (false, st)
            else
              let lbl := normalizeLabel (slice r.chars 1 labelEnd)
              if lbl.isEmpty then (false, st)
              else if silent then (true, st)
              else
                let refs := st.references.getD {}
                let refs := if refs.contains lbl then refs
                  else refs.insert lbl { href := href, title := titleText }
                (true, { st with references := some refs, line := nextLine })

/-! ### Reading the lines -/

/-- The silent check of a rule, where the rule can interrupt something. -/
def probeOf (ctx : BlockContext) : Rule → Option Probe
  | .table => some fun st l e => (tableRule [] ctx .idle st l e true).1
  | .fence => some fun st l e => (fenceRule ctx .idle st l e true).1
  | .blockquote => some fun st l e => (blockquoteRule [] ctx .idle st l e true).1
  | .hr => some fun st l e => (hrRule ctx .idle st l e true).1
  | .list => some fun st l e => (listRule [] ctx .idle st l e true).1
  | .htmlBlock => some fun st l e => (htmlBlockRule ctx .idle st l e true).1
  | .heading => some fun st l e => (headingRule ctx .idle st l e true).1
  | _ => none

/-- The switched-on rules among `rs` that can interrupt, as silent checks, in order. -/
def chainOf (ctx : BlockContext) (rs : List Rule) : List Probe :=
  rs.filterMap fun r => if ctx.dialect.has r then probeOf ctx r else none

/-- The rules that may interrupt a paragraph or a reference definition. -/
def paragraphChain (ctx : BlockContext) : List Probe :=
  chainOf ctx [.table, .fence, .blockquote, .hr, .list, .htmlBlock, .heading]

/-- The rules that may interrupt a block quote or a table. -/
def blockquoteChain (ctx : BlockContext) : List Probe :=
  chainOf ctx [.fence, .blockquote, .hr, .list, .htmlBlock, .heading]

/-- The rules that may interrupt a list. -/
def listChain (ctx : BlockContext) : List Probe :=
  chainOf ctx [.fence, .blockquote, .hr]

/-- The switched-on block rules in order. -/
def blockRules (ctx : BlockContext) : List BlockRule :=
  [(.table, tableRule (blockquoteChain ctx)), (.code, codeRule), (.fence, fenceRule),
   (.blockquote, blockquoteRule (blockquoteChain ctx)), (.hr, hrRule),
   (.list, listRule (listChain ctx)), (.reference, referenceRule (paragraphChain ctx)),
   (.htmlBlock, htmlBlockRule), (.heading, headingRule),
   (.lheading, lheadingRule (paragraphChain ctx)), (.paragraph, paragraphRule (paragraphChain ctx))]
  |>.filterMap fun (r, f) => if ctx.dialect.has r then some f else none

/-- Tries the rules in order at a line; the first that matches wins. -/
def firstRule (ctx : BlockContext) (ops : BlockOps) (st : BlockState) (line endLine : Nat) :
    List BlockRule → Bool × BlockState
  | [] => (false, st)
  | r :: rest =>
    match r ctx ops st line endLine false with
    | (true, st) => (true, st)
    | (false, st) => firstRule ctx ops st line endLine rest

/-- Reads the lines from `startLine` up to `endLine` into tokens. A line indented less than
the container requires ends the reading; at the nesting limit the rest is skipped. -/
def readBlocksWith (ctx : BlockContext) (ops : BlockOps) (st : BlockState) (startLine endLine : Nat) :
    BlockState :=
  go st startLine false (endLine - startLine + 1)
where
  go (st : BlockState) (line : Nat) (hasEmptyLines : Bool) : Nat → BlockState
    | 0 => st
    | fuel + 1 =>
      if line < endLine then
        let line := st.skipEmptyLines line
        let st := { st with line := line }
        if line ≥ endLine then st
        else if st.sc line < st.blkIndent then st
        else if st.level ≥ ctx.dialect.maxNesting then { st with line := endLine }
        else
          match firstRule ctx ops st line endLine (blockRules ctx) with
          | (false, st) => st
          | (true, st) =>
            if st.line ≤ line then st
            else
              let st := { st with tight := !hasEmptyLines }
              let line := st.line
              let hasEmptyLines := hasEmptyLines || (line - 1 < endLine && st.isEmptyLine (line - 1))
              if line < endLine && st.isEmptyLine line then
                go { st with line := line + 1 } (line + 1) true fuel
              else go st line hasEmptyLines fuel
      else st

/-- The entry point at a given depth; at depth zero nothing is read. -/
def BlockOps.atDepth (ctx : BlockContext) : Nat → BlockOps
  | 0 => .idle
  | n + 1 => ⟨readBlocksWith ctx (BlockOps.atDepth ctx n)⟩

/-- Reads a normalized source into block tokens, with the reference definitions found. -/
def parseBlocks (ctx : BlockContext) (src : Array Char) : BlockState :=
  if src.isEmpty then BlockState.init src
  else
    let st := BlockState.init src
    (BlockOps.atDepth ctx (ctx.dialect.maxNesting + 3)).tokenize st 0 st.lineMax

end Manuscript.Markdown
