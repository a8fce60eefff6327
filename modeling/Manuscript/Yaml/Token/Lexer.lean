import Manuscript.Yaml.Token.Scalar

/-!
# The token stream of YAML text

`Lexer` hands out the tokens of a text one at a time, reading ahead only as far as it must.
Besides the tokens that characters stand for, it makes the tokens that indentation implies:

* a block sequence or mapping starts where an entry or key is more indented than the block
  around it, and every block deeper than a new line's column ends there;
* a *simple key*, a scalar or flow collection followed on the same line by `: `, is only known
  to be a key when the `:` arrives. The lexer keeps one candidate per flow level, with the
  number of the token it would precede, and places the key token (and the start of a block
  mapping) there once the `:` is read. A candidate that must be a key, because it starts a
  line at the block's indentation, is a problem when its line ends without a `:`.

No token is handed out while a candidate key could still come before it.
-/

namespace Manuscript.Yaml

/-- A candidate simple key: the number of the token it would precede, whether it must be a
key, and where it starts. -/
structure SimpleKey where
  tokenNumber : Nat
  required : Bool
  mark : Mark
  deriving Inhabited, Repr

/-- The state of the token stream. -/
structure Lexer where
  cursor : Cursor
  /-- Whether the stream end has been read. -/
  done : Bool
  /-- The depth of flow collections; a closing bracket without an opening one makes it
  negative. -/
  flowLevel : Int
  /-- Tokens read and not yet handed out. -/
  queue : List Token
  /-- The number of tokens handed out. -/
  taken : Nat
  /-- The indentation of the current block; `-1` outside all blocks. -/
  indent : Int
  /-- The indentations of the enclosing blocks, innermost first. -/
  indents : List Int
  /-- Whether a simple key may start here. -/
  allowSimpleKey : Bool
  /-- The candidate simple keys by flow level, oldest first. -/
  simpleKeys : List (Int × SimpleKey)
  deriving Inhabited

/-- Lexing: the token stream, which may stop at a problem. -/
abbrev Lex := StateT Lexer (Except LoadError)

namespace Lexer

/-- The stream of a text, with the stream start read. -/
def ofText (text : String) : Lexer :=
  let c := Cursor.ofText text
  { cursor := c, done := false, flowLevel := 0, queue := [⟨.streamStart, c.mark, c.mark⟩],
    taken := 0, indent := -1, indents := [], allowSimpleKey := true, simpleKeys := [] }

/-- Runs a scan at the cursor. -/
def scan {α : Type} (m : Scan α) : Lex α := fun s => do
  let (a, c) ← m.run s.cursor
  return (a, { s with cursor := c })

/-- The cursor. -/
def current : Lex Cursor := return (← get).cursor

/-- The mark of the cursor. -/
def here : Lex Mark := return (← get).cursor.mark

/-- Appends a token. -/
def push (t : Token) : Lex Unit := modify fun s => { s with queue := s.queue ++ [t] }

/-- Inserts a token at a place of the queue. -/
def insertAt (i : Nat) (t : Token) : Lex Unit :=
  modify fun s => { s with queue := s.queue.take i ++ t :: s.queue.drop i }

/-- The problem of a required candidate key whose `:` never came. -/
def missingColon {α : Type} (key : SimpleKey) : Lex α := do
  throw (.marked (.within "while scanning a simple key" key.mark "could not find expected ':'"
    (← here)))

/-- Drops the candidate keys that can no longer be keys: those of an earlier line, and those
more than 1024 characters back. -/
def staleSimpleKeys : Lex Unit := do
  let s ← get
  let c := s.cursor
  let stale (k : SimpleKey) : Bool := k.mark.line != c.line || c.pointer - k.mark.index > 1024
  match s.simpleKeys.find? (fun (_, k) => stale k && k.required) with
  | some (_, k) => missingColon k
  | none => set { s with simpleKeys := s.simpleKeys.filter fun (_, k) => !stale k }

/-- The smallest token number of the candidate keys. -/
def nextSimpleKey (s : Lexer) : Option Nat :=
  s.simpleKeys.foldl (fun acc (_, k) =>
    match acc with
    | some n => some (min n k.tokenNumber)
    | none => some k.tokenNumber) none

/-- Drops the candidate key of the current flow level. -/
def removeSimpleKey : Lex Unit := do
  let s ← get
  match s.simpleKeys.lookup s.flowLevel with
  | some k =>
    if k.required then missingColon k
    set { s with simpleKeys := s.simpleKeys.filter (·.1 != s.flowLevel) }
  | none => pure ()

/-- Records a candidate key at the cursor, when a simple key may start here. -/
def saveSimpleKey : Lex Unit := do
  let s ← get
  if s.allowSimpleKey then
    removeSimpleKey
    let s ← get
    let required := s.flowLevel == 0 && s.indent == (s.cursor.column : Int)
    let key : SimpleKey := ⟨s.taken + s.queue.length, required, s.cursor.mark⟩
    set { s with simpleKeys := s.simpleKeys ++ [(s.flowLevel, key)] }

/-- Ends every block indented deeper than `column`, outside flow collections. -/
def unwindIndent (column : Int) : Lex Unit := do
  if (← get).flowLevel != 0 then return
  let rec go : List Int → Lex Unit
    | [] => pure ()
    | outer :: rest => do
      let s ← get
      if s.indent > column then
        let m := s.cursor.mark
        let t : Token := ⟨.blockEnd, m, m⟩
        set { s with indent := outer, indents := rest, queue := s.queue ++ [t] }
        go rest
  go (← get).indents

/-- Opens a block at `column` when it is deeper than the current one. -/
def addIndent (column : Int) : Lex Bool := do
  let s ← get
  if s.indent < column then
    set { s with indents := s.indent :: s.indents, indent := column }
    return true
  return false

/-- Sets whether a simple key may start here. -/
def allowKey (b : Bool) : Lex Unit := modify fun s => { s with allowSimpleKey := b }

/-- Reads a one-character token. -/
def single (kind : Token.Kind) : Lex Unit := do
  let start ← here
  scan (Scan.forward 1)
  push ⟨kind, start, ← here⟩

/-- Steps over blanks, comments and line breaks up to the next token; a line break outside
flow collections allows a simple key. -/
def skipToToken : Lex Unit := do
  let c ← current
  if c.pointer == 0 && c.peek == '\uFEFF' then scan (Scan.forward 1)
  let rec go : Nat → Lex Unit
    | 0 => pure ()
    | fuel + 1 => do
      scan Scan.skipSpaces
      if (← current).peek == '#' then modify fun s => { s with cursor := s.cursor.skipToBreak }
      let b ← scan Scan.lineBreak
      if !b.isEmpty then
        if (← get).flowLevel == 0 then allowKey true
        go fuel
  go ((← current).left + 1)

/-- Reads the stream end. -/
def streamEnd : Lex Unit := do
  unwindIndent (-1)
  removeSimpleKey
  modify fun s => { s with allowSimpleKey := false, simpleKeys := [] }
  let m ← here
  push ⟨.streamEnd, m, m⟩
  modify fun s => { s with done := true }

/-- Reads a document marker `---` or `...`. -/
def documentMarker (kind : Token.Kind) : Lex Unit := do
  unwindIndent (-1)
  removeSimpleKey
  allowKey false
  let start ← here
  scan (Scan.forward 3)
  push ⟨kind, start, ← here⟩

/-- Reads `[` or `\x7b`. -/
def flowStart (kind : Token.Kind) : Lex Unit := do
  saveSimpleKey
  modify fun s => { s with flowLevel := s.flowLevel + 1 }
  allowKey true
  single kind

/-- Reads `]` or `\x7d`. -/
def flowEnd (kind : Token.Kind) : Lex Unit := do
  removeSimpleKey
  modify fun s => { s with flowLevel := s.flowLevel - 1 }
  allowKey false
  single kind

/-- Reads `,`. -/
def flowEntry : Lex Unit := do
  allowKey true
  removeSimpleKey
  single .flowEntry

/-- Reads a block entry `-`. -/
def blockEntry : Lex Unit := do
  let s ← get
  if s.flowLevel == 0 then
    if !s.allowSimpleKey then
      throw (.marked (.plain "sequence entries are not allowed here" s.cursor.mark))
    if ← addIndent s.cursor.column then
      let m ← here
      push ⟨.blockSequenceStart, m, m⟩
  allowKey true
  removeSimpleKey
  single .blockEntry

/-- Reads an explicit key `?`. -/
def explicitKey : Lex Unit := do
  let s ← get
  if s.flowLevel == 0 then
    if !s.allowSimpleKey then
      throw (.marked (.plain "mapping keys are not allowed here" s.cursor.mark))
    if ← addIndent s.cursor.column then
      let m ← here
      push ⟨.blockMappingStart, m, m⟩
  allowKey (s.flowLevel == 0)
  removeSimpleKey
  single .key

/-- Reads a value indicator `:`, turning the candidate key of its level into a key. -/
def valueIndicator : Lex Unit := do
  let s ← get
  match s.simpleKeys.lookup s.flowLevel with
  | some key =>
    set { s with simpleKeys := s.simpleKeys.filter (·.1 != s.flowLevel) }
    insertAt (key.tokenNumber - s.taken) ⟨.key, key.mark, key.mark⟩
    if s.flowLevel == 0 then
      if ← addIndent key.mark.column then
        insertAt (key.tokenNumber - s.taken) ⟨.blockMappingStart, key.mark, key.mark⟩
    allowKey false
  | none =>
    if s.flowLevel == 0 then
      if !s.allowSimpleKey then
        throw (.marked (.plain "mapping values are not allowed here" s.cursor.mark))
      if ← addIndent s.cursor.column then
        let m ← here
        push ⟨.blockMappingStart, m, m⟩
    allowKey (s.flowLevel == 0)
    removeSimpleKey
  single .value

/-- Reads a token that may start a simple key and allows none after it. -/
def keyable (m : Scan Token) : Lex Unit := do
  saveSimpleKey
  allowKey false
  push (← scan m)

/-- Reads a block scalar. -/
def blockScalar (folded : Bool) : Lex Unit := do
  allowKey true
  removeSimpleKey
  let indent := (← get).indent
  push (← scan (Yaml.blockScalar folded indent))

/-- Reads a plain scalar. -/
def plain : Lex Unit := do
  saveSimpleKey
  let s ← get
  let (t, allow) ← scan (plainScalar s.indent (s.flowLevel != 0) false)
  allowKey allow
  push t

/-- Whether a plain scalar starts at the cursor. -/
def startsPlain (c : Cursor) (inFlow : Bool) : Bool :=
  let ch := c.peek
  !(isBlankOrEnd ch || "-?:,[]\x7b\x7d#&*!|>'\"%@\x60".toList.contains ch) ||
    (!isBlankOrEnd (c.peekAt 1) && (ch == '-' || (!inFlow && (ch == '?' || ch == ':'))))

/-- Reads the next token, or the tokens that indentation implies before it. -/
def fetch : Lex Unit := do
  skipToToken
  staleSimpleKeys
  unwindIndent (← current).column
  let s ← get
  let c := s.cursor
  let ch := c.peek
  let inFlow := s.flowLevel != 0
  let blankAfter := isBlankOrEnd (c.peekAt 1)
  if ch == '\x00' then streamEnd
  else if ch == '%' && c.column == 0 then
    unwindIndent (-1)
    removeSimpleKey
    allowKey false
    push (← scan directive)
  else if ch == '-' && c.column == 0 && c.atMarker "---" then documentMarker .documentStart
  else if ch == '.' && c.column == 0 && c.atMarker "..." then documentMarker .documentEnd
  else if ch == '[' then flowStart .flowSequenceStart
  else if ch == '\x7b' then flowStart .flowMappingStart
  else if ch == ']' then flowEnd .flowSequenceEnd
  else if ch == '\x7d' then flowEnd .flowMappingEnd
  else if ch == ',' then flowEntry
  else if ch == '-' && blankAfter then blockEntry
  else if ch == '?' && (inFlow || blankAfter) then explicitKey
  else if ch == ':' && (inFlow || blankAfter) then valueIndicator
  else if ch == '*' || ch == '&' then keyable anchorOrAlias
  else if ch == '!' then keyable tag
  else if ch == '|' && !inFlow then blockScalar false
  else if ch == '>' && !inFlow then blockScalar true
  else if ch == '\'' then keyable (flowScalar false)
  else if ch == '"' then keyable (flowScalar true)
  else if startsPlain c inFlow then plain
  else
    throw (.marked ⟨some "while scanning for the next token", none,
      "found character " ++ charText ch ++ " that cannot start any token", c.mark⟩)

/-- Whether more tokens must be read before one is handed out: none is waiting, or a candidate
key could come before the first that waits. -/
def needsMore : Lex Bool := do
  let s ← get
  if s.done then return false
  if s.queue.isEmpty then return true
  staleSimpleKeys
  return nextSimpleKey (← get) == some s.taken

/-- Reads tokens until one may be handed out. -/
def fill : Lex Unit := do
  let rec go : Nat → Lex Unit
    | 0 => pure ()
    | fuel + 1 => do
      if ← needsMore then
        fetch
        go fuel
  go (2 * (← current).left + 8)

/-- The next token, without handing it out. -/
def peekToken : Lex Token := do
  fill
  let s ← get
  match s.queue with
  | t :: _ => return t
  | [] => return ⟨.streamEnd, s.cursor.mark, s.cursor.mark⟩

/-- Hands out the next token. -/
def nextToken : Lex Token := do
  fill
  let s ← get
  match s.queue with
  | t :: rest =>
    set { s with queue := rest, taken := s.taken + 1 }
    return t
  | [] => return ⟨.streamEnd, s.cursor.mark, s.cursor.mark⟩

/-- Whether the next token is of one of the given classes. -/
def nextIs (classes : List TokenClass) : Lex Bool := do
  return classes.contains (← peekToken).kind.tokenClass

end Lexer

end Manuscript.Yaml
