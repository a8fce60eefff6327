import Manuscript.Markdown.Token
import Manuscript.Markdown.Block
import Manuscript.Markdown.Inline
import Manuscript.Markdown.Delimiter

/-!
# Markdown trees

The token streams of the reader nest: every opening token is matched by the closing token of the
same depth. `InlineNode.ofTokens` and `BlockNode.ofTokens` fold the streams into trees, and
`Markdown.read` runs the whole reader: line breaks are normalized and NUL becomes U+FFFD, the
blocks are read, and then the text of every block that holds running text. `Markup` is what
documents need of a Markdown reader, and `Dialect.markup` is this one.

Each block keeps the half-open range of source lines it came from.
-/

namespace Manuscript.Markdown

/-- A node of running text. -/
inductive InlineNode where
  | text (s : String)
  | softbreak
  | hardbreak
  | code (s : String)
  | emphasis (children : List InlineNode)
  | strong (children : List InlineNode)
  | strike (children : List InlineNode)
  | link (href title : String) (children : List InlineNode)
  | image (src title alt : String)
  | html (s : String)
  deriving Inhabited, Repr

/-- A cell of a table row: its alignment and its text. -/
structure TableCell where
  align : Option String
  content : List InlineNode
  deriving Inhabited, Repr

/-- A row of a table, in the header or in the body. -/
structure TableRow where
  header : Bool
  cells : List TableCell
  deriving Inhabited, Repr

/-- A block node with the source lines it covers. `tight` marks a paragraph directly inside an
item of a tight list; `info` is the info string of a fenced code block. -/
inductive BlockNode where
  | paragraph (lines : Nat × Nat) (tight : Bool) (content : List InlineNode)
  | heading (lines : Nat × Nat) (depth : Nat) (content : List InlineNode)
  | blockquote (lines : Nat × Nat) (children : List BlockNode)
  | list (lines : Nat × Nat) (ordered : Bool) (start : Option Nat) (items : List BlockNode)
  | item (lines : Nat × Nat) (children : List BlockNode)
  | code (lines : Nat × Nat) (info : String) (content : String)
  | rule (lines : Nat × Nat)
  | html (lines : Nat × Nat) (content : String)
  | table (lines : Nat × Nat) (rows : List TableRow)
  deriving Inhabited, Repr

namespace InlineNode

/-- Folds inline tokens from index `i` into nodes, up to the closing token of the enclosing
span or the end. Answers the nodes and the index after the closing token. -/
def build (toks : Array InlineToken) : Nat → Nat → List InlineNode × Nat
  | 0, i => ([], i)
  | fuel + 1, i =>
    match toks[i]? with
    | none => ([], i)
    | some t =>
      if t.kind.nesting < 0 then ([], i + 1)
      else if t.kind.nesting > 0 then
        let (children, j) := build toks fuel (i + 1)
        let node := match t.kind with
          | .emOpen => emphasis children
          | .strongOpen => strong children
          | .strikeOpen => strike children
          | _ => link t.href t.title children
        let (rest, k) := build toks fuel j
        (node :: rest, k)
      else
        let node := match t.kind with
          | .softbreak => softbreak
          | .hardbreak => hardbreak
          | .codeInline => code t.content
          | .image => image t.href t.title t.content
          | .htmlInline => html t.content
          | _ => text t.content
        let (rest, k) := build toks fuel (i + 1)
        (node :: rest, k)

/-- The tree of a stream of inline tokens. -/
def ofTokens (toks : Array InlineToken) : List InlineNode :=
  (build toks (2 * toks.size + 1) 0).1

end InlineNode

namespace BlockNode

/-- The cells of a table row, from the tokens between its opening and closing tokens. -/
def cellsOf (toks : Array BlockToken) (openIdx : Nat) : Nat → Nat → List TableCell × Nat
  | 0, i => ([], i)
  | fuel + 1, i =>
    match toks[i]? with
    | none => ([], i)
    | some t =>
      if t.kind == .headerCellOpen || t.kind == .cellOpen then
        let content := match toks[i + 1]? with
          | some c => InlineNode.ofTokens c.children
          | none => []
        let (rest, k) := cellsOf toks openIdx fuel (i + 3)
        (⟨t.align, content⟩ :: rest, k)
      else ([], i + 1)

/-- The rows of a table section. -/
def rowsOf (toks : Array BlockToken) (header : Bool) : Nat → Nat → List TableRow × Nat
  | 0, i => ([], i)
  | fuel + 1, i =>
    match toks[i]? with
    | none => ([], i)
    | some t =>
      if t.kind == .rowOpen then
        let (cells, j) := cellsOf toks i fuel (i + 1)
        let (rest, k) := rowsOf toks header fuel j
        (⟨header, cells⟩ :: rest, k)
      else ([], i + 1)

/-- The rows of a table, from the tokens after its opening token. -/
def tableRows (toks : Array BlockToken) : Nat → Nat → List TableRow × Nat
  | 0, i => ([], i)
  | fuel + 1, i =>
    match toks[i]? with
    | none => ([], i)
    | some t =>
      if t.kind == .theadOpen || t.kind == .tbodyOpen then
        let (rows, j) := rowsOf toks (t.kind == .theadOpen) fuel (i + 1)
        let (rest, k) := tableRows toks fuel j
        (rows ++ rest, k)
      else ([], i + 1)

/-- Folds block tokens from index `i` into nodes, up to the closing token of the enclosing
container or the end. Answers the nodes and the index after the closing token. -/
def build (toks : Array BlockToken) : Nat → Nat → List BlockNode × Nat
  | 0, i => ([], i)
  | fuel + 1, i =>
    match toks[i]? with
    | none => ([], i)
    | some t =>
      let lines := t.lines.getD (0, 0)
      let inlineAt (k : Nat) : List InlineNode :=
        match toks[k]? with
        | some c => InlineNode.ofTokens c.children
        | none => []
      if t.kind.nesting < 0 then ([], i + 1)
      else
        let (node, j) : BlockNode × Nat :=
          match t.kind with
          | .paragraphOpen => (paragraph lines t.hidden (inlineAt (i + 1)), i + 3)
          | .headingOpen => (heading lines t.depth (inlineAt (i + 1)), i + 3)
          | .blockquoteOpen =>
            let (cs, j) := build toks fuel (i + 1)
            (blockquote lines cs, j)
          | .bulletListOpen | .orderedListOpen =>
            let (cs, j) := build toks fuel (i + 1)
            (list lines (t.kind == .orderedListOpen) t.start cs, j)
          | .listItemOpen =>
            let (cs, j) := build toks fuel (i + 1)
            (item lines cs, j)
          | .tableOpen =>
            let (rows, j) := tableRows toks fuel (i + 1)
            (table lines rows, j)
          | .fence => (code lines t.info t.content, i + 1)
          | .codeBlock => (code lines "" t.content, i + 1)
          | .hr => (rule lines, i + 1)
          | .htmlBlock => (html lines t.content, i + 1)
          | _ => (html lines t.content, i + 1)
        let (rest, k) := build toks fuel j
        (node :: rest, k)

/-- The tree of a stream of block tokens. -/
def ofTokens (toks : Array BlockToken) : List BlockNode :=
  (build toks (2 * toks.size + 1) 0).1

end BlockNode

/-- Replaces CR LF and lone CR by LF, and NUL by U+FFFD. -/
def normalizeSource (s : String) : String :=
  let rec go : List Char → List Char
    | '\r' :: '\n' :: rest => '\n' :: go rest
    | '\r' :: rest => '\n' :: go rest
    | '\x00' :: rest => '�' :: go rest
    | c :: rest => c :: go rest
    | [] => []
  String.ofList (go s.toList)

/-- The inline tokens of a text, with escaped characters and entities turned into plain text
and adjacent text joined when the dialect asks for it. -/
def inlineTokens (ctx : InlineContext) (text : String) : Array InlineToken :=
  let toks := parseInline ctx text
  if ctx.dialect.has .textJoin then
    joinText (toks.map fun t => if t.kind == .textSpecial then { t with kind := .text } else t)
  else toks

/-- Reads a document into block nodes. -/
def read (d : Dialect) (text : String) : List BlockNode :=
  let src := (normalizeSource text).toList.toArray
  let st := parseBlocks ⟨d⟩ src
  let ctx : InlineContext := ⟨d, st.references⟩
  let toks := st.tokens.map fun t =>
    if t.kind == .inline then { t with children := inlineTokens ctx t.content } else t
  BlockNode.ofTokens toks

/-- Reads a piece of running text, with no block structure and no reference definitions. -/
def readInline (d : Dialect) (text : String) : List InlineNode :=
  InlineNode.ofTokens (inlineTokens ⟨d, none⟩ (normalizeSource text))

/-- A Markdown reader as documents use it: how it reads a text into blocks, and a piece of running
text into inline nodes. -/
structure Markup where
  blocks : String → List BlockNode
  inlines : String → List InlineNode
  deriving Inhabited

/-- The Markdown reader of a dialect. -/
def Dialect.markup (d : Dialect) : Markup := ⟨read d, readInline d⟩

end Manuscript.Markdown
