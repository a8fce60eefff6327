import Manuscript.Text.Blank
import Manuscript.Text.Margin
import Manuscript.Markdown.Rule
import Manuscript.Markdown.Tree
import Manuscript.Document.Node
import Manuscript.Document.Tag
import Manuscript.Error

/-!
# Reading documents

`Reader.parse` reads Markdown, or Markdown with components, into a document tree.

The Markdown tree is converted node by node. With components switched on:

* raw HTML inside running text is read as tags: an opening tag starts a text element that takes
  the following nodes up to its closing tag, and a closing tag must close the innermost open
  element;
* a raw HTML block is read as a run of tags. An element whose closing tag is in the same block
  gets the markup between the tags, read again (as blocks when that markup spans lines, as
  running text otherwise); an element left open takes the following blocks up to a block that
  closes it; text after the last tag is read again as blocks;
* text is cut at expressions `{…}`;
* a paragraph that holds one element or one expression, beside blank text, becomes that
  element or expression standing as a block;
* a paragraph of the document itself that starts with a module statement is kept as a module
  statement.

Every block carries the lines it came from; markup that is read again is placed at the lines of
the block that held it.
-/

namespace Manuscript.Document

open Manuscript.Text Manuscript.Markdown

/-- How documents are read: the Markdown reader, and whether component syntax is read. -/
structure Reader where
  markup : Markup
  components : Bool
  deriving Inhabited

/-- The state of folding a run of nodes: the nodes finished at this level, and the elements
still open, innermost first, each with the children it has so far. -/
structure Fold where
  done : Array Node := #[]
  opened : List (Node × Array Node) := []
  deriving Inhabited

namespace Fold

/-- Adds a node to the innermost open element, or to the finished nodes. -/
def add (f : Fold) (n : Node) : Fold :=
  match f.opened with
  | (e, cs) :: rest => { f with opened := (e, cs.push n) :: rest }
  | [] => { f with done := f.done.push n }

/-- Adds nodes in order. -/
def addAll (f : Fold) (ns : List Node) : Fold :=
  ns.foldl add f

/-- Opens an element. -/
def enter (f : Fold) (e : Node) : Fold :=
  { f with opened := (e, #[]) :: f.opened }

/-- Closes the innermost open element: its children are finished by `finish`, its last line
becomes `endLine` when given, and it is added where it was opened. -/
def leave (f : Fold) (finish : List Node → List Node) (endLine : Option Int) : Fold :=
  match f.opened with
  | (e, cs) :: rest =>
    let position := match e.position, endLine with
      | some p, some l => some { p with endLine := l }
      | p, _ => p
    add { f with opened := rest } { e with children := finish cs.toList, position }
  | [] => f

/-- The name of the innermost open element. -/
def innermost? (f : Fold) : Option Node :=
  f.opened.head?.map (·.1)

end Fold

/-- The error for a closing tag that closes no open element. -/
def unexpectedClose (name : String) (line : Option Int) : Error :=
  .parse ("Unexpected closing tag `</" ++ name ++ ">`") none line

/-- The error for a closing tag that does not close the innermost open element. -/
def mismatchedClose (name expected : String) (line : Option Int) : Error :=
  .parse ("Unexpected closing tag `</" ++ name ++ ">`, expected `</" ++ expected ++ ">`") none line

/-- The error for an element that is never closed. -/
def unclosed (e : Node) : Error :=
  .parse ("Expected a closing tag for `<" ++ e.name.getD "None" ++ ">`") none
    (e.position.map (·.startLine))

/-- An element node of a kind from an opening tag. -/
def elementOf (kind : NodeKind) (tag : OpenTag) : Node :=
  { kind, name := some tag.name, attributes := attributesOf tag.attributeText }

/-- An optional text that is absent when empty. -/
def nonEmpty (s : String) : Option String :=
  if s.isEmpty then none else some s

/-- The lines of a block, as a position shifted by `offset` lines. -/
def positionOf (lines : Nat × Nat) (offset : Int) : Position :=
  ⟨(lines.1 : Int) + 1 + offset, (max lines.2 (lines.1 + 1) : Nat) + offset, none⟩

namespace Reader

/-- Joins adjacent text nodes, then, with components, cuts text at its expressions. -/
def finish (r : Reader) (nodes : List Node) : List Node :=
  let merged := nodes.foldl (fun (acc : Array Node) n =>
    match acc.back? with
    | some last =>
      if n.kind == .text && last.kind == .text then
        acc.pop.push { last with value := some (last.value.getD "" ++ n.value.getD "") }
      else acc.push n
    | none => acc.push n) #[]
  if !r.components then merged.toList
  else merged.toList.flatMap fun n =>
    if n.kind == .text && (n.value.getD "").toList.contains '\x7B' then
      (splitExpressions (n.value.getD "")).map fun
        | .text s => Node.text s
        | .expression s => { kind := .textExpression, value := some s }
    else [n]

/-- The nodes of a finished inline fold; an element left open is an error. -/
def closeInline (r : Reader) (f : Fold) : Except Error (List Node) :=
  match f.innermost? with
  | some e => .error (unclosed e)
  | none => .ok (r.finish f.done.toList)

mutual

/-- Converts a node of running text. -/
def inlineNode (r : Reader) : InlineNode → Except Error Node
  | .text s => .ok (Node.text s)
  | .softbreak => .ok (Node.text "\n")
  | .hardbreak => .ok { kind := .lineBreak }
  | .code s => .ok { kind := .inlineCode, value := some s }
  | .emphasis cs => do
    let f ← inlineFold r cs {}
    return { kind := .emphasis, children := ← r.closeInline f }
  | .strong cs => do
    let f ← inlineFold r cs {}
    return { kind := .strong, children := ← r.closeInline f }
  | .strike cs => do
    let f ← inlineFold r cs {}
    return { kind := .delete, children := ← r.closeInline f }
  | .link href title cs => do
    let f ← inlineFold r cs {}
    return { kind := .link, url := some href, title := nonEmpty title,
             children := ← r.closeInline f }
  | .image src title alt => .ok { kind := .image, url := some src, alt := some alt,
                                  title := nonEmpty title }
  | .html s => .ok { kind := .html, value := some s }

/-- Folds nodes of running text; with components, raw HTML that is one tag opens or closes a
text element. -/
def inlineFold (r : Reader) : List InlineNode → Fold → Except Error Fold
  | [], f => .ok f
  | n :: rest, f => do
    let f ← match n with
      | .html s =>
        if r.components then
          match closeTagWhole? s with
          | some name =>
            match f.innermost? with
            | some e =>
              if e.name == some name then .ok (f.leave r.finish none)
              else .error (unexpectedClose name none)
            | none => .error (unexpectedClose name none)
          | none =>
            match openTagWhole? s with
            | some tag =>
              let e := elementOf .textElement tag
              .ok (if tag.selfClosing then f.add e else f.enter e)
            | none => f.add <$> inlineNode r n
        else f.add <$> inlineNode r n
      | _ => f.add <$> inlineNode r n
    inlineFold r rest f

end

/-- Converts running text. -/
def inline (r : Reader) (nodes : List InlineNode) : Except Error (List Node) := do
  r.closeInline (← inlineFold r nodes {})

/-- Turns a paragraph that holds a single text element or expression, beside blank text, into
that node standing as a block. -/
def promote (children : List Node) : Option Node :=
  match children.filter (fun c => !(c.kind == .text && isAllBlank (c.value.getD ""))) with
  | [only] =>
    match only.kind with
    | .textElement => some { only with kind := .flowElement }
    | .textExpression => some { only with kind := .flowExpression }
    | _ => none
  | _ => none

/-- Reads markup nested in a component element: the markup, whether to read it as blocks, and
the line offset of the block that held it. -/
abbrev Nested := String → Bool → Int → Except Error (List Node)

/-- The cells of a table row. -/
def cells (r : Reader) (row : TableRow) : Except Error (List Node) :=
  row.cells.mapM fun c => do
    return { kind := .tableCell, align := c.align, children := ← r.inline c.content,
             data := [("header", .bool row.header)] }

/-- Folds a raw HTML block into component elements. -/
def htmlBlock (nested : Nested) (content : String) (pos : Position) (f : Fold) :
    Except Error Fold :=
  let s := (trimBlank content).toList.toArray
  let lineOffset := pos.startLine - 1
  let line := some pos.startLine
  let rec loop : Nat → Nat → Bool → Fold → Except Error Fold
    | 0, _, _, f => .ok f
    | fuel + 1, i, consumed, f =>
      if i < s.size then
        match closeTagAt s i with
        | some (name, stop) =>
          match f.innermost? with
          | none => .error (unexpectedClose name line)
          | some e =>
            if e.name != some name then .error (mismatchedClose name (e.name.getD "None") line)
            else loop fuel (skipWhile s isBlank stop) true (f.leave id (some pos.endLine))
        | none =>
          match openTagAt s i with
          | none =>
            if !consumed then
              .ok (f.add { kind := .html, value := some (trimCharsRight content ['\n']),
                           position := some pos })
            else do
              let ns ← nested (sliceText s i s.size) true lineOffset
              return f.addAll ns
          | some tag =>
            let e := { elementOf .flowElement tag with
                       position := some ⟨pos.startLine, pos.endLine, none⟩ }
            if tag.selfClosing then loop fuel (skipWhile s isBlank tag.stop) true (f.add e)
            else
              let rest := s.extract tag.stop s.size
              match closingSpan rest tag.name with
              | none => loop fuel (skipWhile s isBlank tag.stop) true (f.enter e)
              | some (a, b) => do
                let inner := sliceText rest 0 a
                let children ← nested inner ((trimBlank inner).contains '\n') lineOffset
                loop fuel (skipWhile s isBlank (tag.stop + b)) true (f.add { e with children })
      else .ok f
  loop (s.size + 1) 0 false f

/-- The nodes of a finished block fold; an element left open is an error. -/
def closeBlocks (f : Fold) : Except Error (List Node) :=
  match f.innermost? with
  | some e => .error (unclosed e)
  | none => .ok f.done.toList

mutual

/-- Converts a block. -/
def blockNode (r : Reader) (nested : Nested) (lines : Array String) (offset : Int) :
    BlockNode → Except Error Node
  | .paragraph ls tight content => do
    let position := positionOf ls offset
    let children ← r.inline content
    match (if r.components then promote children else none) with
    | some p => return { p with position := some position }
    | none =>
      return { kind := .paragraph, children, position := some position,
               data := if tight then [("tight", .bool true)] else [] }
  | .heading ls depth content => do
    return { kind := .heading, depth := some depth, children := ← r.inline content,
             position := some (positionOf ls offset) }
  | .blockquote ls cs => do
    let f ← blockFold r nested lines offset false cs {}
    return { kind := .blockquote, children := ← closeBlocks f,
             position := some (positionOf ls offset) }
  | .list ls ordered start items => do
    return { kind := .list, ordered := some ordered,
             start := if ordered then start.map (fun n => (n : Int)) else none,
             children := ← blockList r nested lines offset items,
             position := some (positionOf ls offset) }
  | .item ls cs => do
    let f ← blockFold r nested lines offset false cs {}
    return { kind := .listItem, children := ← closeBlocks f,
             position := some (positionOf ls offset) }
  | .code ls info content =>
    let words := splitBlank info
    .ok { kind := .code, lang := words.head?, value := some (trimCharsRight content ['\n']),
          position := some (positionOf ls offset) }
  | .rule ls => .ok { kind := .thematicBreak, position := some (positionOf ls offset) }
  | .html ls content =>
    .ok { kind := .html, value := some (trimCharsRight content ['\n']),
          position := some (positionOf ls offset) }
  | .table ls rows => do
    let rs ← rows.mapM fun row => do
      return ({ kind := .tableRow, children := ← r.cells row } : Node)
    return { kind := .table, children := rs, position := some (positionOf ls offset) }

/-- Converts the items of a list. -/
def blockList (r : Reader) (nested : Nested) (lines : Array String) (offset : Int) :
    List BlockNode → Except Error (List Node)
  | [] => .ok []
  | b :: rest => do
    let n ← blockNode r nested lines offset b
    return n :: (← blockList r nested lines offset rest)

/-- Folds a run of blocks; with components, raw HTML blocks open and close flow elements, and
in the document itself a paragraph that starts with a module statement is kept as one. -/
def blockFold (r : Reader) (nested : Nested) (lines : Array String) (offset : Int)
    (topLevel : Bool) : List BlockNode → Fold → Except Error Fold
  | [], f => .ok f
  | b :: rest, f => do
    let f ← match b with
      | .html ls content =>
        if r.components then htmlBlock nested content (positionOf ls offset) f
        else f.add <$> blockNode r nested lines offset b
      | .paragraph ls _ _ =>
        let raw := trimBlank ("\n".intercalate ((lines.extract ls.1 ls.2).toList))
        if topLevel && r.components && isModuleStatement raw then
          .ok (f.add { kind := .esm, value := some raw, position := some (positionOf ls offset) })
        else f.add <$> blockNode r nested lines offset b
      | _ => f.add <$> blockNode r nested lines offset b
    blockFold r nested lines offset topLevel rest f

end

/-- Reads nested markup, at most `depth` levels deep. Nested markup is always shorter than the
markup that holds it, so a depth of one more than the length of a document suffices for it. -/
def nestedAt (r : Reader) : Nat → Nested
  | 0 => fun _ _ _ => .ok []
  | depth + 1 => fun text block offset =>
    if block then
      let fragment := trimChars (removeMargin text) ['\n']
      let lines := (splitLines fragment).toArray
      do closeBlocks (← blockFold r (nestedAt r depth) lines offset false
          (r.markup.blocks fragment) {})
    else
      let fragment := trimBlank text
      if fragment.isEmpty then .ok []
      else r.inline (r.markup.inlines fragment)

/-- Replaces CR LF and lone CR by LF. -/
def normalizeLineBreaks (s : String) : String :=
  let rec go : List Char → List Char
    | '\r' :: '\n' :: rest => '\n' :: go rest
    | '\r' :: rest => '\n' :: go rest
    | c :: rest => c :: go rest
    | [] => []
  String.ofList (go s.toList)

/-- Reads a document into a tree whose root spans all its lines. -/
def parse (r : Reader) (text : String) : Except Error Node := do
  let text := normalizeLineBreaks text
  let lines := (splitLines text).toArray
  let f ← blockFold r (r.nestedAt (text.length + 1)) lines 0 true (r.markup.blocks text) {}
  return { kind := .root, children := ← closeBlocks f,
           position := some ⟨1, lines.size, none⟩ }

end Reader

end Manuscript.Document
