import Manuscript.Proofs.Document.Vocabulary
import Manuscript.Proofs.Document.Nesting

/-!
# Reading without components

Without components, a document is read by the plain conversion of its Markdown tree
(`Reader.plainBlock`): every Markdown node becomes the node of its own kind, raw HTML, in blocks
and in running text, stays raw HTML, adjacent text is joined and never cut at braces, and no
paragraph is read as a module statement or promoted to the element or expression it holds.

So reading without components never fails, whatever the text and the Markdown dialect, and the
tree it gives holds no node of component syntax: no element, no expression and no module
statement (`Reader.markdown_reading_is_plain`).
-/

namespace Manuscript

namespace NodeKind

/-- The kinds that only component syntax gives: elements, expressions and module statements. -/
def isComponent : NodeKind → Bool
  | .flowElement | .textElement | .flowExpression | .textExpression | .esm => true
  | _ => false

end NodeKind

namespace Node

/-- A tree with no node of component syntax. -/
def Plain (n : Node) : Prop := ∀ m ∈ n.walk, m.kind.isComponent = false

theorem plain_iff {n : Node} :
    n.Plain ↔ n.kind.isComponent = false ∧ ∀ c ∈ n.children, c.Plain := by
  constructor
  · intro h
    exact ⟨h n (mem_walk.2 (.inl rfl)), fun c hc m hm => h m (mem_walk.2 (.inr ⟨c, hc, hm⟩))⟩
  · rintro ⟨hk, hc⟩ m hm
    rcases mem_walk.1 hm with rfl | ⟨c, hc', hm'⟩
    · exact hk
    · exact hc c hc' m hm'

theorem Plain.of_children {n : Node} (hk : n.kind.isComponent = false)
    (hc : ∀ c ∈ n.children, c.Plain) : n.Plain :=
  plain_iff.2 ⟨hk, hc⟩

/-- A node with no children is plain when its own kind is. -/
theorem Plain.leaf {n : Node} (hk : n.kind.isComponent = false) (hc : n.children = []) : n.Plain :=
  Plain.of_children hk (by simp [hc])

/-- Plainness reads only a node's kind and children. -/
theorem Plain.of_shape {m n : Node} (hk : m.kind = n.kind) (hc : m.children = n.children)
    (h : n.Plain) : m.Plain := by
  rw [plain_iff] at h ⊢
  rw [hk, hc]
  exact h

end Node

namespace Document

open Manuscript.Text Manuscript.Markdown Manuscript.Node

namespace Reader

variable (r : Reader)

/-! ### The plain conversion -/

mutual

/-- A node of running text read without components. -/
def plainInline : InlineNode → Node
  | .text s => Node.text s
  | .softbreak => Node.text "\n"
  | .hardbreak => { kind := .lineBreak }
  | .code s => { kind := .inlineCode, value := some s }
  | .emphasis cs => { kind := .emphasis, children := r.finish (plainInlines cs) }
  | .strong cs => { kind := .strong, children := r.finish (plainInlines cs) }
  | .strike cs => { kind := .delete, children := r.finish (plainInlines cs) }
  | .link href title cs =>
    { kind := .link, url := some href, title := nonEmpty title, children := r.finish (plainInlines cs) }
  | .image src title alt => { kind := .image, url := some src, alt := some alt, title := nonEmpty title }
  | .html s => { kind := .html, value := some s }

/-- Running text read without components, node by node. -/
def plainInlines : List InlineNode → List Node
  | [] => []
  | n :: ns => plainInline n :: plainInlines ns

end

/-- A table cell read without components. -/
def plainCell (header : Bool) (c : TableCell) : Node :=
  { kind := .tableCell, align := c.align, children := r.finish (r.plainInlines c.content),
    data := [("header", .bool header)] }

mutual

/-- A block read without components, its lines shifted by `offset`. -/
def plainBlock (offset : Int) : BlockNode → Node
  | .paragraph ls tight content =>
    { kind := .paragraph, children := r.finish (r.plainInlines content),
      position := some (positionOf ls offset),
      data := if tight then [("tight", .bool true)] else [] }
  | .heading ls depth content =>
    { kind := .heading, depth := some depth, children := r.finish (r.plainInlines content),
      position := some (positionOf ls offset) }
  | .blockquote ls cs =>
    { kind := .blockquote, children := plainBlocks offset cs, position := some (positionOf ls offset) }
  | .list ls ordered start items =>
    { kind := .list, ordered := some ordered,
      start := if ordered then start.map (fun n => (n : Int)) else none,
      children := plainBlocks offset items, position := some (positionOf ls offset) }
  | .item ls cs =>
    { kind := .listItem, children := plainBlocks offset cs, position := some (positionOf ls offset) }
  | .code ls info content =>
    { kind := .code, lang := (splitBlank info).head?, value := some (trimCharsRight content ['\n']),
      position := some (positionOf ls offset) }
  | .rule ls => { kind := .thematicBreak, position := some (positionOf ls offset) }
  | .html ls content =>
    { kind := .html, value := some (trimCharsRight content ['\n']),
      position := some (positionOf ls offset) }
  | .table ls rows =>
    { kind := .table,
      children := rows.map fun row =>
        { kind := .tableRow, children := row.cells.map (r.plainCell row.header) },
      position := some (positionOf ls offset) }

/-- Blocks read without components, one by one. -/
def plainBlocks (offset : Int) : List BlockNode → List Node
  | [] => []
  | b :: bs => plainBlock offset b :: plainBlocks offset bs

end

/-- A document read without components: the plain conversion of its Markdown tree, under a root
spanning all its lines. -/
def plainDocument (text : String) : Node :=
  let text := normalizeLineBreaks text
  { kind := .root, children := r.plainBlocks 0 (r.markup.blocks text),
    position := some ⟨1, (splitLines text).toArray.size, none⟩ }

/-! ### Reading without components is the plain conversion -/

section Conversion

variable {r}

theorem closeInline_addAll (ns : List Node) :
    r.closeInline (({} : Fold).addAll ns) = .ok (r.finish ns) := by
  rw [Fold.addAll_of_opened_nil rfl]
  simp [closeInline, Fold.innermost?]

theorem closeBlocks_addAll (ns : List Node) : closeBlocks (({} : Fold).addAll ns) = .ok ns := by
  rw [Fold.addAll_of_opened_nil rfl]
  simp [closeBlocks, Fold.innermost?]

mutual

theorem inlineNode_plain (hr : r.components = false) :
    ∀ n : InlineNode, r.inlineNode n = .ok (r.plainInline n)
  | .text _ => rfl
  | .softbreak => rfl
  | .hardbreak => rfl
  | .code _ => rfl
  | .emphasis cs => by
    rw [inlineNode, inlineFold_plain hr cs {}, Except.ok_bind, closeInline_addAll]
    rfl
  | .strong cs => by
    rw [inlineNode, inlineFold_plain hr cs {}, Except.ok_bind, closeInline_addAll]
    rfl
  | .strike cs => by
    rw [inlineNode, inlineFold_plain hr cs {}, Except.ok_bind, closeInline_addAll]
    rfl
  | .link _ _ cs => by
    rw [inlineNode, inlineFold_plain hr cs {}, Except.ok_bind, closeInline_addAll]
    rfl
  | .image _ _ _ => rfl
  | .html _ => rfl

theorem inlineFold_plain (hr : r.components = false) :
    ∀ (ns : List InlineNode) (f : Fold), r.inlineFold ns f = .ok (f.addAll (r.plainInlines ns))
  | [], _ => rfl
  | n :: rest, f => by
    have hnode := inlineNode_plain hr n
    have hrest := inlineFold_plain hr rest (f.add (r.plainInline n))
    cases n <;>
      simp only [inlineFold, plainInlines, Fold.addAll_cons, hr, Bool.false_eq_true, if_false,
        hnode, Except.map_ok, Except.ok_bind, hrest]

end

theorem inline_plain (hr : r.components = false) (cs : List InlineNode) :
    r.inline cs = .ok (r.finish (r.plainInlines cs)) := by
  rw [inline, inlineFold_plain hr, Except.ok_bind, closeInline_addAll]

theorem cells_plain (hr : r.components = false) (row : TableRow) :
    r.cells row = .ok (row.cells.map (r.plainCell row.header)) := by
  unfold cells
  simp only [inline_plain hr, Except.ok_bind]
  exact List.mapM_pure

mutual

theorem blockNode_plain (hr : r.components = false) (nested : Nested) (lines : Array String)
    (offset : Int) : ∀ b : BlockNode, r.blockNode nested lines offset b = .ok (r.plainBlock offset b)
  | .paragraph _ _ content => by
    simp only [blockNode, inline_plain hr, Except.ok_bind, hr, Bool.false_eq_true, if_false]
    rfl
  | .heading _ _ content => by
    simp only [blockNode, inline_plain hr, Except.ok_bind]
    rfl
  | .blockquote _ cs => by
    simp only [blockNode, blockFold_plain hr nested lines offset false cs {}, Except.ok_bind,
      closeBlocks_addAll]
    rfl
  | .list _ _ _ items => by
    simp only [blockNode, blockList_plain hr nested lines offset items, Except.ok_bind]
    rfl
  | .item _ cs => by
    simp only [blockNode, blockFold_plain hr nested lines offset false cs {}, Except.ok_bind,
      closeBlocks_addAll]
    rfl
  | .code _ _ _ => rfl
  | .rule _ => rfl
  | .html _ _ => rfl
  | .table _ rows => by
    have hrows : rows.mapM (fun row => do
        return ({ kind := .tableRow, children := ← r.cells row } : Node)) =
        .ok (rows.map fun row =>
          { kind := .tableRow, children := row.cells.map (r.plainCell row.header) }) := by
      simp only [cells_plain hr, Except.ok_bind]
      exact List.mapM_pure
    simp only [blockNode, hrows, Except.ok_bind]
    rfl

theorem blockList_plain (hr : r.components = false) (nested : Nested) (lines : Array String)
    (offset : Int) :
    ∀ bs : List BlockNode, r.blockList nested lines offset bs = .ok (r.plainBlocks offset bs)
  | [] => rfl
  | b :: bs => by
    simp only [blockList, blockNode_plain hr nested lines offset b,
      blockList_plain hr nested lines offset bs, Except.ok_bind]
    rfl

theorem blockFold_plain (hr : r.components = false) (nested : Nested) (lines : Array String)
    (offset : Int) (topLevel : Bool) :
    ∀ (bs : List BlockNode) (f : Fold),
      r.blockFold nested lines offset topLevel bs f = .ok (f.addAll (r.plainBlocks offset bs))
  | [], _ => rfl
  | b :: rest, f => by
    have hnode := blockNode_plain hr nested lines offset b
    have hrest := blockFold_plain hr nested lines offset topLevel rest (f.add (r.plainBlock offset b))
    cases b <;>
      simp only [blockFold, plainBlocks, Fold.addAll_cons, hr, Bool.false_eq_true, if_false,
        Bool.and_false, Bool.false_and, hnode, Except.map_ok, Except.ok_bind, hrest]

end

/-- Reading without components succeeds, and gives the plain conversion. -/
theorem parse_plain (hr : r.components = false) (text : String) :
    r.parse text = .ok (r.plainDocument text) := by
  simp only [parse, blockFold_plain hr, Except.ok_bind, closeBlocks_addAll]
  rfl

end Conversion

/-! ### The plain conversion has no component syntax -/

section Plainness

variable {r}

/-- Joining texts keeps a list plain: a joined text has the kind and children of a text of
the list. -/
theorem finish_plain (hr : r.components = false) {ns : List Node} (h : ∀ n ∈ ns, n.Plain) :
    ∀ m ∈ r.finish ns, m.Plain := by
  unfold finish
  generalize hfold : ns.foldl _ #[] = folded
  have merged : ∀ m ∈ folded, ∃ n ∈ ns, m.kind = n.kind ∧ m.children = n.children := by
    rw [← hfold]
    refine List.foldlRecOn (motive := fun acc : Array Node =>
      ∀ m ∈ acc, ∃ n ∈ ns, m.kind = n.kind ∧ m.children = n.children) ns _ (by simp)
      fun acc hacc n hn => ?_
    have hpush : ∀ m ∈ acc.push n, ∃ n' ∈ ns, m.kind = n'.kind ∧ m.children = n'.children := by
      intro m hm
      rcases Array.mem_push.1 hm with hm | rfl
      · exact hacc m hm
      · exact ⟨m, hn, rfl, rfl⟩
    split
    · next last hlast =>
      split
      · -- the text just read is joined to the last one
        intro m hm
        rcases Array.mem_push.1 hm with hm | rfl
        · exact hacc m (mem_of_mem_pop hm)
        · exact hacc last (Array.mem_of_back? hlast)
      · exact hpush
    · exact hpush
  intro m hm
  simp only [hr, Bool.not_false, if_true] at hm
  obtain ⟨n, hn, hk, hc⟩ := merged m (Array.mem_toList_iff.1 hm)
  exact Plain.of_shape hk hc (h n hn)

mutual

theorem plainInline_plain (hr : r.components = false) : ∀ n : InlineNode, (r.plainInline n).Plain
  | .text _ => Plain.leaf rfl rfl
  | .softbreak => Plain.leaf rfl rfl
  | .hardbreak => Plain.leaf rfl rfl
  | .code _ => Plain.leaf rfl rfl
  | .emphasis cs => Plain.of_children rfl (finish_plain hr (plainInlines_plain hr cs))
  | .strong cs => Plain.of_children rfl (finish_plain hr (plainInlines_plain hr cs))
  | .strike cs => Plain.of_children rfl (finish_plain hr (plainInlines_plain hr cs))
  | .link _ _ cs => Plain.of_children rfl (finish_plain hr (plainInlines_plain hr cs))
  | .image _ _ _ => Plain.leaf rfl rfl
  | .html _ => Plain.leaf rfl rfl

theorem plainInlines_plain (hr : r.components = false) :
    ∀ ns : List InlineNode, ∀ m ∈ r.plainInlines ns, m.Plain
  | [], _, hm => absurd hm List.not_mem_nil
  | n :: ns, m, hm => by
    rcases List.mem_cons.1 hm with rfl | hm
    · exact plainInline_plain hr n
    · exact plainInlines_plain hr ns m hm

end

theorem plainCell_plain (hr : r.components = false) (header : Bool) (c : TableCell) :
    (r.plainCell header c).Plain :=
  Plain.of_children rfl (finish_plain hr (plainInlines_plain hr c.content))

mutual

theorem plainBlock_plain (hr : r.components = false) (offset : Int) :
    ∀ b : BlockNode, (r.plainBlock offset b).Plain
  | .paragraph _ _ content => Plain.of_children rfl (finish_plain hr (plainInlines_plain hr content))
  | .heading _ _ content => Plain.of_children rfl (finish_plain hr (plainInlines_plain hr content))
  | .blockquote _ cs => Plain.of_children rfl (plainBlocks_plain hr offset cs)
  | .list _ _ _ items => Plain.of_children rfl (plainBlocks_plain hr offset items)
  | .item _ cs => Plain.of_children rfl (plainBlocks_plain hr offset cs)
  | .code _ _ _ => Plain.leaf rfl rfl
  | .rule _ => Plain.leaf rfl rfl
  | .html _ _ => Plain.leaf rfl rfl
  | .table _ rows => Plain.of_children rfl fun row hrow => by
    obtain ⟨row', -, rfl⟩ := List.mem_map.1 hrow
    refine Plain.of_children rfl fun cell hcell => ?_
    obtain ⟨c, -, rfl⟩ := List.mem_map.1 hcell
    exact plainCell_plain hr row'.header c

theorem plainBlocks_plain (hr : r.components = false) (offset : Int) :
    ∀ bs : List BlockNode, ∀ m ∈ r.plainBlocks offset bs, m.Plain
  | [], _, hm => absurd hm List.not_mem_nil
  | b :: bs, m, hm => by
    rcases List.mem_cons.1 hm with rfl | hm
    · exact plainBlock_plain hr offset b
    · exact plainBlocks_plain hr offset bs m hm

end

end Plainness

/-- Reading without components, with any Markdown reader, never fails: it gives the plain
conversion of the Markdown tree, which holds no element, no expression and no module statement. -/
theorem markdown_reading_is_plain (markup : Markup) (text : String) :
    (⟨markup, false⟩ : Reader).parse text =
        .ok ((⟨markup, false⟩ : Reader).plainDocument text) ∧
      ((⟨markup, false⟩ : Reader).plainDocument text).Plain :=
  ⟨parse_plain rfl text,
    Plain.of_children rfl (plainBlocks_plain rfl 0 _)⟩

end Reader

end Document

end Manuscript
