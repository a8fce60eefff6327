import Manuscript.Document.Reader
import Manuscript.FrontMatter

/-!
# How reading a document can fail

Reading markup fails only with a parse error: a closing tag that closes no open element or not
the innermost one, or an element left open (`Reader.parse_failsWith`); every other step of
reading succeeds. Splitting off front matter fails only as reading the YAML of the block does,
or on a block that holds no mapping (`FrontMatter.split_failsWith_of`). `FailsWith P x` says that
`x`, when it fails, fails with an error that `P` holds of; it holds of results, binds and maps
keep it, and so do maps over lists.
-/

namespace Manuscript

/-- A result that, when it is an error, is an error that `P` holds of. -/
def FailsWith {α : Type} (P : Error → Prop) (x : Except Error α) : Prop :=
  ∀ e, x = .error e → P e

/-- A parse error. -/
def Error.IsParse (e : Error) : Prop := ∃ detail path line, e = .parse detail path line

/-- An include failure. -/
def Error.IsInclude (e : Error) : Prop :=
  ∃ message specifier path, e = .includeFailed message specifier path

section FailsWith

variable {α β : Type} {P : Error → Prop}

theorem failsWith_ok (a : α) : FailsWith P (.ok a : Except Error α) := by
  intro e h
  cases h

theorem failsWith_error {e : Error} (h : P e) : FailsWith P (.error e : Except Error α) := by
  intro e' he
  cases he
  exact h

theorem FailsWith.bind {x : Except Error α} {f : α → Except Error β} (hx : FailsWith P x)
    (hf : ∀ a, FailsWith P (f a)) : FailsWith P (x >>= f) := by
  cases x with
  | error e =>
    intro e' he'
    change (.error e : Except Error β) = .error e' at he'
    cases he'
    exact hx e rfl
  | ok a => exact hf a

theorem FailsWith.map {x : Except Error α} (hx : FailsWith P x) (f : α → β) :
    FailsWith P (f <$> x) := by
  cases x with
  | error e =>
    intro e' he'
    change (.error e : Except Error β) = .error e' at he'
    cases he'
    exact hx e rfl
  | ok a => exact failsWith_ok _

theorem failsWith_mapM {f : α → Except Error β} :
    ∀ {as : List α}, (∀ a ∈ as, FailsWith P (f a)) → FailsWith P (as.mapM f)
  | [], _ => failsWith_ok []
  | a :: as, h => by
    rw [List.mapM_cons]
    exact (h a List.mem_cons_self).bind fun b =>
      (failsWith_mapM fun a' ha' => h a' (List.mem_cons_of_mem a ha')).bind fun bs =>
        failsWith_ok (b :: bs)

end FailsWith

theorem parse_isParse (detail : String) (path : Option String) (line : Option Int) :
    (Error.parse detail path line).IsParse :=
  ⟨detail, path, line, rfl⟩

theorem failsWith_parse {α : Type} (detail : String) (path : Option String) (line : Option Int) :
    FailsWith Error.IsParse (.error (.parse detail path line) : Except Error α) :=
  failsWith_error (parse_isParse detail path line)

/-- Naming the file of a parse error keeps it a parse error. -/
theorem Error.IsParse.withPath {e : Error} (h : e.IsParse) (path : String) :
    (e.withPath path).IsParse := by
  obtain ⟨detail, p, line, rfl⟩ := h
  cases p
  · exact parse_isParse _ _ _
  · exact parse_isParse _ _ _

theorem Error.IsParse.not_isInclude {e : Error} (h : e.IsParse) : ¬ e.IsInclude := by
  obtain ⟨detail, path, line, rfl⟩ := h
  rintro ⟨message, specifier, p, h⟩
  cases h

namespace Document

namespace Reader

open Manuscript.Markdown

variable (r : Reader)

theorem closeInline_failsWith (f : Fold) : FailsWith Error.IsParse (r.closeInline f) := by
  unfold closeInline
  split
  · exact failsWith_parse _ _ _
  · exact failsWith_ok _

theorem closeBlocks_failsWith (f : Fold) : FailsWith Error.IsParse (closeBlocks f) := by
  unfold closeBlocks
  split
  · exact failsWith_parse _ _ _
  · exact failsWith_ok _

mutual

theorem inlineNode_failsWith : ∀ n : InlineNode, FailsWith Error.IsParse (r.inlineNode n)
  | .text _ => failsWith_ok _
  | .softbreak => failsWith_ok _
  | .hardbreak => failsWith_ok _
  | .code _ => failsWith_ok _
  | .emphasis cs => by
    unfold inlineNode
    exact (inlineFold_failsWith cs {}).bind fun f =>
      (r.closeInline_failsWith f).bind fun _ => failsWith_ok _
  | .strong cs => by
    unfold inlineNode
    exact (inlineFold_failsWith cs {}).bind fun f =>
      (r.closeInline_failsWith f).bind fun _ => failsWith_ok _
  | .strike cs => by
    unfold inlineNode
    exact (inlineFold_failsWith cs {}).bind fun f =>
      (r.closeInline_failsWith f).bind fun _ => failsWith_ok _
  | .link _ _ cs => by
    unfold inlineNode
    exact (inlineFold_failsWith cs {}).bind fun f =>
      (r.closeInline_failsWith f).bind fun _ => failsWith_ok _
  | .image _ _ _ => failsWith_ok _
  | .html _ => failsWith_ok _

theorem inlineFold_failsWith :
    ∀ (ns : List InlineNode) (f : Fold), FailsWith Error.IsParse (r.inlineFold ns f)
  | [], _ => failsWith_ok _
  | n :: rest, f => by
    -- each branch takes one step, which fails only on a closing tag, then folds the rest
    have hrest : ∀ f, FailsWith Error.IsParse (r.inlineFold rest f) := inlineFold_failsWith rest
    have hnode : FailsWith Error.IsParse (f.add <$> r.inlineNode n) :=
      (inlineNode_failsWith n).map _
    unfold inlineFold
    dsimp only
    split
    · split
      · split
        · split
          · split
            · exact (failsWith_ok _).bind hrest
            · exact (failsWith_parse _ _ _).bind hrest
          · exact (failsWith_parse _ _ _).bind hrest
        · split
          · exact (failsWith_ok _).bind hrest
          · exact hnode.bind hrest
      · exact hnode.bind hrest
    · exact hnode.bind hrest

end

theorem inline_failsWith (nodes : List InlineNode) : FailsWith Error.IsParse (r.inline nodes) :=
  (r.inlineFold_failsWith nodes {}).bind r.closeInline_failsWith

theorem cells_failsWith (row : TableRow) : FailsWith Error.IsParse (r.cells row) :=
  failsWith_mapM fun c _ => (r.inline_failsWith c.content).bind fun _ => failsWith_ok _

section Nested

variable {nested : Nested}

/-- Reading the tags of an HTML block fails only on a closing tag, or in the markup it reads
again. -/
theorem htmlBlock_loop_failsWith
    (hn : ∀ text block offset, FailsWith Error.IsParse (nested text block offset))
    (content : String) (pos : Position) (s : Array Char)
    (lineOffset : Int) (line : Option Int) :
    ∀ (fuel i : Nat) (consumed : Bool) (f : Fold),
      FailsWith Error.IsParse
        (htmlBlock.loop nested content pos s lineOffset line fuel i consumed f)
  | 0, _, _, _ => failsWith_ok _
  | fuel + 1, i, consumed, f => by
    have hloop := htmlBlock_loop_failsWith hn content pos s lineOffset line fuel
    unfold htmlBlock.loop
    dsimp only
    split
    · split
      · split
        · exact failsWith_parse _ _ _
        · split
          · exact failsWith_parse _ _ _
          · exact hloop _ _ _
      · split
        · split
          · exact failsWith_ok _
          · exact (hn _ _ _).bind fun _ => failsWith_ok _
        · split
          · exact hloop _ _ _
          · split
            · exact hloop _ _ _
            · exact (hn _ _ _).bind fun _ => hloop _ _ _
    · exact failsWith_ok _

theorem htmlBlock_failsWith
    (hn : ∀ text block offset, FailsWith Error.IsParse (nested text block offset))
    (content : String) (pos : Position) (f : Fold) :
    FailsWith Error.IsParse (htmlBlock nested content pos f) :=
  htmlBlock_loop_failsWith hn _ _ _ _ _ _ _ _ _

mutual

theorem blockNode_failsWith
    (hn : ∀ text block offset, FailsWith Error.IsParse (nested text block offset))
    (lines : Array String) (offset : Int) :
    ∀ b : BlockNode, FailsWith Error.IsParse (r.blockNode nested lines offset b)
  | .paragraph _ _ content => by
    unfold blockNode
    refine (r.inline_failsWith content).bind fun children => ?_
    split <;> exact failsWith_ok _
  | .heading _ _ content => by
    unfold blockNode
    exact (r.inline_failsWith content).bind fun _ => failsWith_ok _
  | .blockquote _ cs => by
    unfold blockNode
    exact (blockFold_failsWith hn lines offset false cs {}).bind fun f =>
      (closeBlocks_failsWith f).bind fun _ => failsWith_ok _
  | .list _ _ _ items => by
    unfold blockNode
    exact (blockList_failsWith hn lines offset items).bind fun _ => failsWith_ok _
  | .item _ cs => by
    unfold blockNode
    exact (blockFold_failsWith hn lines offset false cs {}).bind fun f =>
      (closeBlocks_failsWith f).bind fun _ => failsWith_ok _
  | .code _ _ _ => failsWith_ok _
  | .rule _ => failsWith_ok _
  | .html _ _ => failsWith_ok _
  | .table _ rows => by
    unfold blockNode
    exact (failsWith_mapM fun row _ => (r.cells_failsWith row).bind fun _ => failsWith_ok _).bind
      fun _ => failsWith_ok _

theorem blockList_failsWith
    (hn : ∀ text block offset, FailsWith Error.IsParse (nested text block offset))
    (lines : Array String) (offset : Int) :
    ∀ bs : List BlockNode, FailsWith Error.IsParse (r.blockList nested lines offset bs)
  | [] => failsWith_ok _
  | b :: rest => by
    unfold blockList
    exact (blockNode_failsWith hn lines offset b).bind fun _ =>
      (blockList_failsWith hn lines offset rest).bind fun _ => failsWith_ok _

theorem blockFold_failsWith
    (hn : ∀ text block offset, FailsWith Error.IsParse (nested text block offset))
    (lines : Array String) (offset : Int) (topLevel : Bool) :
    ∀ (bs : List BlockNode) (f : Fold),
      FailsWith Error.IsParse (r.blockFold nested lines offset topLevel bs f)
  | [], _ => failsWith_ok _
  | b :: rest, f => by
    have hrest : ∀ f, FailsWith Error.IsParse (r.blockFold nested lines offset topLevel rest f) :=
      blockFold_failsWith hn lines offset topLevel rest
    have hnode : FailsWith Error.IsParse (f.add <$> r.blockNode nested lines offset b) :=
      (blockNode_failsWith hn lines offset b).map _
    unfold blockFold
    dsimp only
    split
    · split
      · exact (htmlBlock_failsWith hn _ _ _).bind hrest
      · exact hnode.bind hrest
    · split
      · exact (failsWith_ok _).bind hrest
      · exact hnode.bind hrest
    · exact hnode.bind hrest

end

end Nested

/-- Markup read again at any depth fails only with a parse error. -/
theorem nestedAt_failsWith :
    ∀ (depth : Nat) (text : String) (block : Bool) (offset : Int),
      FailsWith Error.IsParse (r.nestedAt depth text block offset)
  | 0, _, _, _ => failsWith_ok _
  | depth + 1, text, block, offset => by
    unfold nestedAt
    dsimp only
    split
    · exact (r.blockFold_failsWith (nestedAt_failsWith depth) _ _ _ _ _).bind closeBlocks_failsWith
    · split
      · exact failsWith_ok _
      · exact r.inline_failsWith _

/-- Reading a document fails only with a parse error. -/
theorem parse_failsWith (text : String) : FailsWith Error.IsParse (r.parse text) :=
  (r.blockFold_failsWith (r.nestedAt_failsWith _) _ _ _ _ _).bind fun f =>
    (closeBlocks_failsWith f).bind fun _ => failsWith_ok _

end Reader

end Document

namespace FrontMatter

theorem loadFailure_not_isInclude (matter : String) (path : Option String) (e : Yaml.LoadError) :
    ¬ (loadFailure matter path e).IsInclude := by
  rintro ⟨message, specifier, p, h⟩
  cases e <;> cases h

/-- A front-matter block fails only as loading its YAML does, or by holding no mapping. -/
theorem dataOf_failsWith_of {P : Error → Prop} {load : String → Except Yaml.LoadError Value}
    {matter : String} {path : Option String} (hload : ∀ e, P (loadFailure matter path e))
    (hmap : ∀ detail, P (.frontmatter detail path none)) :
    FailsWith P (dataOf load matter path) := by
  unfold dataOf
  split
  · exact failsWith_ok _
  · split
    · exact failsWith_error (hload _)
    · exact failsWith_ok _
    · exact failsWith_ok _
    · exact failsWith_error (hmap _)

/-- Splitting off front matter fails only as its block does. -/
theorem split_failsWith_of {P : Error → Prop} {load : String → Except Yaml.LoadError Value}
    {path : Option String} (hload : ∀ matter e, P (loadFailure matter path e))
    (hmap : ∀ detail, P (.frontmatter detail path none)) (text : String) :
    FailsWith P (splitWith load text path) := by
  unfold splitWith
  dsimp only
  split
  · split
    · exact failsWith_ok _
    · split
      · exact failsWith_ok _
      · exact (dataOf_failsWith_of (hload _) hmap).bind fun _ => failsWith_ok _
  · exact failsWith_ok _

end FrontMatter

end Manuscript
