import Manuscript.Proofs.Markdown.TagLine
import Manuscript.Proofs.Include.Splice
import Manuscript.Proofs.Except

/-!
# The path a directive names

The Markdown reader is a parameter of the document reader. `ReadsDirective mk written path` says
what the directive line needs of it: it reads `<include>written</include>` as one paragraph whose
running text is the text `path` between the two tags as raw HTML. When it does so, the line is
read as a root holding one flow element `include`, whose only child is `path`, so the one site of
the tree names `path` (`directive_names_read_path`). This needs `path` to hold no `{` and the line
no line break: the tags open and close a text element, and a paragraph holding only that element
stands as a flow element (`Reader.parse_directive_line`).

The directive therefore names what the Markdown reader leaves of the written path. The CommonMark
reader leaves an inert path as it is (`commonmark_reads_inert_directive`). It takes a backslash
before punctuation out, so `<include>a\_b</include>` names `a_b`
(`escaped_directive_path_loses_backslash`).
-/

namespace Manuscript

open Manuscript.Text Manuscript.Markdown Manuscript.Document

namespace Include

/-- The tree of a document that is one directive naming `path`, on its first line. -/
def directiveLine (path : String) : Node :=
  { kind := .root, position := some ⟨1, 1, none⟩,
    children := [{ kind := .flowElement, name := some "include", children := [Node.text path],
                   position := some ⟨1, 1, none⟩ }] }

/-- The running text of a directive naming `path`: the path as text between the two tags as raw
HTML. -/
def directiveTokens (path : String) : Array InlineToken :=
  #[{ kind := .htmlInline, content := "<include>" }, { kind := .text, content := path },
    { kind := .htmlInline, content := "</include>" }]

/-- The Markdown reader `mk` reads the line `<include>written</include>` as one paragraph on the
first line whose running text is the text `path` between the two tags as raw HTML. -/
def ReadsDirective (mk : Markup) (written path : String) : Prop :=
  mk.blocks ("<include>" ++ written ++ "</include>") =
    [.paragraph (0, 1) false [.html "<include>", .text path, .html "</include>"]]

theorem sites_directiveLine (path : String) : sites (directiveLine path) = [⟨[0], path⟩] := by
  simp [directiveLine, sites_of_not_directive, sites_of_directive, isDirective, named, Site.under,
    Node.text]

end Include

namespace Document

/-! ## One line of text -/

section Lines

theorem normalizeLineBreaks_go_of_no_cr :
    ∀ l : List Char, (∀ c ∈ l, c ≠ '\r') → Reader.normalizeLineBreaks.go l = l
  | [], _ => by simp [Reader.normalizeLineBreaks.go]
  | c :: l, h => by
    have hc := h c (by simp)
    rw [Reader.normalizeLineBreaks.go.eq_3 c l (fun _ e _ => hc e) hc,
      normalizeLineBreaks_go_of_no_cr l (fun d hd => h d (by simp [hd]))]

theorem normalizeLineBreaks_of_no_cr {s : String} (h : ∀ c ∈ s.toList, c ≠ '\r') :
    Reader.normalizeLineBreaks s = s := by
  simp [Reader.normalizeLineBreaks, normalizeLineBreaks_go_of_no_cr _ h]

/-- A decidable property of every character of a list, checked by evaluating the list rather
than by deciding over every character. -/
theorem forall_mem_of_all {q : Char → Prop} [DecidablePred q] {l : List Char}
    (h : (l.all fun c => decide (q c)) = true) : ∀ c ∈ l, q c :=
  fun c hc => of_decide_eq_true (List.all_eq_true.1 h c hc)

theorem splitLines_of_no_lf {s : String} (h : '\n' ∉ s.toList) : splitLines s = [s] := by
  simp [splitLines, List.splitOn_eq_singleton h]

theorem dropWhile_of_head {p : Char → Bool} {l : List Char} (h : ∀ c ∈ l.head?, p c = false) :
    l.dropWhile p = l := by
  cases l <;> simp_all

theorem trimBlank_of_ends {s : String} {a b : Char} (hh : s.toList.head? = some a)
    (ha : isBlank a = false) (hl : s.toList.getLast? = some b) (hb : isBlank b = false) :
    trimBlank s = s := by
  rw [trimBlank, trimListBy, dropWhile_of_head (l := s.toList) (by simp [hh, ha]),
    dropWhile_of_head (l := s.toList.reverse) (by simp [hl, hb])]
  simp

theorem isModuleStatement_of_tag {raw : String} {cs : List Char} (h : raw.toList = '<' :: cs) :
    isModuleStatement raw = false := by
  have h0 : charAt? raw.toList.toArray 0 = some '<' := by simp [charAt?, h]
  simp [isModuleStatement, matchesAt, h0]

end Lines

/-! ## The directive as an element -/

namespace Reader

variable {r : Reader}

/-- A single node is finished as it is, unless it is text that holds an expression. -/
theorem finish_single {n : Node} (h : n.kind = .text → '{' ∉ (n.value.getD "").toList) :
    r.finish [n] = [n] := by
  by_cases hk : n.kind = .text
  · cases hc : r.components <;> simp [finish, hk, hc, h hk]
  · cases hc : r.components <;> simp [finish, hk, hc]

theorem openTagWhole_include : openTagWhole? "<include>" = some ⟨"include", "", false, 9⟩ := by
  have h := openTagAt_of_close (s := "<include>".toList.toArray) (n := "include".toList) (by decide)
    (by simp)
  rw [openTagWhole?]
  simp only [h, beq_self_eq_true, if_true, String.ofList_toList, List.size_toArray,
    String.length_toList]
  rfl

theorem inline_directive (hr : r.components = true) {path : String} (hbrace : '{' ∉ path.toList) :
    r.inline [.html "<include>", .text path, .html "</include>"] =
      .ok [{ kind := .textElement, name := some "include", children := [Node.text path] }] := by
  have hclose : closeTagWhole? "</include>" = some "include" := by decide +kernel
  have hnotclose : closeTagWhole? "<include>" = none := by decide +kernel
  simp [inline, inlineFold, hr, hclose, hnotclose, openTagWhole_include, Fold.enter, Fold.add,
    Fold.leave, Fold.innermost?, elementOf, closeInline, inlineNode, finish_single, Node.text,
    hbrace, attributesOf_blanks]

theorem promote_element {e : Node} (h : e.kind = .textElement) :
    promote [e] = some { e with kind := .flowElement } := by
  simp [promote, h]

theorem ofTokens_directive (path : String) :
    InlineNode.ofTokens (Include.directiveTokens path) =
      [.html "<include>", .text path, .html "</include>"] := by
  simp [Include.directiveTokens, InlineNode.ofTokens, InlineNode.build, InlineKind.nesting]

/-- A text in which the reader finds no block is read as a root without children. -/
theorem parse_of_blocks_nil {r : Reader} {text : String}
    (h : r.markup.blocks (normalizeLineBreaks text) = []) :
    let lines := (Text.splitLines (normalizeLineBreaks text)).length
    r.parse text = .ok { kind := .root, position := some ⟨1, lines, none⟩ } := by
  intro lines
  simp [Reader.parse, h, blockFold, closeBlocks, Fold.innermost?]
  rfl

/-! ### The line `<include>…</include>` -/

section Line

variable {written : String}

theorem directive_chars :
    ("<include>" ++ written ++ "</include>").toList =
      '<' :: ("include>".toList ++ written.toList ++ "</include>".toList) := by
  simp

theorem trimBlank_directive :
    trimBlank ("<include>" ++ written ++ "</include>") =
      "<include>" ++ written ++ "</include>" := by
  have hlast : ("<include>" ++ written ++ "</include>").toList.getLast? = some '>' := by
    rw [String.toList_append, List.getLast?_append]
    simp
  exact trimBlank_of_ends (by rw [directive_chars]; rfl) (by decide) hlast (by decide)

/-- A directive line whose running text is the two tags around the text `path` is read as the
root holding one directive that names `path`. -/
theorem parse_directive_line {mk : Markup} {path : String}
    (hline : ∀ c ∈ written.toList, c ≠ '\n' ∧ c ≠ '\r') (hbrace : '{' ∉ path.toList)
    (hread : Include.ReadsDirective mk written path) :
    (⟨mk, true⟩ : Reader).parse ("<include>" ++ written ++ "</include>") =
      .ok (Include.directiveLine path) := by
  have hchars : ∀ c ∈ ("<include>" ++ written ++ "</include>").toList, c ≠ '\n' ∧ c ≠ '\r' := by
    intro c hc
    simp only [String.toList_append, List.mem_append] at hc
    rcases hc with (hc | hc) | hc
    · revert c; exact forall_mem_of_all (by decide)
    · exact hline c hc
    · revert c; exact forall_mem_of_all (by decide)
  simp only [Reader.parse, normalizeLineBreaks_of_no_cr fun c hc => (hchars c hc).2,
    splitLines_of_no_lf fun hc => (hchars _ hc).1 rfl]
  rw [show (⟨mk, true⟩ : Reader).markup.blocks ("<include>" ++ written ++ "</include>") =
    _ from hread]
  simp [blockFold, blockNode, isModuleStatement_of_tag directive_chars, trimBlank_directive,
    closeBlocks, Fold.add, Fold.innermost?, positionOf]
  rw [inline_directive rfl hbrace]
  simp [promote_element, Include.directiveLine]

/-- The CommonMark reader reads a line without line breaks or NUL as one paragraph whose running
text is the whole line. -/
theorem read_directive (hplain : ∀ c ∈ written.toList, c ≠ '\n' ∧ c ≠ '\r' ∧ c ≠ '\x00') :
    Markdown.read (Dialect.ofPreset .commonmark) ("<include>" ++ written ++ "</include>") =
      [.paragraph (0, 1) false (InlineNode.ofTokens (inlineTokens
        ⟨Dialect.ofPreset .commonmark, none⟩ ("<include>" ++ written ++ "</include>")))] := by
  have hchars : ("<include>" ++ written ++ "</include>").toList.toArray.toList =
      "<include>".toList ++ written.toList ++ "</include>".toList := by
    simp
  have hline : ∀ c ∈ ("<include>" ++ written ++ "</include>").toList,
      c ≠ '\n' ∧ c ≠ '\r' ∧ c ≠ '\x00' := by
    intro c hc
    simp only [String.toList_append, List.mem_append] at hc
    rcases hc with (hc | hc) | hc
    · revert c; exact forall_mem_of_all (by decide)
    · exact hplain c hc
    · revert c; exact forall_mem_of_all (by decide)
  rw [read_of_tag_line rfl directive_chars hline (htmlBlockStart_include hchars),
    trimBlank_directive]

end Line

end Reader

end Document

/-! ## The path named -/

namespace Include

theorem isInert_plain {c : Char} (h : isInert c = true) :
    c ≠ '\n' ∧ c ≠ '\r' ∧ c ≠ '\x00' :=
  (isInert_ne h).2.2.2.2.2.2.2

theorem inlineTokens_between_tags {path : String} (hne : path ≠ "")
    (hinert : ∀ c ∈ path.toList, isInert c = true) :
    inlineTokens ⟨Dialect.ofPreset .commonmark, none⟩ ("<include>" ++ path ++ "</include>") =
      directiveTokens path := by
  have hp : parseInline ⟨Dialect.ofPreset .commonmark, none⟩
      ("<include>" ++ String.ofList path.toList ++ "</include>") = _ :=
    parseInline_between_tags rfl (by simpa using hne) hinert
  rw [String.ofList_toList] at hp
  simp [inlineTokens, hp, commonmark_has, joinText, directiveTokens]

/-- The CommonMark reader leaves an inert path between the two tags as it is. -/
theorem commonmark_reads_inert_directive {path : String} (hne : path ≠ "")
    (hinert : ∀ c ∈ path.toList, isInert c = true) :
    ReadsDirective (Dialect.ofPreset .commonmark).markup path path := by
  show Markdown.read _ _ = _
  rw [Document.Reader.read_directive fun c hc => isInert_plain (hinert c hc),
    inlineTokens_between_tags hne hinert, Document.Reader.ofTokens_directive]

/-- A directive line is read as one directive naming the text that the Markdown reader leaves
between its tags, when that text holds no expression and the line no line break. -/
theorem directive_names_read_path (mk : Markup) {written path : String}
    (hline : ∀ c ∈ written.toList, c ≠ '\n' ∧ c ≠ '\r') (hbrace : '{' ∉ path.toList)
    (hread : ReadsDirective mk written path) :
    (⟨mk, true⟩ : Reader).parse ("<include>" ++ written ++ "</include>") =
        .ok (directiveLine path) ∧
      sites (directiveLine path) = [⟨[0], path⟩] :=
  ⟨Document.Reader.parse_directive_line hline hbrace hread, sites_directiveLine path⟩

theorem directive_names_chapter_path :
    (∀ c ∈ "./chapters/intro-1.mdx".toList, c ≠ '\n' ∧ c ≠ '\r') ∧
      '{' ∉ "./chapters/intro-1.mdx".toList ∧
      ReadsDirective (Dialect.ofPreset .commonmark).markup "./chapters/intro-1.mdx"
        "./chapters/intro-1.mdx" ∧
      (⟨(Dialect.ofPreset .commonmark).markup, true⟩ : Reader).parse
          ("<include>" ++ "./chapters/intro-1.mdx" ++ "</include>") =
        .ok (directiveLine "./chapters/intro-1.mdx") ∧
      sites (directiveLine "./chapters/intro-1.mdx") = [⟨[0], "./chapters/intro-1.mdx"⟩] :=
  have hline : ∀ c ∈ "./chapters/intro-1.mdx".toList, c ≠ '\n' ∧ c ≠ '\r' :=
    Document.forall_mem_of_all (by decide)
  have hbrace : '{' ∉ "./chapters/intro-1.mdx".toList := by decide
  have hread := @commonmark_reads_inert_directive "./chapters/intro-1.mdx" (by decide)
    (Document.forall_mem_of_all (by decide))
  ⟨hline, hbrace, hread, directive_names_read_path _ hline hbrace hread⟩

/-- The CommonMark reader takes the backslash out of `a\_b`, and any Markdown reader that does
makes the directive name `a_b`, not the path as written. -/
theorem escaped_directive_path_loses_backslash :
    ReadsDirective (Dialect.ofPreset .commonmark).markup "a\\_b" "a_b" ∧
      ∀ mk : Markup, ReadsDirective mk "a\\_b" "a_b" →
        (⟨mk, true⟩ : Reader).parse "<include>a\\_b</include>" = .ok (directiveLine "a_b") ∧
          specifiers (directiveLine "a_b") = ["a_b"] := by
  have htoks : inlineTokens ⟨Dialect.ofPreset .commonmark, none⟩
      ("<include>" ++ "a\\_b" ++ "</include>") = directiveTokens "a_b" := by
    decide +kernel
  refine ⟨?_, fun mk hread => ?_⟩
  · show Markdown.read _ _ = _
    rw [Document.Reader.read_directive (Document.forall_mem_of_all (by decide)), htoks,
      Document.Reader.ofTokens_directive]
  · have hparse := Document.Reader.parse_directive_line (Document.forall_mem_of_all (by decide))
      (by decide) hread
    rw [show "<include>" ++ "a\\_b" ++ "</include>" = "<include>a\\_b</include>" by decide]
      at hparse
    exact ⟨hparse, by simp [specifiers, sites_directiveLine]⟩

end Include

end Manuscript
