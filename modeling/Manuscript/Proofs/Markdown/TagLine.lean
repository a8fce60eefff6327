import Manuscript.Proofs.Markdown.InertText

/-!
# A line that starts with a tag

A document of one line that starts with `<`, holds no line break and opens no HTML block is
one paragraph (`read_of_tag_line`). The scan of lines measures it as a single line
(`BlockState.init_of_line`), every block rule before the paragraph rule declines it
(`firstRule_of_tag`), and the paragraph rule takes the whole line, which is then read as
running text. A directive `<include>…</include>` opens no HTML block, as `include` is not a
block tag name (`htmlBlockStart_include`).
-/

namespace Manuscript.Markdown

open Manuscript.Text Manuscript.Document

namespace LineScan

/-- The marks of a scan once the line it was measuring has ended at `len`. -/
def ended (ls : LineScan) (len : Nat) : LineScan :=
  { bMarks := ls.bMarks.push ls.start, eMarks := ls.eMarks.push len,
    tShift := ls.tShift.push ls.indent, sCount := ls.sCount.push ls.offset,
    start := len + 1 }

variable {len : Nat} {ls : LineScan} {c : Char} {pos : Nat}

theorem step_inside (hb : ls.indentFound = true ∨ isSpaceOrTab c = false) (hc : c ≠ '\n')
    (hpos : pos + 1 ≠ len) : step len ls (c, pos) = { ls with indentFound := true } := by
  rcases hb with hb | hb <;> simp [step, hb, hc, hpos]

theorem step_last (hb : ls.indentFound = true ∨ isSpaceOrTab c = false) (hc : c ≠ '\n')
    (hpos : pos + 1 = len) : step len ls (c, pos) = ls.ended len := by
  rcases hb with hb | hb <;> simp [step, hb, hc, hpos, ended]

/-- A line without line feeds, once its first character is not blank, is measured to its end. -/
theorem foldl_step_line : ∀ (l : List Char) (k : Nat) (ls : LineScan),
    (ls.indentFound = true ∨ ∀ c ∈ l.head?, isSpaceOrTab c = false) →
    (∀ c ∈ l, c ≠ '\n') →
    l ≠ [] → k + l.length = len → (l.zipIdx k).foldl (step len) ls = ls.ended len
  | [], _, _, _, _, hne, _ => absurd rfl hne
  | [c], k, ls, hb, hn, _, hk => by
    simp only [List.zipIdx_cons, List.zipIdx_nil, List.foldl_cons, List.foldl_nil]
    exact step_last (by simpa using hb) (hn c (by simp)) (by simpa using hk)
  | c :: d :: l, k, ls, hb, hn, _, hk => by
    rw [List.zipIdx_cons, List.foldl_cons,
      step_inside (by simpa using hb) (hn c (by simp)) (by simp at hk; omega)]
    exact (foldl_step_line (d :: l) (k + 1) _ (.inl rfl) (fun e he => hn e (by simp_all))
      (by simp) (by simp at hk ⊢; omega))

end LineScan

namespace BlockState

/-- A source of one line, without line feeds and starting with a character that is not blank,
has one line, from its start to its end, with no indent. -/
theorem init_of_line {src : Array Char} {c : Char} {cs : List Char} (h : src.toList = c :: cs)
    (hc : isSpaceOrTab c = false) (hn : ∀ d ∈ src.toList, d ≠ '\n') :
    init src =
      { src, bMarks := #[0, src.size], eMarks := #[src.size, src.size], tShift := #[0, 0],
        sCount := #[0, 0], bsCount := #[0, 0], lineMax := 1 } := by
  have hfold :
      src.toList.zipIdx.foldl (LineScan.step src.size) {} = ({} : LineScan).ended src.size := by
    rw [h]
    exact LineScan.foldl_step_line (c :: cs) 0 {} (.inr (by simpa using hc)) (by rwa [← h])
      (by simp) (by simp [← Array.length_toList, h])
  simp [init, hfold, LineScan.ended]
  rfl

end BlockState

section Rules

variable {ctx : BlockContext} {ops : BlockOps} {st : BlockState} {l e : Nat} {silent : Bool}
  (terminators : List Probe)

theorem codeRule_of_not_code (hcode : ctx.isCodeBlock st l = false) :
    codeRule ctx ops st l e silent = (false, st) := by
  simp [codeRule, hcode]

variable (hcode : ctx.isCodeBlock st l = false) (hlt : st.at? (st.first l) = some '<')
include hcode hlt

theorem fenceRule_of_tag : fenceRule ctx ops st l e silent = (false, st) := by
  simp [fenceRule, hcode, hlt]

theorem blockquoteRule_of_tag : blockquoteRule terminators ctx ops st l e silent = (false, st) := by
  simp [blockquoteRule, hcode, hlt]

theorem hrRule_of_tag : hrRule ctx ops st l e silent = (false, st) := by
  simp [hrRule, hcode, hlt]

theorem listRule_of_tag : listRule terminators ctx ops st l e silent = (false, st) := by
  have hord : orderedMarkerEnd st l = none := by
    simp [orderedMarkerEnd, hlt, isAsciiDigit]
  have hbul : bulletMarkerEnd st l = none := by
    simp [bulletMarkerEnd, hlt]
  simp [listRule, listStart?, hcode, hord, hbul]

theorem referenceRule_of_tag : referenceRule terminators ctx ops st l e silent = (false, st) := by
  simp [referenceRule, hcode, hlt]

theorem headingRule_of_tag : headingRule ctx ops st l e silent = (false, st) := by
  simp [headingRule, hcode, hlt]

theorem htmlBlockRule_of_tag
    (hstart : htmlBlockStart (st.src.extract (st.first l) (st.em l)) = none) :
    htmlBlockRule ctx ops st l e silent = (false, st) := by
  simp [htmlBlockRule, hcode, hlt, hstart]

end Rules

/-- A setext heading needs a line after its text; on the last line it fails, leaving the
container marked as a paragraph. -/
theorem lheadingRule_of_last {ctx : BlockContext} {ops : BlockOps} {st : BlockState} {l e : Nat}
    {silent : Bool} (terminators : List Probe) (hcode : ctx.isCodeBlock st l = false)
    (he : e ≤ l + 1) :
    lheadingRule terminators ctx ops st l e silent =
      (false, { st with parentType := .paragraph }) := by
  have hscan : ∀ st' underline fuel,
      lheadingRule.scan terminators e st' underline (l + 1) fuel = none := by
    intro st' underline fuel
    cases fuel <;> simp [lheadingRule.scan, Nat.not_lt.2 he]
  simp [lheadingRule, hcode, hscan]

section Reading

variable {ctx : BlockContext} {ops : BlockOps} {st : BlockState} {l e : Nat}

theorem blockRules_commonmark (hd : ctx.dialect = Dialect.ofPreset .commonmark) :
    blockRules ctx =
      [codeRule, fenceRule, blockquoteRule (blockquoteChain ctx), hrRule, listRule (listChain ctx),
        referenceRule (paragraphChain ctx), htmlBlockRule, headingRule,
        lheadingRule (paragraphChain ctx), paragraphRule (paragraphChain ctx)] := by
  simp [blockRules, hd, commonmark_has]

/-- On the last line of a container, a line that starts with `<` and is neither indented code
nor the start of an HTML block is taken by the paragraph rule. -/
theorem firstRule_of_tag (ops : BlockOps) (hd : ctx.dialect = Dialect.ofPreset .commonmark)
    (hcode : ctx.isCodeBlock st l = false) (hlt : st.at? (st.first l) = some '<')
    (hstart : htmlBlockStart (st.src.extract (st.first l) (st.em l)) = none) (he : e ≤ l + 1) :
    firstRule ctx ops st l e (blockRules ctx) =
      paragraphRule (paragraphChain ctx) ctx ops
        { st with parentType := .paragraph } l e false := by
  rw [blockRules_commonmark hd]
  simp only [firstRule, codeRule_of_not_code hcode, fenceRule_of_tag hcode hlt,
    blockquoteRule_of_tag _ hcode hlt, hrRule_of_tag hcode hlt, listRule_of_tag _ hcode hlt,
    referenceRule_of_tag _ hcode hlt, htmlBlockRule_of_tag hcode hlt hstart,
    headingRule_of_tag hcode hlt,
    lheadingRule_of_last _ hcode he]
  rcases paragraphRule (paragraphChain ctx) ctx ops { st with parentType := .paragraph } l e
      false with
    ⟨_ | _, _⟩ <;> rfl

theorem skipEmptyLines_of_content {i : Nat} (h : st.isEmptyLine i = false) :
    st.skipEmptyLines i = i := by
  rw [BlockState.skipEmptyLines]
  simp [h]

theorem paragraphEnd_of_last (terminators : List Probe) (h : e ≤ l + 1) :
    paragraphEnd terminators st l e = l + 1 := by
  cases hf : e - l with
  | zero => simp [paragraphEnd, hf, paragraphEnd.go]
  | succ n => simp [paragraphEnd, hf, paragraphEnd.go, Nat.not_lt.2 h]

theorem getLines_one (i : Nat) :
    st.getLines i (i + 1) 0 false = st.stripIndent i 0 (st.em i) := by
  simp [BlockState.getLines]

theorem stripIndent_zero (i last : Nat) :
    st.stripIndent i 0 last = slice st.src (st.bm i) last := by
  have hgo : ∀ fuel,
      BlockState.stripIndent.go st i 0 last (st.bm i) (st.bm i) 0 fuel = (st.bm i, 0) := by
    intro fuel
    cases fuel <;> simp [BlockState.stripIndent.go]
  simp [BlockState.stripIndent, hgo]

end Reading

theorem BlockState.with_line_self {st : BlockState} {l : Nat} (h : st.line = l) :
    { st with line := l } = st := by
  cases st
  cases h
  rfl

/-- The paragraph rule on the last line of the document takes that line. -/
theorem paragraphRule_of_last {ctx : BlockContext} {ops : BlockOps} {st : BlockState} {l e : Nat}
    (terminators : List Probe) (hmax : st.lineMax ≤ l + 1) :
    paragraphRule terminators ctx ops st l e false =
      (true, { (((({ st with parentType := .paragraph, line := l + 1 } : BlockState).push
          { kind := .paragraphOpen, lines := some (l, l + 1) }).push
          { kind := .inline, lines := some (l, l + 1),
            content := trimBlank
              (({ st with parentType := .paragraph } : BlockState).getLines l (l + 1)
                st.blkIndent false) }).push
          { kind := .paragraphClose }) with parentType := st.parentType }) := by
  simp only [paragraphRule, paragraphEnd_of_last terminators hmax]

/-- A block that runs to the end of the lines is the last one read. -/
theorem readBlocksWith_go_last {ctx : BlockContext} {ops : BlockOps} {st st' : BlockState}
    {l e : Nat} (fuel : Nat) (hasEmpty : Bool) (hlt : l < e) (hline : st.line = l)
    (hcontent : st.isEmptyLine l = false) (hsc : (st.blkIndent : Int) ≤ st.sc l)
    (hlvl : st.level < ctx.dialect.maxNesting)
    (hr : firstRule ctx ops st l e (blockRules ctx) = (true, st')) (hend : st'.line = e) :
    readBlocksWith.go ctx ops e st l hasEmpty (fuel + 1) = { st' with tight := !hasEmpty } := by
  have hskip := skipEmptyLines_of_content hcontent
  simp only [readBlocksWith.go, hlt, if_true, hskip, BlockState.with_line_self hline,
    Nat.not_le.2 hlt, if_false, Int.not_lt.2 hsc, Nat.not_le.2 hlvl, hr, hend]
  cases fuel <;> simp [readBlocksWith.go]

theorem atDepth_tokenize_block (ctx : BlockContext) (n : Nat) :
    (BlockOps.atDepth ctx (n + 1)).tokenize = readBlocksWith ctx (BlockOps.atDepth ctx n) := rfl

namespace BlockState

variable {st : BlockState} {t : BlockToken}

@[simp] theorem push_tokens :
    (st.push t).tokens =
      st.tokens.push { t with level := if t.kind.nesting < 0 then st.level - 1 else st.level } := by
  simp only [push]
  split <;> rfl

@[simp] theorem push_level :
    (st.push t).level =
      if t.kind.nesting > 0 then st.level + 1
      else if t.kind.nesting < 0 then st.level - 1 else st.level := by
  simp only [push]
  split <;> split <;> simp_all; omega

@[simp] theorem push_references : (st.push t).references = st.references := by
  simp only [push]
  split <;> rfl

@[simp] theorem push_line : (st.push t).line = st.line := by
  simp only [push]
  split <;> rfl

end BlockState

/-- A source of one line that starts with a tag but not with an HTML block is read as one
paragraph. -/
theorem parseBlocks_of_tag_line {d : Dialect} (hd : d = Dialect.ofPreset .commonmark)
    {src : Array Char} {cs : List Char} (h : src.toList = '<' :: cs)
    (hn : ∀ c ∈ src.toList, c ≠ '\n')
    (hstart : htmlBlockStart src = none) :
    (parseBlocks ⟨d⟩ src).tokens =
      #[{ kind := .paragraphOpen, lines := some (0, 1) },
        { kind := .inline, level := 1, lines := some (0, 1),
          content := trimBlank (String.ofList src.toList) },
        { kind := .paragraphClose }] ∧
    (parseBlocks ⟨d⟩ src).references = none := by
  have hsize : 0 < src.size := by
    rw [← Array.length_toList, h]
    simp
  have hne : src.isEmpty = false := by
    cases src
    simp_all
  have hinit := BlockState.init_of_line h (by decide) hn
  have hd' : (⟨d⟩ : BlockContext).dialect = Dialect.ofPreset .commonmark := hd
  -- the one line starts with `<` at no indent: no code block, no blank line, no HTML block
  have hcode : BlockContext.isCodeBlock ⟨d⟩ (BlockState.init src) 0 = false := by
    simp [hinit, BlockContext.isCodeBlock, BlockState.sc]
  have hlt : (BlockState.init src).at? ((BlockState.init src).first 0) = some '<' := by
    simp [hinit, BlockState.at?, BlockState.first, BlockState.bm, BlockState.ts,
      ← Array.getElem?_toList, h]
  have hstart' : htmlBlockStart ((BlockState.init src).src.extract ((BlockState.init src).first 0)
      ((BlockState.init src).em 0)) = none := by
    simpa [hinit, BlockState.first, BlockState.bm, BlockState.ts, BlockState.em] using hstart
  have hcontent : (BlockState.init src).isEmptyLine 0 = false := by
    simp only [hinit, BlockState.isEmptyLine, BlockState.first, BlockState.bm, BlockState.ts,
      BlockState.em]
    simp [Nat.not_le.2 hsize]
  have hr := (firstRule_of_tag (BlockOps.atDepth ⟨d⟩ (d.maxNesting + 2)) hd' hcode hlt hstart'
    (Nat.le_refl 1)).trans (paragraphRule_of_last _ (by simp [hinit]))
  have hgo := readBlocksWith_go_last 1 false Nat.zero_lt_one
    (by simp [hinit]) hcontent (by simp [hinit, BlockState.sc]) (by simp [hinit, hd]; decide) hr
    (by simp)
  have hmax : (BlockState.init src).lineMax = 1 := by simp [hinit]
  simp only [parseBlocks, hne, Bool.false_eq_true, if_false, atDepth_tokenize_block, readBlocksWith,
    hmax]
  rw [show 1 - 0 + 1 = 1 + 1 from rfl, hgo]
  have hblk : (BlockState.init src).blkIndent = 0 := by simp [hinit]
  simp only [hblk, getLines_one, stripIndent_zero]
  simp [hinit, BlockState.bm, BlockState.em, slice, BlockKind.nesting]

theorem normalizeSource_go_of_plain :
    ∀ l : List Char, (∀ c ∈ l, c ≠ '\r' ∧ c ≠ '\x00') → normalizeSource.go l = l
  | [], _ => by simp [normalizeSource.go]
  | c :: l, h => by
    have hc := h c (by simp)
    rw [normalizeSource.go.eq_4 c l (fun _ e _ => hc.1 e) hc.1 hc.2,
      normalizeSource_go_of_plain l (fun d hd => h d (by simp [hd]))]

theorem normalizeSource_of_plain {s : String}
    (h : ∀ c ∈ s.toList, c ≠ '\r' ∧ c ≠ '\x00') :
    normalizeSource s = s := by
  simp [normalizeSource, normalizeSource_go_of_plain _ h]

/-- A line that starts with a tag but with no HTML block, and holds no line break or NUL, is
read as one paragraph of running text. -/
theorem read_of_tag_line {d : Dialect} (hd : d = Dialect.ofPreset .commonmark) {text : String}
    {cs : List Char} (h : text.toList = '<' :: cs)
    (hplain : ∀ c ∈ text.toList, c ≠ '\n' ∧ c ≠ '\r' ∧ c ≠ '\x00')
    (hstart : htmlBlockStart text.toList.toArray = none) :
    read d text = [.paragraph (0, 1) false
      (InlineNode.ofTokens (inlineTokens ⟨d, none⟩ (trimBlank text)))] := by
  have hnorm : normalizeSource text = text :=
    normalizeSource_of_plain fun c hc => ⟨(hplain c hc).2.1, (hplain c hc).2.2⟩
  have h' : text.toList.toArray.toList = '<' :: cs := by simpa using h
  obtain ⟨htoks, hrefs⟩ :=
    parseBlocks_of_tag_line hd h' (by simpa using fun c hc => (hplain c hc).1)
    hstart
  simp only [read, hnorm, htoks, hrefs]
  simp [BlockNode.ofTokens, BlockNode.build, BlockKind.nesting]

/-- Skipping stops at the latest before a character outside the class. -/
theorem skipWhile_le_of_stop {s : Array Char} {p : Char → Bool} {i j : Nat} {c : Char}
    (hij : i ≤ j) (hc : s[j]? = some c) (hp : p c = false) : skipWhile s p i ≤ j := by
  fun_induction skipWhile s p i with
  | case1 i hi hpi ih =>
    rcases Nat.lt_or_ge i j with hlt | hge
    · exact ih hlt
    · have : i = j := by omega
      subst this
      simp [hi] at hc
      simp [hc] at hpi
      simp [hpi] at hp
  | case2 => exact hij
  | case3 => exact hij

theorem htmlBlockStart_include {s : Array Char} {xs : List Char}
    (h : s.toList = "<include>".toList ++ xs ++ "</include>".toList) : htmlBlockStart s = none := by
  have hopen : "<include>".toList = ['<', 'i', 'n', 'c', 'l', 'u', 'd', 'e', '>'] := by simp
  rw [hopen] at h
  have h0 : s.toList.drop 0 =
      '<' :: 'i' :: (['n', 'c', 'l', 'u', 'd', 'e'] ++ '>' :: (xs ++ "</include>".toList)) := by
    simp [h]
  have c0 : charAt? s 0 = some '<' := getElem?_of_drop h0
  have c1 : charAt? s 1 = some 'i' := getElem?_of_drop (drop_of_drop (show _ = ['<'] ++ _ from h0))
  have c2 : charAt? s 2 = some 'n' :=
    getElem?_of_drop (drop_of_drop (show _ = ['<', 'i'] ++ _ from h0))
  have hend : openTagEnd s 0 = some 9 := openTagEnd_of_name h0 (by decide) (List.all_eq_true.1 rfl)
  have hsize : s.size = xs.length + 19 := by
    rw [← Array.length_toList, h]
    simp
  have hclose : "</include>".toList = ['<', '/', 'i', 'n', 'c', 'l', 'u', 'd', 'e', '>'] := by simp
  have hdrop :
      s.toList.drop (9 + xs.length) = ['<', '/', 'i', 'n', 'c', 'l', 'u', 'd', 'e', '>'] := by
    rw [h, hclose]
    exact List.drop_left' (by simp; omega)
  have hlast : s[9 + xs.length]? = some '<' := getElem?_of_drop hdrop
  have hskip : skipWhile s isBlank 9 ≠ s.size := by
    have := skipWhile_le_of_stop (p := isBlank) (Nat.le_add_right 9 xs.length) hlast (by decide)
    omega
  simp [htmlBlockStart, startsWithName, matchesFolded, matchesAt, c0, c1, c2, foldsTo,
    blockTagNames,
    hend, hskip]

end Manuscript.Markdown
