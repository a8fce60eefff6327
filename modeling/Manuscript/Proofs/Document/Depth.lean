import Mathlib.Data.List.Forall2
import Manuscript.Document.Reader

/-!
# Reading settles within its bounds

Reading runs two loops with a bound each: the passes over the tags of a raw HTML block
(`Reader.htmlBlock.loop`, at most one pass more than the block has characters), and the levels
of markup read again (`Reader.nestedAt`, at most one level more than the document has
characters). Neither bound is ever reached.

* Every pass over a raw HTML block that goes on passes over a tag, and a tag is never empty
  (`openTagAt_stop`, `closeTagAt_stop`), so more passes change nothing
  (`htmlBlock_loop_fuel`).
* Markup is read again only from after a tag of the block that held it, so it is lighter than
  that block by the weight of a tag (`htmlStep_congr`). The weight of a text counts a tab three
  times (`weight`): the Markdown reader may write a tab as up to three spaces when it takes the
  lines of a raw HTML block out of a block quote or a list item. When the block reader takes its
  raw HTML blocks out of the lines of the text it reads in this way (`HtmlFromLines`), every
  level of reading again is lighter by three than the one holding it, and a deeper bound
  changes nothing (`Reader.reading_settles`).

The block reader is a parameter here (`Reader.parseVia`); the reader of documents is the one
with its own block reader (`Reader.parse_eq_parseVia`).
-/

namespace Manuscript

namespace Markdown

mutual

/-- The contents of the raw HTML blocks of a block, inside block quotes and lists at any
depth. -/
def BlockNode.htmlContents : BlockNode → List String
  | .html _ content => [content]
  | .blockquote _ cs => BlockNode.htmlContentsOf cs
  | .list _ _ _ items => BlockNode.htmlContentsOf items
  | .item _ cs => BlockNode.htmlContentsOf cs
  | _ => []

/-- The contents of the raw HTML blocks of a run of blocks, in order. -/
def BlockNode.htmlContentsOf : List BlockNode → List String
  | [] => []
  | b :: bs => b.htmlContents ++ BlockNode.htmlContentsOf bs

end

end Markdown

namespace Document

open Manuscript.Text Manuscript.Markdown

/-! ### The weight of a text -/

/-- The weight of a text: its length, with every tab counted three times. -/
def weight (cs : List Char) : Nat := cs.length + 2 * cs.count '\t'

@[simp] theorem weight_nil : weight [] = 0 := rfl

@[simp] theorem weight_cons (c : Char) (l : List Char) :
    weight (c :: l) = weight l + (if c = '\t' then 3 else 1) := by
  by_cases h : c = '\t' <;> simp [weight, h] <;> omega

theorem weight_append (l₁ l₂ : List Char) : weight (l₁ ++ l₂) = weight l₁ + weight l₂ := by
  simp only [weight, List.length_append, List.count_append]
  omega

@[simp] theorem weight_replicate_space (k : Nat) : weight (List.replicate k ' ') = k := by
  induction k with
  | zero => rfl
  | succ k ih => simp [List.replicate_succ, ih]

theorem length_le_weight (l : List Char) : l.length ≤ weight l := by
  unfold weight
  omega

theorem weight_le_three_mul_length (l : List Char) : weight l ≤ 3 * l.length := by
  have := List.count_le_length (a := '\t') (l := l)
  unfold weight
  omega

theorem weight_le_of_sublist {l₁ l₂ : List Char} (h : l₁.Sublist l₂) : weight l₁ ≤ weight l₂ := by
  have hlen := h.length_le
  have hcount := h.count_le '\t'
  unfold weight
  omega

/-- What lies after the first `a` characters weighs at least `a` less than the whole. -/
theorem weight_drop_add {l : List Char} {a : Nat} (h : a ≤ l.length) :
    weight (l.drop a) + a ≤ weight l := by
  have hsplit := weight_append (l.take a) (l.drop a)
  rw [List.take_append_drop] at hsplit
  have := length_le_weight (l.take a)
  rw [List.length_take, Nat.min_eq_left h] at this
  omega

theorem toList_sliceText (s : Array Char) (a b : Nat) :
    (sliceText s a b).toList = (s.toList.drop a).take (b - a) := by
  simp [sliceText, Array.toList_extract, List.extract_eq_take_drop]

/-! ### Reading takes characters away -/

theorem trimListBy_sublist (p : Char → Bool) (cs : List Char) : (trimListBy p cs).Sublist cs := by
  unfold trimListBy
  have h := (List.dropWhile_sublist (l := (cs.dropWhile p).reverse) p).reverse
  rw [List.reverse_reverse] at h
  exact h.trans (List.dropWhile_sublist p)

theorem trimBlank_sublist (s : String) : (trimBlank s).toList.Sublist s.toList := by
  simpa [trimBlank] using trimListBy_sublist isBlank s.toList

theorem trimChars_sublist (s : String) (set : List Char) :
    (trimChars s set).toList.Sublist s.toList := by
  simpa [trimChars] using trimListBy_sublist _ s.toList

/-- Lines joined again after each lost characters are a sublist of the lines joined. -/
theorem intercalate_sublist (sep : List Char) :
    ∀ {xs ys : List (List Char)}, List.Forall₂ List.Sublist xs ys →
      (sep.intercalate xs).Sublist (sep.intercalate ys)
  | [], [], .nil => List.Sublist.refl _
  | [x], [y], .cons h .nil => by simpa using h
  | x :: x' :: xs, y :: y' :: ys, .cons h (.cons h' hs) => by
    rw [List.intercalate_cons_cons, List.intercalate_cons_cons]
    exact (h.append (List.Sublist.refl sep)).append (intercalate_sublist sep (.cons h' hs))

/-- Lines that each lose characters at most, joined as they were split, lose characters at
most. -/
theorem joined_lines_sublist (s : String) (g : List Char → List Char) (hg : ∀ l, (g l).Sublist l) :
    ("\n".intercalate ((s.toList.splitOn '\n').map fun l => String.ofList (g l))).toList.Sublist
      s.toList := by
  have hsplit : ['\n'].intercalate (s.toList.splitOn '\n') = s.toList :=
    List.intercalate_splitOn '\n'
  rw [String.toList_intercalate]
  conv => rhs; rw [← hsplit]
  apply intercalate_sublist
  rw [List.map_map, List.forall₂_map_left_iff]
  exact List.forall₂_same.2 fun l _ => by simpa using hg l

theorem strip_sublist (m l : List Char) :
    (if m.isPrefixOf l then l.drop m.length else l).Sublist l := by
  split
  · exact List.drop_sublist _ _
  · exact List.Sublist.refl _

/-- Taking the common margin away only takes characters away. -/
theorem removeMargin_sublist (s : String) : (removeMargin s).toList.Sublist s.toList := by
  have hblank : ∀ l : List Char, (if !l.isEmpty && l.all isIndentChar then [] else l).Sublist l :=
    fun l => by split <;> simp
  unfold removeMargin
  dsimp only
  split
  · simp only [List.map_map, Function.comp_def]
    exact joined_lines_sublist s _ fun l => (strip_sublist _ _).trans (hblank l)
  · simp only [List.map_map, Function.comp_def]
    exact joined_lines_sublist s _ hblank

/-- `c` is made from `t` by taking characters away and writing some tabs as at most three
spaces: how the Markdown reader takes the lines of a raw HTML block out of a text, without the
markers of the block quotes and list items that hold it. -/
inductive Narrows : List Char → List Char → Prop
  | nil : Narrows [] []
  | keep (c : Char) {cs ts : List Char} : Narrows cs ts → Narrows (c :: cs) (c :: ts)
  | drop (c : Char) {cs ts : List Char} : Narrows cs ts → Narrows cs (c :: ts)
  | tab (k : Nat) {cs ts : List Char} :
      k ≤ 3 → Narrows cs ts → Narrows (List.replicate k ' ' ++ cs) ('\t' :: ts)

theorem Narrows.refl : ∀ l : List Char, Narrows l l
  | [] => .nil
  | c :: l => .keep c (Narrows.refl l)

theorem Narrows.weight_le {cs ts : List Char} (h : Narrows cs ts) : weight cs ≤ weight ts := by
  induction h with
  | nil => exact Nat.le_refl 0
  | keep c _ ih =>
    simp only [weight_cons]
    omega
  | drop c _ ih =>
    simp only [weight_cons]
    split <;> omega
  | tab k hk _ ih =>
    -- at most three spaces for a tab, which weighs three
    simp only [weight_append, weight_replicate_space, weight_cons, if_true]
    omega

/-- A Markdown block reader that takes its raw HTML blocks, inside block quotes and lists at
any depth, out of the lines of the text it reads (`Narrows`). -/
def HtmlFromLines (blocks : String → List BlockNode) : Prop :=
  ∀ text, ∀ c ∈ BlockNode.htmlContentsOf (blocks text), Narrows c.toList text.toList

/-! ### Tags are never empty -/

theorem openTagAt_stop {s : Array Char} {i : Nat} {tag : OpenTag} (h : openTagAt s i = some tag) :
    i + 3 ≤ tag.stop ∧ tag.stop ≤ s.size := by
  unfold openTagAt at h
  dsimp only at h
  have hp := le_skipWhile s isNameChar (i + 2)
  have hg := le_skipWhile s (fun c => c != '<' && c != '>') (skipWhile s isNameChar (i + 2))
  split at h
  · split at h
    · next c hc =>
      have hsize : skipWhile s isNameChar (i + 2) < s.size :=
        (Array.getElem?_eq_some_iff.1 hc).1
      split at h
      · split at h
        · next hgt =>
          cases h
          have hlt : nextAngle s (skipWhile s isNameChar (i + 2)) < s.size := by
            simp only [beq_iff_eq] at hgt
            exact (Array.getElem?_eq_some_iff.1 hgt).1
          exact ⟨by simp only [nextAngle] at hlt hg ⊢; omega, hlt⟩
        · cases h
      · split at h
        · cases h
          exact ⟨by dsimp only; omega, hsize⟩
        · split at h
          · next hslash =>
            cases h
            have hlt : skipWhile s isNameChar (i + 2) + 1 < s.size := by
              simp only [Bool.and_eq_true, beq_iff_eq] at hslash
              exact (Array.getElem?_eq_some_iff.1 hslash.2).1
            exact ⟨by dsimp only; omega, by dsimp only; omega⟩
          · cases h
    · cases h
  · cases h

theorem closeTagAt_stop {s : Array Char} {i stop : Nat} {name : String}
    (h : closeTagAt s i = some (name, stop)) : i + 4 ≤ stop := by
  unfold closeTagAt at h
  dsimp only at h
  have hp := le_skipWhile s isNameChar (i + 3)
  have hq := le_skipWhile s isBlank (skipWhile s isNameChar (i + 3))
  split at h
  · split at h
    · cases h
      omega
    · cases h
  · cases h

/-! ### One pass over the tags of a raw HTML block -/

section Pass

variable (nested : Reader.Nested) (content : String) (pos : Position) (s : Array Char)
  (lineOffset : Int) (line : Option Int)

/-- One pass of the tag loop of a raw HTML block at index `i`, with `next` for the passes after
it. -/
def htmlStep (next : Nat → Bool → Fold → Except Error Fold) (i : Nat) (consumed : Bool)
    (f : Fold) : Except Error Fold :=
  if i < s.size then
    match closeTagAt s i with
    | some (name, stop) =>
      match f.innermost? with
      | none => .error (unexpectedClose name line)
      | some e =>
        if e.name != some name then .error (mismatchedClose name (e.name.getD "None") line)
        else next (skipWhile s isBlank stop) true (f.leave id (some pos.endLine))
    | none =>
      match openTagAt s i with
      | none =>
        if !consumed then
          .ok (f.add { kind := .html, value := some (trimCharsRight content ['\n']),
                       position := some pos })
        else do
          let ns ← nested (sliceText s i s.size) true lineOffset
          return f.addAll ns
      | some tag =>
        let e := { elementOf .flowElement tag with
                   position := some ⟨pos.startLine, pos.endLine, none⟩ }
        if tag.selfClosing then next (skipWhile s isBlank tag.stop) true (f.add e)
        else
          let rest := s.extract tag.stop s.size
          match closingSpan rest tag.name with
          | none => next (skipWhile s isBlank tag.stop) true (f.enter e)
          | some (a, b) => do
            let inner := sliceText rest 0 a
            let children ← nested inner ((trimBlank inner).contains '\n') lineOffset
            next (skipWhile s isBlank (tag.stop + b)) true (f.add { e with children })
  else .ok f

theorem htmlBlock_loop_succ (fuel i : Nat) (consumed : Bool) (f : Fold) :
    Reader.htmlBlock.loop nested content pos s lineOffset line (fuel + 1) i consumed f =
      htmlStep nested content pos s lineOffset line
        (Reader.htmlBlock.loop nested content pos s lineOffset line fuel) i consumed f :=
  rfl

end Pass

/-- Two readers of nested markup that agree on every text that weighs at least a tag less than
`m`. -/
def AgreeBelow (m : Nat) (n₁ n₂ : Reader.Nested) : Prop :=
  ∀ text block offset, weight text.toList + 3 ≤ m → n₁ text block offset = n₂ text block offset

theorem weight_rest_add {s : Array Char} {i : Nat} (hi : i ≤ s.size) :
    weight (sliceText s i s.size).toList + i ≤ weight s.toList := by
  rw [toList_sliceText, List.take_of_length_le (by simp)]
  exact weight_drop_add (by simpa using hi)

theorem weight_inner_add {s : Array Char} {j : Nat} (hj : j ≤ s.size) (a : Nat) :
    weight (sliceText (s.extract j s.size) 0 a).toList + j ≤ weight s.toList := by
  have hsub : (sliceText (s.extract j s.size) 0 a).toList.Sublist (s.toList.drop j) := by
    rw [toList_sliceText, List.drop_zero, Array.toList_extract, List.extract_eq_take_drop]
    exact (List.take_sublist _ _).trans (List.take_sublist _ _)
  have := weight_drop_add (l := s.toList) (a := j) (by simpa using hj)
  have := weight_le_of_sublist hsub
  omega

/-- A pass reads markup again only after a tag it has passed over, so two passes agree when their
readers of nested markup agree on lighter texts and their next passes agree after a tag. -/
theorem htmlStep_congr {n₁ n₂ : Reader.Nested} {content : String} {pos : Position}
    {s : Array Char} {lineOffset : Int} {line : Option Int}
    {k₁ k₂ : Nat → Bool → Fold → Except Error Fold} {i : Nat} {consumed : Bool} {f : Fold}
    (hn : ∀ text block offset, weight text.toList + (if consumed then i else 3) ≤ weight s.toList →
      n₁ text block offset = n₂ text block offset)
    (hk : ∀ j g, i + 3 ≤ j → k₁ j true g = k₂ j true g) :
    htmlStep n₁ content pos s lineOffset line k₁ i consumed f =
      htmlStep n₂ content pos s lineOffset line k₂ i consumed f := by
  unfold htmlStep
  split
  · next hi =>
    split
    · next name stop hclose =>
      have hstop := closeTagAt_stop hclose
      have hskip := le_skipWhile s isBlank stop
      split
      · rfl
      · split
        · rfl
        · exact hk _ _ (by omega)
    · split
      · split
        · rfl
        · next hconsumed =>
          have hrest := weight_rest_add (s := s) (Nat.le_of_lt hi)
          simp only [Bool.not_eq_true', Bool.not_eq_false] at hconsumed
          rw [hn _ _ _ (by simp only [hconsumed, if_true]; omega)]
      · next tag hopen =>
        have ⟨hstart, hstop⟩ := openTagAt_stop hopen
        have hskip := le_skipWhile s isBlank tag.stop
        dsimp only
        split
        · exact hk _ _ (by omega)
        · split
          · exact hk _ _ (by omega)
          · next a b _ =>
            have hinner := weight_inner_add hstop a
            rw [hn _ _ _ (by split <;> omega)]
            congr 1
            funext children
            have hskip' := le_skipWhile s isBlank (tag.stop + b)
            exact hk _ _ (by omega)
  · rfl

/-- Passes beyond the length of the block change nothing: every pass that goes on passes over a
tag. -/
theorem htmlBlock_loop_fuel (nested : Reader.Nested) (content : String) (pos : Position)
    (s : Array Char) (lineOffset : Int) (line : Option Int) :
    ∀ (fuel extra i : Nat) (consumed : Bool) (f : Fold), s.size < i + fuel →
      Reader.htmlBlock.loop nested content pos s lineOffset line (fuel + extra) i consumed f =
        Reader.htmlBlock.loop nested content pos s lineOffset line fuel i consumed f
  | 0, extra, i, _, f, hfuel => by
    cases extra with
    | zero => rfl
    | succ extra =>
      rw [Nat.zero_add, htmlBlock_loop_succ]
      unfold htmlStep
      rw [if_neg (by omega)]
      rfl
  | fuel + 1, extra, i, consumed, f, hfuel => by
    rw [Nat.add_right_comm, htmlBlock_loop_succ, htmlBlock_loop_succ]
    exact htmlStep_congr (fun _ _ _ _ => rfl) fun j g hj =>
      htmlBlock_loop_fuel nested content pos s lineOffset line fuel extra j true g (by omega)

/-- The tag loop reads markup again only below the weight of its block: from a pass that starts
after a tag, loops whose readers of nested markup agree below that weight agree. -/
theorem htmlBlock_loop_congr {n₁ n₂ : Reader.Nested} {content : String} {pos : Position}
    {s : Array Char} {lineOffset : Int} {line : Option Int}
    (hn : AgreeBelow (weight s.toList) n₁ n₂) :
    ∀ (fuel i : Nat) (consumed : Bool) (f : Fold), (consumed = true → 3 ≤ i) →
      Reader.htmlBlock.loop n₁ content pos s lineOffset line fuel i consumed f =
        Reader.htmlBlock.loop n₂ content pos s lineOffset line fuel i consumed f
  | 0, _, _, _, _ => rfl
  | fuel + 1, i, consumed, f, hc => by
    rw [htmlBlock_loop_succ, htmlBlock_loop_succ]
    refine htmlStep_congr (fun text block offset hw => hn text block offset ?_) fun j g hj =>
      htmlBlock_loop_congr hn fuel j true g fun _ => by omega
    cases consumed
    · simpa using hw
    · have := hc rfl
      simp only [if_true] at hw
      omega

/-- Reading a raw HTML block depends on the reader of nested markup only below the weight of the
block. -/
theorem htmlBlock_congr {n₁ n₂ : Reader.Nested} {content : String} (pos : Position) (f : Fold)
    (hn : AgreeBelow (weight content.toList) n₁ n₂) :
    Reader.htmlBlock n₁ content pos f = Reader.htmlBlock n₂ content pos f := by
  have hs : weight (trimBlank content).toList.toArray.toList ≤ weight content.toList := by
    simpa using weight_le_of_sublist (trimBlank_sublist content)
  exact htmlBlock_loop_congr (fun text block offset hw => hn text block offset (by omega)) _ _ _ _
    (by simp)

theorem AgreeBelow.mono {m m' : Nat} {n₁ n₂ : Reader.Nested} (h : AgreeBelow m n₁ n₂)
    (hm : m' ≤ m) : AgreeBelow m' n₁ n₂ :=
  fun text block offset hw => h text block offset (by omega)

namespace Reader

variable (r : Reader)

/-! ### Folding blocks reads again only below their raw HTML blocks -/

section Congr

variable {n₁ n₂ : Nested} {m : Nat}

theorem htmlContents_of_mem {b : BlockNode} {bs : List BlockNode} {c : String}
    (h : c ∈ b.htmlContents) : c ∈ BlockNode.htmlContentsOf (b :: bs) := by
  simp [BlockNode.htmlContentsOf, h]

theorem htmlContentsOf_of_mem {b : BlockNode} {bs : List BlockNode} {c : String}
    (h : c ∈ BlockNode.htmlContentsOf bs) : c ∈ BlockNode.htmlContentsOf (b :: bs) := by
  simp [BlockNode.htmlContentsOf, h]

mutual

theorem blockNode_congr (hn : AgreeBelow m n₁ n₂) (lines : Array String) (offset : Int) :
    ∀ b : BlockNode, (∀ c ∈ b.htmlContents, weight c.toList ≤ m) →
      r.blockNode n₁ lines offset b = r.blockNode n₂ lines offset b
  | .paragraph .., _ => rfl
  | .heading .., _ => rfl
  | .blockquote _ cs, hc => by
    unfold blockNode
    rw [blockFold_congr hn lines offset false cs {} hc]
  | .list _ _ _ items, hc => by
    unfold blockNode
    rw [blockList_congr hn lines offset items hc]
  | .item _ cs, hc => by
    unfold blockNode
    rw [blockFold_congr hn lines offset false cs {} hc]
  | .code .., _ => rfl
  | .rule _, _ => rfl
  | .html .., _ => rfl
  | .table .., _ => rfl

theorem blockList_congr (hn : AgreeBelow m n₁ n₂) (lines : Array String) (offset : Int) :
    ∀ bs : List BlockNode, (∀ c ∈ BlockNode.htmlContentsOf bs, weight c.toList ≤ m) →
      r.blockList n₁ lines offset bs = r.blockList n₂ lines offset bs
  | [], _ => rfl
  | b :: bs, hc => by
    unfold blockList
    rw [blockNode_congr hn lines offset b fun c h => hc c (htmlContents_of_mem h),
      blockList_congr hn lines offset bs fun c h => hc c (htmlContentsOf_of_mem h)]

theorem blockFold_congr (hn : AgreeBelow m n₁ n₂) (lines : Array String) (offset : Int)
    (topLevel : Bool) :
    ∀ (bs : List BlockNode) (f : Fold), (∀ c ∈ BlockNode.htmlContentsOf bs, weight c.toList ≤ m) →
      r.blockFold n₁ lines offset topLevel bs f = r.blockFold n₂ lines offset topLevel bs f
  | [], _, _ => rfl
  | b :: rest, f, hc => by
    -- the block is read alike by both, and so is the rest after it
    have hb : ∀ c ∈ b.htmlContents, weight c.toList ≤ m := fun c h => hc c (htmlContents_of_mem h)
    have hrest : ∀ g, r.blockFold n₁ lines offset topLevel rest g =
        r.blockFold n₂ lines offset topLevel rest g :=
      fun g => blockFold_congr hn lines offset topLevel rest g
        fun c h => hc c (htmlContentsOf_of_mem h)
    have hnode := blockNode_congr hn lines offset b hb
    unfold blockFold
    dsimp only
    split
    · next ls content =>
      split
      · have hw : weight content.toList ≤ m := hb content (by simp [BlockNode.htmlContents])
        rw [htmlBlock_congr _ _ (hn.mono hw)]
        exact congrArg _ (funext hrest)
      · rw [hnode]
        exact congrArg _ (funext hrest)
    · split
      · exact congrArg _ (funext hrest)
      · rw [hnode]
        exact congrArg _ (funext hrest)
    · rw [hnode]
      exact congrArg _ (funext hrest)

end

end Congr

/-! ### Reading with a block reader -/

/-- Nested markup read with the block reader `blocks`, at most `depth` levels deep. -/
def nestedVia (blocks : String → List BlockNode) : Nat → Nested
  | 0 => fun _ _ _ => .ok []
  | depth + 1 => fun text block offset =>
    if block then
      let fragment := trimChars (removeMargin text) ['\n']
      let lines := (splitLines fragment).toArray
      do closeBlocks (← blockFold r (nestedVia blocks depth) lines offset false (blocks fragment) {})
    else
      let fragment := trimBlank text
      if fragment.isEmpty then .ok []
      else r.inline (r.markup.inlines fragment)

/-- A document read with the block reader `blocks`, nested markup at most `depth` levels
deep. -/
def parseVia (blocks : String → List BlockNode) (depth : Nat) (text : String) :
    Except Error Node := do
  let text := normalizeLineBreaks text
  let lines := (splitLines text).toArray
  let f ← blockFold r (r.nestedVia blocks depth) lines 0 true (blocks text) {}
  return { kind := .root, children := ← closeBlocks f, position := some ⟨1, lines.size, none⟩ }

theorem nestedAt_eq_nestedVia (depth : Nat) :
    r.nestedAt depth = r.nestedVia r.markup.blocks depth := by
  induction depth with
  | zero => rfl
  | succ depth ih =>
    funext text block offset
    rw [nestedAt, nestedVia, ih]

/-- Documents are read with the reader's block reader, nested markup at most one level deeper
than the document has characters. -/
theorem parse_eq_parseVia (text : String) :
    r.parse text =
      r.parseVia r.markup.blocks ((normalizeLineBreaks text).length + 1) text := by
  rw [parse, parseVia, nestedAt_eq_nestedVia]

/-- Reading again settles below the depth bound: two bounds that both exceed a third of the
weight of the markup give the same reading, as every level is lighter than the one holding it by
the weight of a tag. -/
theorem nestedVia_agree {blocks : String → List BlockNode} (hblocks : HtmlFromLines blocks) :
    ∀ (d d' : Nat) (text : String) (block : Bool) (offset : Int),
      weight text.toList < 3 * d → weight text.toList < 3 * d' →
        r.nestedVia blocks d text block offset = r.nestedVia blocks d' text block offset
  | 0, _, _, _, _, h, _ => absurd h (Nat.not_lt_zero _)
  | _ + 1, 0, _, _, _, _, h => absurd h (Nat.not_lt_zero _)
  | d + 1, d' + 1, text, block, offset, h, h' => by
    rw [nestedVia, nestedVia]
    dsimp only
    split
    · -- the fragment read again as blocks weighs no more than the text
      have hfrag : weight (trimChars (removeMargin text) ['\n']).toList ≤ weight text.toList :=
        weight_le_of_sublist ((trimChars_sublist _ _).trans (removeMargin_sublist text))
      have hcongr := r.blockFold_congr (m := weight text.toList)
        (fun t b o hw => nestedVia_agree hblocks d d' t b o (by omega) (by omega))
        (splitLines (trimChars (removeMargin text) ['\n'])).toArray offset false
        (blocks (trimChars (removeMargin text) ['\n'])) {}
        fun c hc => Nat.le_trans (Narrows.weight_le (hblocks _ c hc)) hfrag
      rw [hcongr]
    · rfl

/-- A deeper bound on reading again changes nothing, once the block reader takes raw HTML
blocks out of the lines of its text. -/
theorem parseVia_depth {blocks : String → List BlockNode} (hblocks : HtmlFromLines blocks)
    (text : String) (extra : Nat) :
    r.parseVia blocks ((normalizeLineBreaks text).length + 1 + extra) text =
      r.parseVia blocks ((normalizeLineBreaks text).length + 1) text := by
  have hbound := weight_le_three_mul_length (normalizeLineBreaks text).toList
  rw [String.length_toList] at hbound
  unfold parseVia
  dsimp only
  rw [r.blockFold_congr (m := weight (normalizeLineBreaks text).toList)
    (fun t b o hw => r.nestedVia_agree hblocks ((normalizeLineBreaks text).length + 1 + extra)
      ((normalizeLineBreaks text).length + 1) t b o (by omega) (by omega)) _ _ _ _ _
    fun c hc => Narrows.weight_le (hblocks _ c hc)]

/-- Reading terminates within its bounds: passes beyond the length of a block, and levels beyond
the length of the document, change nothing. -/
theorem reading_settles {blocks : String → List BlockNode} (hblocks : HtmlFromLines blocks) :
    (∀ (nested : Nested) (content : String) (pos : Position) (s : Array Char)
        (lineOffset : Int) (line : Option Int) (fuel extra i : Nat) (consumed : Bool) (f : Fold),
        s.size < i + fuel →
          htmlBlock.loop nested content pos s lineOffset line (fuel + extra) i consumed f =
            htmlBlock.loop nested content pos s lineOffset line fuel i consumed f) ∧
      ∀ (text : String) (extra : Nat),
        r.parseVia blocks ((normalizeLineBreaks text).length + 1 + extra) text =
          r.parseVia blocks ((normalizeLineBreaks text).length + 1) text :=
  ⟨fun nested content pos s lineOffset line fuel extra i consumed f hfuel =>
      htmlBlock_loop_fuel nested content pos s lineOffset line fuel extra i consumed f hfuel,
    r.parseVia_depth hblocks⟩

/-- The block reader that reads a whole text as one raw HTML block, as the Markdown reader reads
a component element whose tags stand on lines of their own. -/
def wholeHtml (text : String) : List BlockNode := [.html (0, 3) text]

theorem wholeHtml_fromLines : HtmlFromLines wholeHtml := by
  intro text c hc
  simp only [wholeHtml, BlockNode.htmlContentsOf, BlockNode.htmlContents, List.append_nil,
    List.mem_singleton] at hc
  rw [hc]
  exact Narrows.refl _

theorem card_reading_settles :
    HtmlFromLines wholeHtml ∧
      (⟨(Dialect.ofPreset .commonmark).markup, true⟩ : Reader).parseVia wholeHtml
          ((normalizeLineBreaks "<Card>\n<b>x</b>\n</Card>").length + 1 + 8)
          "<Card>\n<b>x</b>\n</Card>" =
        (⟨(Dialect.ofPreset .commonmark).markup, true⟩ : Reader).parseVia wholeHtml
          ((normalizeLineBreaks "<Card>\n<b>x</b>\n</Card>").length + 1)
          "<Card>\n<b>x</b>\n</Card>" :=
  ⟨wholeHtml_fromLines,
    (reading_settles ⟨(Dialect.ofPreset .commonmark).markup, true⟩ wholeHtml_fromLines).2 _ 8⟩

end Reader

end Document

end Manuscript
