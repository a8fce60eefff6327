import Manuscript.Proofs.Document.TagReadBack

/-!
# Inert text in running text

A character is inert when reading leaves it as it stands: no inline construct of the CommonMark
rules starts at it (it is no backslash, backtick, `*`, `_`, `[`, `&` or `<`), it ends no line, and
normalizing the source does not replace it (`isInert`). Running text of inert characters is read
as it stands: at each step the text rule takes a whole run of ordinary characters, and every
other inert character is taken by no rule and falls through to the pending text (`go_inert`, by
strong induction on the length of the text).

Between the tags `<include>` and `</include>` such a text is read as one text token between two
raw HTML tokens (`parseInline_between_tags`): neither tag is an automatic link, each is inline
HTML, and no emphasis delimiter is ever recorded, so the passes that pair delimiters leave the
tokens as they are.

The source is read from an index as in `Manuscript.Proofs.Document.TagReadBack`: each step is
stated by what the array holds from that index on.
-/

namespace Manuscript.Markdown

open Manuscript.Text Manuscript.Document

/-- A character that reading keeps as it is in running text. -/
def isInert (c : Char) : Bool :=
  !(['\\', '`', '*', '_', '[', '&', '<', '\n', '\r', '\x00'].contains c)

theorem isInert_ne {c : Char} (h : isInert c = true) :
    c ≠ '\\' ∧ c ≠ '`' ∧ c ≠ '*' ∧ c ≠ '_' ∧ c ≠ '[' ∧ c ≠ '&' ∧ c ≠ '<' ∧ c ≠ '\n' ∧
      c ≠ '\r' ∧ c ≠ '\x00' := by
  simpa only [isInert, List.contains_cons, List.contains_nil, Bool.or_false, Bool.not_or,
    Bool.and_eq_true, Bool.not_eq_true', beq_eq_false_iff_ne] using h

/-- The CommonMark preset switches on every rule but linkify, the typographic replacements,
tables and strikethrough. -/
theorem commonmark_has (r : Rule) :
    (Dialect.ofPreset .commonmark).has r =
      !([.linkify, .replacements, .smartquotes, .table, .strikethrough] : List Rule).contains
        r := by
  cases r <;> rfl

/-! ### Reading the source from an index -/

section Reading

variable {s : Array Char} {k stop : Nat} {p : Char → Bool}

theorem skipWhileBefore_of_drop {run rest : List Char} (h : s.toList.drop k = run ++ rest)
    (hrun : ∀ c ∈ run, p c = true) (hstop : ∀ c ∈ rest.head?, p c = false)
    (hle : k + run.length ≤ stop) : skipWhileBefore s stop p k = k + run.length := by
  induction run generalizing k with
  | nil =>
    rw [skipWhileBefore]
    split
    · split
      · next hk =>
        have hget : s[k]? = some s[k] := by simp [hk]
        rw [getElem?_eq_head?_drop, h, List.nil_append] at hget
        simp [hstop _ hget]
      · simp
    · simp
  | cons c run ih =>
    have hget := getElem?_of_drop h
    have hk : k < s.size := by
      rcases Nat.lt_or_ge k s.size with hk | hk
      · exact hk
      · simp [hk] at hget
    have hnext : s.toList.drop (k + 1) = run ++ rest :=
      drop_of_drop (show s.toList.drop k = [c] ++ (run ++ rest) from h)
    have hc : s[k] = c := by simpa [hk] using hget
    rw [List.length_cons] at hle
    rw [skipWhileBefore, if_pos (by omega), dif_pos hk, hc, hrun c List.mem_cons_self, if_pos rfl,
      ih hnext (fun d hd => hrun d (List.mem_cons_of_mem c hd)) (by omega), List.length_cons]
    omega

theorem skipWhileBefore_of_stop {c : Char} (hc : s[k]? = some c) (hp : p c = false) :
    skipWhileBefore s stop p k = k := by
  have hk : k < s.size := by
    rcases Nat.lt_or_ge k s.size with hk | hk
    · exact hk
    · simp [hk] at hc
  have hck : s[k] = c := by simpa [hk] using hc
  rw [skipWhileBefore]
  split
  · simp [hck, hp]
  · rfl

theorem toList_extract_to_end (s : Array Char) (k : Nat) :
    (s.extract k s.size).toList = s.toList.drop k := by
  rw [Array.toList_extract, List.extract_eq_take_drop, List.take_of_length_le (by simp)]

end Reading

/-! ### Bare tags -/

section Tags

variable {s : Array Char} {i : Nat} {c : Char} {cs rest : List Char}

theorem tagNameChar_ne {d : Char} (h : isTagNameChar d = true) : d ≠ '<' ∧ d ≠ '>' := by
  constructor <;> rintro rfl <;> exact absurd h (by decide)

theorem skipAttributes_of_stop (h : s.toList.drop i = c :: rest) (hc : isBlank c = false) :
    skipAttributes s i = i := by
  have hj : skipWhile s isBlank i = i := skipWhile_of_stop h (by simp [hc])
  rw [skipAttributes]
  simp [attributeEnd, hj]

/-- A bare opening tag ends after its `>`. -/
theorem openTagEnd_of_name (h : s.toList.drop i = '<' :: c :: (cs ++ '>' :: rest))
    (hc : isAsciiLetter c = true) (hcs : ∀ d ∈ cs, isTagNameChar d = true) :
    openTagEnd s i = some (i + cs.length + 3) := by
  have h0 : charAt? s i = some '<' := getElem?_of_drop h
  have h1 : charAt? s (i + 1) = some c :=
    getElem?_of_drop (drop_of_drop (show _ = ['<'] ++ _ from h))
  have h2 : s.toList.drop (i + 2) = cs ++ '>' :: rest :=
    drop_of_drop (show _ = ['<', c] ++ _ from h)
  have hname : skipWhile s isTagNameChar (i + 2) = i + 2 + cs.length :=
    skipWhile_of_drop h2 hcs (by simp [isTagNameChar, isAsciiLetter, isAsciiDigit])
  have hk : s.toList.drop (i + 2 + cs.length) = '>' :: rest := drop_of_drop h2
  have hattr : skipAttributes s (i + 2 + cs.length) = i + 2 + cs.length :=
    skipAttributes_of_stop hk (by decide)
  have hblank : skipWhile s isBlank (i + 2 + cs.length) = i + 2 + cs.length :=
    skipWhile_of_stop hk (by simp; decide)
  have hgt : charAt? s (i + 2 + cs.length) = some '>' := getElem?_of_drop hk
  simp [openTagEnd, h0, h1, hc, hname, hattr, hblank, hgt]
  omega

/-- A bare closing tag ends after its `>`. -/
theorem closeTagEnd_of_name (h : s.toList.drop i = '<' :: '/' :: c :: (cs ++ '>' :: rest))
    (hc : isAsciiLetter c = true) (hcs : ∀ d ∈ cs, isTagNameChar d = true) :
    closeTagEnd s i = some (i + cs.length + 4) := by
  have h0 : charAt? s i = some '<' := getElem?_of_drop h
  have h1 : charAt? s (i + 1) = some '/' :=
    getElem?_of_drop (drop_of_drop (show _ = ['<'] ++ _ from h))
  have h2 : charAt? s (i + 2) = some c :=
    getElem?_of_drop (drop_of_drop (show _ = ['<', '/'] ++ _ from h))
  have h3 : s.toList.drop (i + 3) = cs ++ '>' :: rest :=
    drop_of_drop (show _ = ['<', '/', c] ++ _ from h)
  have hname : skipWhile s isTagNameChar (i + 3) = i + 3 + cs.length :=
    skipWhile_of_drop h3 hcs (by simp [isTagNameChar, isAsciiLetter, isAsciiDigit])
  have hk : s.toList.drop (i + 3 + cs.length) = '>' :: rest := drop_of_drop h3
  have hblank : skipWhile s isBlank (i + 3 + cs.length) = i + 3 + cs.length :=
    skipWhile_of_stop hk (by simp; decide)
  have hgt : charAt? s (i + 3 + cs.length) = some '>' := getElem?_of_drop hk
  simp [closeTagEnd, h0, h1, h2, hc, hname, hblank, hgt]
  omega

theorem htmlTagEnd_of_open (h : s.toList.drop i = '<' :: c :: (cs ++ '>' :: rest))
    (hc : isAsciiLetter c = true) (hcs : ∀ d ∈ cs, isTagNameChar d = true) :
    htmlTagEnd s i = some (i + cs.length + 3) := by
  simp [htmlTagEnd, openTagEnd_of_name h hc hcs]

theorem htmlTagEnd_of_close (h : s.toList.drop i = '<' :: '/' :: c :: (cs ++ '>' :: rest))
    (hc : isAsciiLetter c = true) (hcs : ∀ d ∈ cs, isTagNameChar d = true) :
    htmlTagEnd s i = some (i + cs.length + 4) := by
  have h1 : charAt? s (i + 1) = some '/' :=
    getElem?_of_drop (drop_of_drop (show _ = ['<'] ++ _ from h))
  have hopen : openTagEnd s i = none := by
    simp [openTagEnd, h1, isAsciiLetter]
  simp [htmlTagEnd, hopen, closeTagEnd_of_name h hc hcs]

end Tags

/-! ### Writing tokens -/

namespace InlineState

variable {st : InlineState} {t : InlineToken}

theorem push_of_flat (h : t.kind.nesting = 0) :
    st.push t = { st.flush with tokens := st.flush.tokens.push t } := by
  simp [push, h]

theorem flush_of_empty (h : st.pending = "") : st.flush = st := by
  simp [flush, h]

theorem flush_of_ne (h : st.pending ≠ "") :
    st.flush =
      { st with tokens := st.tokens.push { kind := .text, content := st.pending },
                pending := "" } := by
  simp [flush, h]

end InlineState

/-! ### The inline rules at one position

Each rule first looks at the character at the current position; at a character it does not
start with, it fails and leaves the state as it is. -/

section Rules

variable {st : InlineState} {c : Char} (silent : Bool)

theorem textRule_of_terminator (h : st.at? st.pos = some c) (hc : isTerminatorChar c = true) :
    textRule st silent = none := by
  have : skipWhileBefore st.src st.posMax (fun c => !isTerminatorChar c) st.pos = st.pos :=
    skipWhileBefore_of_stop h (by simp [hc])
  simp [textRule, this]

theorem newlineRule_of_ne (h : st.at? st.pos = some c) (hc : c ≠ '\n') :
    newlineRule st silent = none := by
  simp [newlineRule, h, hc]

theorem escapeRule_of_ne (h : st.at? st.pos = some c) (hc : c ≠ '\\') :
    escapeRule st silent = none := by
  simp [escapeRule, h, hc]

theorem backtickRule_of_ne (h : st.at? st.pos = some c) (hc : c ≠ '`') :
    backtickRule st silent = none := by
  simp [backtickRule, h, hc]

theorem emphasisRule_of_ne (h : st.at? st.pos = some c) (h1 : c ≠ '*') (h2 : c ≠ '_') :
    emphasisRule st silent = none := by
  simp [emphasisRule, h, h1, h2]

theorem autolinkRule_of_ne (h : st.at? st.pos = some c) (hc : c ≠ '<') :
    autolinkRule st silent = none := by
  simp [autolinkRule, h, hc]

theorem htmlInlineRule_of_ne (h : st.at? st.pos = some c) (hc : c ≠ '<') :
    htmlInlineRule st silent = none := by
  simp [htmlInlineRule, h, hc]

theorem entityRule_of_ne (h : st.at? st.pos = some c) (hc : c ≠ '&') :
    entityRule st silent = none := by
  simp [entityRule, h, hc]

theorem linkRule_of_ne (ops : InlineOps) (ctx : InlineContext) (h : st.at? st.pos = some c)
    (hc : c ≠ '[') : linkRule ops ctx st silent = (false, st) := by
  simp [linkRule, h, hc]

/-- An image needs `!` followed by `[`. -/
theorem imageRule_of_ne (ops : InlineOps) (ctx : InlineContext) (h : st.at? st.pos = some c)
    (hc : c = '!' → st.pos + 1 < st.posMax ∧ st.at? (st.pos + 1) ≠ some '[') :
    imageRule ops ctx st silent = (false, st) := by
  by_cases h1 : c = '!'
  · obtain ⟨h2, h3⟩ := hc h1
    simp [imageRule, h, h1, h2, h3]
  · simp [imageRule, h, h1]

/-- A tag in angle brackets is no automatic link when the text inside is neither an absolute URI
nor an e-mail address. -/
theorem autolinkRule_of_url {w rest : List Char} (h : st.at? st.pos = some '<')
    (hmax : st.posMax = st.src.size) (hbody : st.src.toList.drop (st.pos + 1) = w ++ '>' :: rest)
    (hw : ∀ d ∈ w, d ≠ '<' ∧ d ≠ '>') (hu : isAutolinkUri (String.ofList w) = false)
    (he : isAutolinkEmail (String.ofList w) = false) : autolinkRule st silent = none := by
  have hinner : (w ++ '>' :: rest).takeWhile (fun c => c != '<' && c != '>') = w := by
    rw [List.takeWhile_append_of_pos (fun d hd => by simp [(hw d hd).1, (hw d hd).2])]
    simp
  have hb : (st.src.extract (st.pos + 1) st.posMax).toList = w ++ '>' :: rest := by
    rw [hmax, toList_extract_to_end, hbody]
  simp only [autolinkRule, h, hb, hinner]
  simp [hu, he]

theorem htmlInlineRule_of_tag {e : Nat} (h : st.at? st.pos = some '<')
    (hlt : st.pos + 2 < st.posMax) (h1 : st.at? (st.pos + 1) = some c)
    (hc : c = '/' ∨ isAsciiLetter c = true) (he : htmlTagEnd st.src st.pos = some e) :
    htmlInlineRule st false =
      some { st.push { kind := .htmlInline, content := st.text st.pos e } with pos := e } := by
  have hc' : (c == '!' || c == '?' || c == '/' || isAsciiLetter c) = true := by
    rcases hc with rfl | hc
    · rfl
    · simp [hc]
  simp [htmlInlineRule, h, Nat.not_le.2 hlt, h1, hc', he]

variable (ops : InlineOps) {ctx : InlineContext} (hd : ctx.dialect = Dialect.ofPreset .commonmark)
include hd

/-- At an inert character that starts no run of ordinary characters every rule fails. -/
theorem runRules_of_inert (h : st.at? st.pos = some c) (ht : isTerminatorChar c = true)
    (hi : isInert c = true)
    (hnext : c = '!' → st.pos + 1 < st.posMax ∧ st.at? (st.pos + 1) ≠ some '[') :
    runRules ops ctx st false = (false, st) := by
  obtain ⟨h1, h2, h3, h4, h5, h6, h7, h8, -⟩ := isInert_ne hi
  simp [runRules, hd, commonmark_has, textRule_of_terminator false h ht,
    newlineRule_of_ne false h h8, escapeRule_of_ne false h h1, backtickRule_of_ne false h h2,
    emphasisRule_of_ne false h h3 h4, linkRule_of_ne false ops ctx h h5,
    imageRule_of_ne false ops ctx h hnext, autolinkRule_of_ne false h h7,
    htmlInlineRule_of_ne false h h7, entityRule_of_ne false h h6]

/-- The text rule takes the longest run of ordinary characters. -/
theorem runRules_of_run {run rest : List Char} (h : st.src.toList.drop st.pos = run ++ rest)
    (hne : run ≠ []) (hrun : ∀ c ∈ run, isTerminatorChar c = false)
    (hstop : ∀ c ∈ rest.head?, isTerminatorChar c = true)
    (hle : st.pos + run.length ≤ st.posMax) :
    runRules ops ctx st false =
      (true, { st with pending := st.pending ++ String.ofList run,
                       pos := st.pos + run.length }) := by
  have he : skipWhileBefore st.src st.posMax (fun c => !isTerminatorChar c) st.pos =
      st.pos + run.length :=
    skipWhileBefore_of_drop h (by simpa using hrun) (by simpa using hstop) hle
  have hlen : run.length ≠ 0 := by simpa using hne
  have htext : st.text st.pos (st.pos + run.length) = String.ofList run := sliceText_of_drop h
  have hrule : textRule st false =
      some { st with pending := st.pending ++ String.ofList run, pos := st.pos + run.length } := by
    simp [textRule, he, hlen, htext]
  simp [runRules, hd, commonmark_has, hrule]

/-- At `<` the rules before raw HTML fail, so a tag that is no automatic link is raw HTML. -/
theorem runRules_of_tag {st' : InlineState} (h : st.at? st.pos = some '<')
    (hauto : autolinkRule st false = none) (hhtml : htmlInlineRule st false = some st') :
    runRules ops ctx st false = (true, st') := by
  simp [runRules, hd, commonmark_has, textRule_of_terminator false h (by decide),
    newlineRule_of_ne false h (by decide), escapeRule_of_ne false h (by decide),
    backtickRule_of_ne false h (by decide), emphasisRule_of_ne false h (by decide) (by decide),
    linkRule_of_ne false ops ctx h (by decide),
    imageRule_of_ne false ops ctx h (fun e => absurd e (by decide)), hauto, hhtml]

variable {cs rest : List Char} (hmax : st.posMax = st.src.size)
  (hcs : ∀ d ∈ cs, isTagNameChar d = true)
include hmax hcs

/-- A bare opening tag that is no automatic link is read as raw HTML. -/
theorem runRules_of_open (h : st.src.toList.drop st.pos = '<' :: c :: (cs ++ '>' :: rest))
    (hc : isAsciiLetter c = true) (hu : isAutolinkUri (String.ofList (c :: cs)) = false)
    (he : isAutolinkEmail (String.ofList (c :: cs)) = false) :
    runRules ops ctx st false =
      (true, { st.push { kind := .htmlInline, content := String.ofList ('<' :: c :: (cs ++ ['>'])) }
        with pos := st.pos + cs.length + 3 }) := by
  have hbody : st.src.toList.drop (st.pos + 1) = (c :: cs) ++ '>' :: rest :=
    drop_of_drop (show _ = ['<'] ++ _ from h)
  have hw : ∀ d ∈ c :: cs, d ≠ '<' ∧ d ≠ '>' := by
    intro d hd
    rcases List.mem_cons.1 hd with rfl | hd
    · exact tagNameChar_ne (by simp [isTagNameChar, hc])
    · exact tagNameChar_ne (hcs d hd)
  have hsize := size_of_drop h (by simp)
  have htext :
      st.text st.pos (st.pos + cs.length + 3) = String.ofList ('<' :: c :: (cs ++ ['>'])) := by
    have := sliceText_of_drop
      (show st.src.toList.drop st.pos = ('<' :: c :: (cs ++ ['>'])) ++ rest by simp [h])
    simp only [List.length_cons, List.length_append, List.length_nil] at this
    rw [show st.pos + cs.length + 3 = st.pos + (cs.length + (0 + 1) + 1 + 1) by omega]
    exact this
  have hhtml := htmlInlineRule_of_tag (getElem?_of_drop h) (by simp at hsize; omega)
    (getElem?_of_drop hbody) (.inr hc) (htmlTagEnd_of_open h hc hcs)
  rw [htext] at hhtml
  exact runRules_of_tag ops hd (getElem?_of_drop h)
    (autolinkRule_of_url false (getElem?_of_drop h) hmax hbody hw hu he) hhtml

/-- A bare closing tag that is no automatic link is read as raw HTML. -/
theorem runRules_of_close (h : st.src.toList.drop st.pos = '<' :: '/' :: c :: (cs ++ '>' :: rest))
    (hc : isAsciiLetter c = true) (hu : isAutolinkUri (String.ofList ('/' :: c :: cs)) = false)
    (he : isAutolinkEmail (String.ofList ('/' :: c :: cs)) = false) :
    runRules ops ctx st false =
      (true, { st.push
        { kind := .htmlInline, content := String.ofList ('<' :: '/' :: c :: (cs ++ ['>'])) }
        with pos := st.pos + cs.length + 4 }) := by
  have hbody : st.src.toList.drop (st.pos + 1) = ('/' :: c :: cs) ++ '>' :: rest :=
    drop_of_drop (show _ = ['<'] ++ _ from h)
  have hw : ∀ d ∈ '/' :: c :: cs, d ≠ '<' ∧ d ≠ '>' := by
    intro d hd
    rcases List.mem_cons.1 hd with rfl | hd
    · decide
    rcases List.mem_cons.1 hd with rfl | hd
    · exact tagNameChar_ne (by simp [isTagNameChar, hc])
    · exact tagNameChar_ne (hcs d hd)
  have hsize := size_of_drop h (by simp)
  have htext : st.text st.pos (st.pos + cs.length + 4) =
      String.ofList ('<' :: '/' :: c :: (cs ++ ['>'])) := by
    have := sliceText_of_drop
      (show st.src.toList.drop st.pos = ('<' :: '/' :: c :: (cs ++ ['>'])) ++ rest by simp [h])
    simp only [List.length_cons, List.length_append, List.length_nil] at this
    rw [show st.pos + cs.length + 4 = st.pos + (cs.length + (0 + 1) + 1 + 1 + 1) by omega]
    exact this
  have hhtml := htmlInlineRule_of_tag (getElem?_of_drop h) (by simp at hsize; omega)
    (getElem?_of_drop hbody) (.inl rfl) (htmlTagEnd_of_close h hc hcs)
  rw [htext] at hhtml
  exact runRules_of_tag ops hd (getElem?_of_drop h)
    (autolinkRule_of_url false (getElem?_of_drop h) hmax hbody hw hu he) hhtml

end Rules

/-! ### The tokenizer loop -/

section Loop

variable {ops : InlineOps} {ctx : InlineContext} {st st' : InlineState} {stop fuel : Nat}

theorem go_of_advance (hlt : st.pos < stop) (hlvl : st.level < ctx.dialect.maxNesting)
    (hr : runRules ops ctx st false = (true, st')) (hadv : st.pos < st'.pos)
    (hst : st'.pos < stop) :
    tokenizeWith.go ops ctx st stop (fuel + 1) = tokenizeWith.go ops ctx st' stop fuel := by
  simp [tokenizeWith.go, hlt, hlvl, hr, hadv, Nat.not_le.2 hst]

theorem go_of_last (hlt : st.pos < stop) (hlvl : st.level < ctx.dialect.maxNesting)
    (hr : runRules ops ctx st false = (true, st')) (hadv : st.pos < st'.pos)
    (hst : stop ≤ st'.pos) :
    tokenizeWith.go ops ctx st stop (fuel + 1) = st' := by
  simp [tokenizeWith.go, hlt, hlvl, hr, hadv, hst]

theorem go_of_stuck {c : Char} (hlt : st.pos < stop) (hlvl : st.level < ctx.dialect.maxNesting)
    (hr : runRules ops ctx st false = (false, st)) (hc : st.at? st.pos = some c) :
    tokenizeWith.go ops ctx st stop (fuel + 1) =
      tokenizeWith.go ops ctx { st with pending := st.pending.push c, pos := st.pos + 1 } stop
        fuel := by
  simp [tokenizeWith.go, hlt, hlvl, hr, hc]

/-- Inert text before a `<` goes to the pending text as it stands, one run of ordinary
characters or one other inert character per step; each step uses one unit of fuel and moves on
by at least one character, so fuel beyond the characters left is never exhausted. -/
theorem go_inert (ops : InlineOps) (hd : ctx.dialect = Dialect.ofPreset .commonmark)
    {rest : List Char} :
    ∀ (n : Nat) (xs : List Char) (st : InlineState) (fuel : Nat), xs.length = n →
      st.posMax = st.src.size → st.level < ctx.dialect.maxNesting →
      st.src.toList.drop st.pos = xs ++ '<' :: rest → (∀ c ∈ xs, isInert c = true) →
      st.posMax - st.pos < fuel →
      ∃ f, st.posMax - (st.pos + xs.length) < f ∧
        tokenizeWith.go ops ctx st st.posMax fuel =
          tokenizeWith.go ops ctx
            { st with pending := st.pending ++ String.ofList xs, pos := st.pos + xs.length }
            st.posMax f := by
  intro n
  induction n using Nat.strongRecOn with
  | ind n ih =>
  intro xs st fuel hn hmax hlvl hdrop hinert hfuel
  have hsize := size_of_drop hdrop (by simp)
  simp only [List.length_append, List.length_cons, hn] at hsize
  have hbound : st.pos + n < st.posMax := by omega
  cases xs with
  | nil => exact ⟨fuel, by simpa using hfuel, by simp⟩
  | cons c cs =>
  rw [List.length_cons] at hn
  obtain ⟨f, rfl⟩ : ∃ f, fuel = f + 1 := ⟨fuel - 1, by omega⟩
  have hc : st.at? st.pos = some c := getElem?_of_drop hdrop
  have hlt : st.pos < st.posMax := by omega
  cases ht : isTerminatorChar c with
  | true =>
    -- an inert character that no rule takes falls through to the pending text; the character
    -- after it is inert or the final `<`, so never the `[` of an image
    have hnext : c = '!' → st.pos + 1 < st.posMax ∧ st.at? (st.pos + 1) ≠ some '[' := by
      intro _
      refine ⟨by omega, ?_⟩
      have h1 := getElem?_add_of_drop hdrop 1
      cases cs with
      | nil => simp [InlineState.at?, h1]
      | cons d ds =>
        have hd' : d ≠ '[' := (isInert_ne (hinert d (by simp))).2.2.2.2.1
        simp [InlineState.at?, h1, hd']
    have hr := runRules_of_inert ops hd hc ht (hinert c (by simp)) hnext
    rw [go_of_stuck hlt hlvl hr hc]
    have hdrop' : st.src.toList.drop (st.pos + 1) = cs ++ '<' :: rest :=
      drop_of_drop (show st.src.toList.drop st.pos = [c] ++ (cs ++ '<' :: rest) from hdrop)
    obtain ⟨g, hg, heq⟩ := ih cs.length (by omega) cs
      { st with pending := st.pending.push c, pos := st.pos + 1 } f rfl hmax hlvl hdrop'
      (fun d hd => hinert d (by simp [hd])) (by simp; omega)
    refine ⟨g, by simp at hg ⊢; omega, ?_⟩
    rw [heq]
    have hp : st.pending.push c ++ String.ofList cs = st.pending ++ String.ofList (c :: cs) :=
      String.ext (by simp)
    simp only [hp, List.length_cons, Nat.add_assoc, Nat.add_comm 1]
  | false =>
    let p : Char → Bool := fun d => !isTerminatorChar d
    have hsplit := List.takeWhile_append_dropWhile (p := p) (l := c :: cs)
    generalize hrun : (c :: cs).takeWhile p = run at hsplit
    generalize hmore : (c :: cs).dropWhile p = more at hsplit
    have hrun_ne : run ≠ [] := by simp [← hrun, p, ht]
    have hrun_len : 0 < run.length := by cases run <;> simp_all
    have hlen : run.length + more.length = n := by
      rw [← hn, ← List.length_cons, ← hsplit, List.length_append]
    have hdrop_run : st.src.toList.drop st.pos = run ++ (more ++ '<' :: rest) := by
      rw [hdrop, ← hsplit, List.append_assoc]
    have hrun_p : ∀ d ∈ run, isTerminatorChar d = false := by
      intro d hd
      have := List.all_eq_true.1 (hrun ▸ List.all_takeWhile (p := p) (l := c :: cs)) d hd
      simpa [p] using this
    have hmore_head : ∀ d ∈ (more ++ '<' :: rest).head?, isTerminatorChar d = true := by
      have := List.head?_dropWhile_not p (c :: cs)
      rw [hmore] at this
      cases more with
      | nil => simp [isTerminatorChar]
      | cons d ds => simpa [p] using this
    have hr := runRules_of_run ops hd hdrop_run hrun_ne hrun_p hmore_head (by omega)
    rw [go_of_advance hlt hlvl hr (by simp; omega) (by simp; omega)]
    obtain ⟨g, hg, heq⟩ := ih more.length (by omega) more
      { st with pending := st.pending ++ String.ofList run, pos := st.pos + run.length } f rfl hmax
      hlvl (drop_of_drop hdrop_run)
      (fun d hd => hinert d (by rw [← hsplit]; exact List.mem_append_right _ hd)) (by simp; omega)
    refine ⟨g, by simp at hg ⊢; omega, ?_⟩
    rw [heq, ← hsplit]
    simp only [String.ofList_append, String.append_assoc, List.length_append, Nat.add_assoc]

end Loop

/-! ### Text between two tags -/

section Directive

variable {ctx : InlineContext}

theorem Delimiter.balance_empty : Delimiter.balance #[] = #[] := by
  simp [Delimiter.balance]

theorem markEmphasis_empty (toks : Array InlineToken) : markEmphasis toks #[] = toks := by
  simp [markEmphasis]

theorem atDepth_tokenize (n : Nat) :
    (InlineOps.atDepth ctx (n + 1)).tokenize = tokenizeWith (InlineOps.atDepth ctx n) ctx := rfl

/-- The tokenizer reads inert text between `<include>` and `</include>` in three steps: the
opening tag, the text, and the closing tag, which writes the text out before itself. -/
theorem tokenize_between_tags (ops : InlineOps) (hd : ctx.dialect = Dialect.ofPreset .commonmark)
    {src : Array Char} {xs : List Char}
    (hsrc : src.toList = "<include>".toList ++ xs ++ "</include>".toList)
    (hne : xs ≠ []) (hinert : ∀ c ∈ xs, isInert c = true) :
    tokenizeWith ops ctx { src, posMax := src.size } =
      { src, pos := src.size, posMax := src.size,
        tokens := #[{ kind := .htmlInline, content := "<include>" },
          { kind := .text, content := String.ofList xs },
          { kind := .htmlInline, content := "</include>" }] } := by
  have hopen : "<include>".toList = ['<', 'i', 'n', 'c', 'l', 'u', 'd', 'e', '>'] := by simp
  have hclose : "</include>".toList = ['<', '/', 'i', 'n', 'c', 'l', 'u', 'd', 'e', '>'] := by simp
  rw [hopen, hclose] at hsrc
  have hN : src.size = xs.length + 19 := by
    rw [← Array.length_toList, hsrc]
    simp
  have hlvl : (0 : Nat) < ctx.dialect.maxNesting := by rw [hd]; decide
  have hflat : InlineKind.htmlInline.nesting = 0 := rfl
  let st0 : InlineState := { src, posMax := src.size }
  have h0 : st0.src.toList.drop st0.pos =
      '<' :: 'i' :: (['n', 'c', 'l', 'u', 'd', 'e'] ++ '>' ::
        (xs ++ ['<', '/', 'i', 'n', 'c', 'l', 'u', 'd', 'e', '>'])) := by
    simp [st0, hsrc]
  have hr0 := runRules_of_open ops hd rfl (List.all_eq_true.1 rfl) h0 (by decide) (by decide)
    (by decide)
  let st1 : InlineState :=
    { st0.push { kind := .htmlInline, content := "<include>" } with pos := 9 }
  have hst1 : st1 =
      { src, pos := 9, posMax := src.size,
        tokens := #[{ kind := .htmlInline, content := "<include>" }] } := by
    simp only [st1, InlineState.push_of_flat, hflat]
    rfl
  have h1 :
      st1.src.toList.drop st1.pos = xs ++ '<' :: ['/', 'i', 'n', 'c', 'l', 'u', 'd', 'e', '>'] := by
    show src.toList.drop 9 = _
    rw [hsrc, List.append_assoc]
    exact List.drop_left' rfl
  obtain ⟨f, hf, hgo⟩ := go_inert ops hd xs.length xs st1 src.size rfl
    (by simp [hst1]) (by simpa [hst1] using hlvl) h1 hinert (by simp [hst1]; omega)
  obtain ⟨f, rfl⟩ : ∃ g, f = g + 1 := ⟨f - 1, by simp [hst1] at hf; omega⟩
  let st2 : InlineState :=
    { st1 with pending := st1.pending ++ String.ofList xs, pos := st1.pos + xs.length }
  have hpos2 : st2.pos = 9 + xs.length := by simp [st2, hst1]
  have h2 : st2.src.toList.drop st2.pos =
      '<' :: '/' :: 'i' :: (['n', 'c', 'l', 'u', 'd', 'e'] ++ ['>']) := by
    show src.toList.drop (9 + xs.length) = _
    rw [hsrc]
    exact List.drop_left' (by simp; omega)
  have hr2 := runRules_of_close ops hd (by simp [st2, hst1]) (List.all_eq_true.1 rfl) h2 (by decide)
    (by decide) (by decide)
  show (tokenizeWith.go ops ctx st0 src.size (src.size + 1)).flush = _
  rw [go_of_advance (by simp [st0]; omega) (by simpa [st0] using hlvl) hr0 (by simp [st0])
    (by simp [st0]; omega)]
  change (tokenizeWith.go ops ctx st1 st1.posMax src.size).flush = _
  rw [hgo]
  change (tokenizeWith.go ops ctx st2 src.size (f + 1)).flush = _
  rw [go_of_last (by rw [hpos2]; omega) (by simpa [st2, hst1] using hlvl) hr2
    (by simp only [List.length_cons, List.length_nil]; omega) (by simp [hpos2]; omega)]
  have hpend : st2.pending = String.ofList xs := by simp [st2, hst1]
  have hne' : st2.pending ≠ "" := by simpa [hpend] using hne
  simp only [InlineState.push_of_flat, hflat, InlineState.flush_of_ne hne']
  rw [InlineState.flush_of_empty rfl, hpend, hpos2]
  simp [st2, hst1, hN]
  omega

/-- Inert text between `<include>` and `</include>` is read as one text token between the two
tags as raw HTML. -/
theorem parseInline_between_tags (hd : ctx.dialect = Dialect.ofPreset .commonmark) {xs : List Char}
    (hne : xs ≠ []) (hinert : ∀ c ∈ xs, isInert c = true) :
    parseInline ctx ("<include>" ++ String.ofList xs ++ "</include>") =
      #[{ kind := .htmlInline, content := "<include>" },
        { kind := .text, content := String.ofList xs },
        { kind := .htmlInline, content := "</include>" }] := by
  have hsrc : ("<include>" ++ String.ofList xs ++ "</include>").toList.toArray.toList =
      "<include>".toList ++ xs ++ "</include>".toList := by simp
  have htok := tokenize_between_tags (InlineOps.atDepth ctx (ctx.dialect.maxNesting + 2)) hd hsrc
    hne hinert
  simp only [parseInline, atDepth_tokenize]
  rw [htok]
  simp [hd, commonmark_has, Delimiter.balance_empty, markEmphasis_empty]
  rfl

end Directive

end Manuscript.Markdown
