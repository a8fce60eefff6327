import Mathlib
import Manuscript.Document.Tag

/-!
# The closing tag that matches an opening tag

`closingSpan s name` looks for the tag that closes an element of name `name` open at the start
of `s`. It reads the tags of that name from left to right, jumping over each one it finds; an
opening tag that does not close itself adds a level, and a closing tag removes one.

Here the tags of a name in a text are listed on their own (`tagsOf`): a tag of the name starts at
every index where `namedTagAt` reads one, and a tag of a name without `<` holds no other `<`, so
jumping over a tag passes over no other tag (`namedTagAt_span`, `tagsFrom_skip`). The scan is then
a count over that list (`scan_eq_closeAt`), and the count answers the first closing tag after
which the number of open elements, starting at one, reaches zero, or nothing when it never does
(`closeAt_eq_some_iff`, `closeAt_eq_none_iff`). `closingSpan_finds_matching_tag` states both for
`closingSpan`.
-/

namespace Manuscript.Document

open Manuscript.Text Manuscript.Markdown

/-- A tag of one name in a text: the index it starts at, whether it closes an element, whether it
closes itself, and the index after it. -/
structure NamedTag where
  start : Nat
  closing : Bool
  selfClosing : Bool
  stop : Nat
  deriving DecidableEq, Repr

namespace NamedTag

/-- How a tag moves the number of open elements: a closing tag lowers it, an opening tag that
does not close itself raises it. -/
def delta (t : NamedTag) : Int :=
  if t.closing then -1 else if t.selfClosing then 0 else 1

end NamedTag

/-- The tag of a name that starts at index `k`, if one does. -/
def namedTag? (s : Array Char) (name : List Char) (k : Nat) : Option NamedTag :=
  (namedTagAt s name k).map fun (closing, selfClosing, stop) => ⟨k, closing, selfClosing, stop⟩

/-- The tags of a name that start at index `k` or later, in order. -/
def tagsFrom (s : Array Char) (name : List Char) (k : Nat) : List NamedTag :=
  (List.range' k (s.size - k)).filterMap (namedTag? s name)

/-- The tags of a name in a text, in order. -/
def tagsOf (s : Array Char) (name : String) : List NamedTag :=
  tagsFrom s name.toList 0

/-- The number of open elements after a run of tags, starting from `d`. -/
def countAfter (d : Int) (ts : List NamedTag) : Int :=
  d + (ts.map NamedTag.delta).sum

/-- The scan for a closing tag, said over the list of tags: the span of the closing tag that
brings the number of open elements, `d` before the first tag, to zero. -/
def closeAt : Nat → List NamedTag → Option (Nat × Nat)
  | _, [] => none
  | d, t :: ts =>
    if t.closing then (if d == 1 then some (t.start, t.stop) else closeAt (d - 1) ts)
    else closeAt (if t.selfClosing then d else d + 1) ts

/-! ## Reading the text -/

section Text

variable {s : Array Char}

/-- The characters skipped over all belong to the class. -/
theorem skipWhile_holds {P : Char → Bool} {i p : Nat} (hip : i ≤ p)
    (hp : p < skipWhile s P i) : ∃ c, s[p]? = some c ∧ P c = true := by
  fun_induction skipWhile s P i with
  | case1 i hi hP ih =>
    rcases Nat.eq_or_lt_of_le hip with rfl | hlt
    · exact ⟨s[i], by simp [hi], hP⟩
    · exact ih hlt hp
  | case2 => omega
  | case3 => omega

/-- Matching a word at an index reads the word's characters there. -/
theorem getElem?_of_matchesAt {w : List Char} {j : Nat} (h : matchesAt s j w = true) :
    ∀ t (ht : t < w.length), s[j + t]? = some w[t] := by
  induction w generalizing j with
  | nil => intro t ht; simp at ht
  | cons l rest ih =>
    rw [matchesAt] at h
    rcases hc : charAt? s j with _ | c
    · rw [hc] at h
      cases h
    · rw [hc, Bool.and_eq_true, beq_iff_eq] at h
      intro t ht
      cases t with
      | zero => simpa [charAt?, h.1] using hc
      | succ t =>
        have := ih h.2 t (by simpa using ht)
        rw [show j + (t + 1) = j + 1 + t by omega]
        simpa using this

/-- A tag starts with `<`. -/
theorem namedTagAt_start {name : List Char} {k : Nat} (h : s[k]? ≠ some '<') :
    namedTagAt s name k = none := by
  rw [namedTagAt, if_neg (by simpa using h)]

/-- The parts of a tag that `namedTagAt` finds: after the `<`, perhaps a `/`, then the name from
`j`, and the tag ends after the angle that `nextAngle` finds past the name. -/
theorem namedTagAt_parts {name : List Char} {k stop : Nat} {c sc : Bool}
    (h : namedTagAt s name k = some (c, sc, stop)) :
    ∃ j, (j = k + 1 ∨ j = k + 2 ∧ s[k + 1]? = some '/') ∧ matchesAt s j name = true ∧
      s[nextAngle s (j + name.length)]? = some '>' ∧ stop = nextAngle s (j + name.length) + 1 := by
  unfold namedTagAt at h
  split at h
  case isFalse => cases h
  dsimp only at h
  generalize hj : (if (s[k + 1]? == some '/') = true then k + 2 else k + 1) = j at h
  split at h
  case isFalse => cases h
  rename_i hname
  split at h
  case isFalse => cases h
  rename_i hclose
  simp only [Option.some.injEq, Prod.mk.injEq] at h
  obtain ⟨-, -, rfl⟩ := h
  rw [Bool.and_eq_true] at hname
  refine ⟨j, ?_, hname.1, by simpa using hclose, rfl⟩
  split at hj
  · next hslash => exact .inr ⟨hj.symm, by simpa using hslash⟩
  · exact .inl hj.symm

/-- A tag of a name without `<` holds no `<` after its first character, ends within the text,
and is not empty. -/
theorem namedTagAt_span {name : List Char} {k stop : Nat} {c sc : Bool} (hn : '<' ∉ name)
    (h : namedTagAt s name k = some (c, sc, stop)) :
    k < stop ∧ stop ≤ s.size ∧ ∀ p, k < p → p < stop → s[p]? ≠ some '<' := by
  obtain ⟨j, hj, hname, hclose, rfl⟩ := namedTagAt_parts h
  generalize hg : nextAngle s (j + name.length) = g at hclose ⊢
  have hgsize : g < s.size := (Array.getElem?_eq_some_iff.1 hclose).1
  have hjk : k + 1 ≤ j ∧ j ≤ k + 2 := by rcases hj with rfl | ⟨rfl, -⟩ <;> omega
  have hafter : j + name.length ≤ g := hg ▸ le_skipWhile _ _ _
  refine ⟨by omega, by omega, fun p hkp hps => ?_⟩
  by_cases hpj : p < j
  · -- the slash of a closing tag
    rcases hj with rfl | ⟨rfl, hslash⟩
    · omega
    · rw [show p = k + 1 by omega, hslash]
      decide
  by_cases hpa : p < j + name.length
  · -- a character of the name
    have := getElem?_of_matchesAt hname (p - j) (by omega)
    rw [Nat.add_sub_cancel' (by omega)] at this
    rw [this]
    intro e
    exact hn (Option.some.inj e ▸ List.getElem_mem _)
  by_cases hpg : p < g
  · -- a character before the closing angle
    obtain ⟨x, hx, hP⟩ :=
      skipWhile_holds (by omega) (hg ▸ hpg : p < nextAngle s (j + name.length))
    rw [hx]
    intro e
    cases Option.some.inj e
    simp at hP
  · -- the closing angle
    rw [show p = g by omega, hclose]
    decide

theorem namedTag?_eq_none {name : List Char} {k : Nat} (h : s[k]? ≠ some '<') :
    namedTag? s name k = none := by
  rw [namedTag?, namedTagAt_start h]
  rfl

theorem tagsFrom_of_size_le {name : List Char} {k : Nat} (h : s.size ≤ k) :
    tagsFrom s name k = [] := by
  rw [tagsFrom, Nat.sub_eq_zero_of_le h]
  rfl

theorem tagsFrom_of_lt {name : List Char} {k : Nat} (h : k < s.size) :
    tagsFrom s name k = (namedTag? s name k).toList ++ tagsFrom s name (k + 1) := by
  rw [tagsFrom, tagsFrom, show s.size - k = (s.size - (k + 1)) + 1 by omega, List.range'_succ,
    List.filterMap_cons]
  cases namedTag? s name k <;> rfl

/-- Where no tag can start, the tags from two indices are the same. -/
theorem tagsFrom_skip {name : List Char} {k m : Nat} (hkm : k ≤ m)
    (hfree : ∀ p, k ≤ p → p < m → s[p]? ≠ some '<') :
    tagsFrom s name k = tagsFrom s name m := by
  induction h : m - k generalizing k with
  | zero => rw [show k = m by omega]
  | succ r ih =>
    by_cases hk : k < s.size
    · rw [tagsFrom_of_lt hk, namedTag?_eq_none (hfree k (Nat.le_refl k) (by omega)),
        Option.toList_none, List.nil_append]
      exact ih (by omega) (fun p hp hpm => hfree p (by omega) hpm) (by omega)
    · rw [tagsFrom_of_size_le (by omega), tagsFrom_of_size_le (by omega)]

/-- The tags from a tag on are that tag and the tags after it. -/
theorem tagsFrom_of_tag {name : List Char} {k stop : Nat} {c sc : Bool} (hn : '<' ∉ name)
    (h : namedTagAt s name k = some (c, sc, stop)) :
    tagsFrom s name k = ⟨k, c, sc, stop⟩ :: tagsFrom s name stop := by
  obtain ⟨hks, hstop, hfree⟩ := namedTagAt_span hn h
  rw [tagsFrom_of_lt (by omega), namedTag?, h, Option.map_some, Option.toList_some,
    List.singleton_append, tagsFrom_skip (by omega) fun p hp hps => hfree p (by omega) hps]

end Text

/-! ## The scan is the count -/

/-- The scan from index `k` with `d` elements open is the count over the tags from `k`, given
fuel for every index left. -/
theorem scan_eq_closeAt (s : Array Char) {name : List Char} (hn : '<' ∉ name) :
    ∀ (fuel k d : Nat), s.size - k < fuel →
      closingSpan.scan s name fuel k d = closeAt d (tagsFrom s name k)
  | 0, _, _, h => absurd h (Nat.not_lt_zero _)
  | fuel + 1, k, d, h => by
    rw [closingSpan.scan]
    by_cases hk : k < s.size
    · rw [if_pos hk]
      rcases ht : namedTagAt s name k with _ | ⟨c, sc, stop⟩
      · -- no tag here: step to the next index
        rw [tagsFrom_of_lt hk, namedTag?, ht, Option.map_none, Option.toList_none,
          List.nil_append]
        exact scan_eq_closeAt s hn fuel (k + 1) d (by omega)
      · -- a tag here: jump over it and count it
        have hstop := (namedTagAt_span hn ht).1
        rw [tagsFrom_of_tag hn ht, closeAt]
        cases c with
        | true =>
          simp only [ite_true]
          split
          · rfl
          · exact scan_eq_closeAt s hn fuel stop (d - 1) (by omega)
        | false =>
          simp only [Bool.false_eq_true, ite_false]
          exact scan_eq_closeAt s hn fuel stop _ (by omega)
    · rw [if_neg hk, tagsFrom_of_size_le (by omega)]
      rfl

/-! ## The count -/

section Count

variable {d : Int} {t : NamedTag} {ts : List NamedTag} {a b : Nat}

theorem countAfter_nil (d : Int) : countAfter d [] = d := by
  simp [countAfter]

theorem countAfter_cons (d : Int) (t : NamedTag) (ts : List NamedTag) :
    countAfter d (t :: ts) = countAfter (d + t.delta) ts := by
  simp only [countAfter, List.map_cons, List.sum_cons]
  omega

/-- The count stays above zero after every prefix of a run of tags. -/
def StaysOpen (d : Int) (ts : List NamedTag) : Prop :=
  ∀ q, q <+: ts → 0 < countAfter d q

/-- The count first reaches zero at the tag `t`, after the run `pre` before it. -/
def FirstClose (d : Int) (pre : List NamedTag) (t : NamedTag) : Prop :=
  countAfter d (pre ++ [t]) = 0 ∧ StaysOpen d pre

/-- Some closing tag of the run, with span from `a` to `b`, brings the count to zero first. -/
def Closes (d : Int) (ts : List NamedTag) (a b : Nat) : Prop :=
  ∃ pre t post, ts = pre ++ t :: post ∧ t.closing = true ∧ t.start = a ∧ t.stop = b ∧
    FirstClose d pre t

theorem StaysOpen.pos (h : StaysOpen d ts) : 0 < d := by
  simpa [countAfter_nil] using h [] List.nil_prefix

theorem staysOpen_nil : StaysOpen d [] ↔ 0 < d := by
  simp [StaysOpen, countAfter_nil]

theorem staysOpen_cons : StaysOpen d (t :: ts) ↔ 0 < d ∧ StaysOpen (d + t.delta) ts := by
  simp only [StaysOpen, List.prefix_cons_iff, forall_eq_or_imp, countAfter_nil]
  constructor
  · rintro ⟨hd, h⟩
    exact ⟨hd, fun q hq => countAfter_cons d t q ▸ h _ ⟨q, rfl, hq⟩⟩
  · rintro ⟨hd, h⟩
    refine ⟨hd, fun q ⟨q', hq, hq'⟩ => ?_⟩
    rw [hq, countAfter_cons]
    exact h q' hq'

theorem firstClose_nil : FirstClose d [] t ↔ d + t.delta = 0 ∧ 0 < d := by
  simp [FirstClose, staysOpen_nil, countAfter_cons, countAfter_nil]

theorem firstClose_cons {x : NamedTag} {pre : List NamedTag} :
    FirstClose d (x :: pre) t ↔ 0 < d ∧ FirstClose (d + x.delta) pre t := by
  rw [FirstClose, FirstClose, staysOpen_cons, List.cons_append, countAfter_cons]
  exact and_left_comm

theorem Closes.pos (h : Closes d ts a b) : 0 < d := by
  obtain ⟨_, _, _, -, -, -, -, -, hopen⟩ := h
  exact hopen.pos

theorem closes_nil : ¬ Closes d [] a b := by
  rintro ⟨pre, t, post, h, -⟩
  cases pre <;> cases h

/-- The count closes at the head of a run, or further on when it stays open past the head. -/
theorem closes_cons :
    Closes d (t :: ts) a b ↔
      (t.closing = true ∧ t.start = a ∧ t.stop = b ∧ d + t.delta = 0 ∧ 0 < d) ∨
        (0 < d ∧ Closes (d + t.delta) ts a b) := by
  constructor
  · rintro ⟨pre, x, post, h, hx⟩
    rcases List.cons_eq_append_iff.1 h with ⟨rfl, e⟩ | ⟨pre', rfl, e⟩
    · cases e
      obtain ⟨hc, ha, hb, hf⟩ := hx
      exact .inl ⟨hc, ha, hb, firstClose_nil.1 hf⟩
    · obtain ⟨hc, ha, hb, hf⟩ := hx
      obtain ⟨hd, hf'⟩ := firstClose_cons.1 hf
      exact .inr ⟨hd, pre', x, post, e, hc, ha, hb, hf'⟩
  · rintro (⟨hc, ha, hb, hf⟩ | ⟨hd, pre, x, post, rfl, hc, ha, hb, hf⟩)
    · exact ⟨[], t, ts, rfl, hc, ha, hb, firstClose_nil.2 hf⟩
    · exact ⟨t :: pre, x, post, rfl, hc, ha, hb, firstClose_cons.2 ⟨hd, hf⟩⟩

theorem delta_closing (h : t.closing = true) : t.delta = -1 := by
  simp [NamedTag.delta, h]

/-- The count of the scan after an opening tag. -/
theorem opening_count (d : Nat) (t : NamedTag) (h : t.closing = false) :
    ((if t.selfClosing then d else d + 1 : Nat) : Int) = d + t.delta := by
  simp only [NamedTag.delta, h, Bool.false_eq_true, ite_false]
  split <;> simp

/-- The count answers the span of the closing tag at which it first reaches zero. -/
theorem closeAt_eq_some_iff :
    ∀ {d : Nat} (ts : List NamedTag), 0 < d → (closeAt d ts = some (a, b) ↔ Closes d ts a b)
  | _, [], _ => by simp [closeAt, closes_nil]
  | d, t :: ts, hd => by
    have hdi : (0 : Int) < d := by omega
    rw [closeAt, closes_cons]
    cases hc : t.closing
    · -- an opening tag is no match, and the count goes on from its new value
      have hd' : 0 < (if t.selfClosing then d else d + 1) := by split <;> omega
      rw [if_neg Bool.false_ne_true, closeAt_eq_some_iff ts hd', opening_count d t hc]
      simp only [Bool.false_eq_true, false_and, false_or, hdi, true_and]
    · rw [if_pos rfl, delta_closing hc]
      by_cases h1 : d = 1
      · -- the count reaches zero at this tag, so it cannot stay open past it
        subst h1
        rw [if_pos (beq_self_eq_true 1), Option.some.injEq, Prod.mk.injEq]
        constructor
        · rintro ⟨ha, hb⟩
          exact .inl ⟨rfl, ha, hb, by omega, hdi⟩
        · rintro (⟨-, ha, hb, -⟩ | ⟨-, h⟩)
          · exact ⟨ha, hb⟩
          · exact absurd h.pos (by omega)
      · rw [if_neg (by simpa using h1), closeAt_eq_some_iff ts (by omega),
          show ((d - 1 : Nat) : Int) = d + -1 by omega]
        constructor
        · exact fun h => .inr ⟨hdi, h⟩
        · rintro (⟨-, -, -, h0, -⟩ | ⟨-, h⟩)
          · omega
          · exact h

/-- The count answers nothing when it never reaches zero. -/
theorem closeAt_eq_none_iff :
    ∀ {d : Nat} (ts : List NamedTag), 0 < d → (closeAt d ts = none ↔ StaysOpen d ts)
  | _, [], hd => by simp [closeAt, staysOpen_nil, hd]
  | d, t :: ts, hd => by
    have hdi : (0 : Int) < d := by omega
    rw [closeAt, staysOpen_cons]
    cases hc : t.closing
    · have hd' : 0 < (if t.selfClosing then d else d + 1) := by split <;> omega
      rw [if_neg Bool.false_ne_true, closeAt_eq_none_iff ts hd', opening_count d t hc]
      simp only [hdi, true_and]
    · rw [if_pos rfl, delta_closing hc]
      by_cases h1 : d = 1
      · -- the count reaches zero at this tag
        subst h1
        rw [if_pos (beq_self_eq_true 1)]
        constructor
        · intro h
          cases h
        · rintro ⟨-, h⟩
          exact absurd h.pos (by omega)
      · rw [if_neg (by simpa using h1), closeAt_eq_none_iff ts (by omega),
          show ((d - 1 : Nat) : Int) = d + -1 by omega]
        simp only [hdi, true_and]

end Count

/-- `closingSpan` finds the closing tag that brings the count of open elements of the name, one
at the start, to zero, and answers nothing when no closing tag does. -/
theorem closingSpan_finds_matching_tag (s : Array Char) (name : String) (hn : '<' ∉ name.toList) :
    (∀ a b, closingSpan s name = some (a, b) ↔
      ∃ pre t post, tagsOf s name = pre ++ t :: post ∧ t.closing = true ∧ t.start = a ∧
        t.stop = b ∧ countAfter 1 (pre ++ [t]) = 0 ∧
        ∀ q, q <+: pre → 0 < countAfter 1 q) ∧
    (closingSpan s name = none ↔ ∀ q, q <+: tagsOf s name → 0 < countAfter 1 q) := by
  have hscan : closingSpan s name = closeAt 1 (tagsOf s name) :=
    scan_eq_closeAt s hn (s.size + 1) 0 1 (by omega)
  refine ⟨fun a b => ?_, ?_⟩
  · rw [hscan, closeAt_eq_some_iff _ Nat.one_pos]
    rfl
  · rw [hscan, closeAt_eq_none_iff _ Nat.one_pos]
    rfl

/-- In `x<Note/><Note>y</Note></Note>z` the tag that closes itself leaves the count at one and
the inner pair raises and lowers it, so the last closing tag is the match. -/
theorem closingSpan_passes_inner_note :
    '<' ∉ "Note".toList ∧
    (∀ a b, closingSpan "x<Note/><Note>y</Note></Note>z".toList.toArray "Note" = some (a, b) ↔
      ∃ pre t post, tagsOf "x<Note/><Note>y</Note></Note>z".toList.toArray "Note" =
          pre ++ t :: post ∧ t.closing = true ∧ t.start = a ∧ t.stop = b ∧
        countAfter 1 (pre ++ [t]) = 0 ∧ ∀ q, q <+: pre → 0 < countAfter 1 q) ∧
    (closingSpan "x<Note/><Note>y</Note></Note>z".toList.toArray "Note" = none ↔
      ∀ q, q <+: tagsOf "x<Note/><Note>y</Note></Note>z".toList.toArray "Note" →
        0 < countAfter 1 q) :=
  have hn : '<' ∉ "Note".toList := by decide
  ⟨hn, closingSpan_finds_matching_tag _ _ hn⟩

end Manuscript.Document
