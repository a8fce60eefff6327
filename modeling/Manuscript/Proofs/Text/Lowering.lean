import Manuscript.Text.Case
import Manuscript.Text.Blank
import Manuscript.Proofs.Include.Specifier

/-!
# Lowering twice

Every character that lowering produces is its own lowercase form and is blank only if the
character it came from is (`lowerChar_of_mem_lowerChar`, `isBlank_of_mem_lowerChar`). Hence a
lowered text lowers to itself (`toLower_toLower`), and trimming, lowering, then trimming and
lowering again changes nothing (`toLower_trimBlank_idem`).

The character facts rest on one check of the table of runs (`lowerRuns_settle`): each run moves
its characters, as a block, onto valid characters that no run holds, away from the blanks and
from capital I with dot above. The check compares runs with runs, so it looks at each pair of
runs once rather than at each character.
-/

namespace Manuscript.Text

/-! ## The table of runs -/

/-- The blank characters as ranges of code points, as `isBlank` lists them. -/
def blankRanges : List (Nat × Nat) :=
  [(9, 13), (0x1C, 0x20), (0x85, 0x85), (0xA0, 0xA0), (0x1680, 0x1680), (0x2000, 0x200A),
    (0x2028, 0x2029), (0x202F, 0x202F), (0x205F, 0x205F), (0x3000, 0x3000)]

namespace CaseRun

/-- The code point the first character of a run moves to. -/
def imageStart (r : CaseRun) : Nat := (r.first + r.shift).toNat

/-- The code point the last character of a run moves to. -/
def imageEnd (r : CaseRun) : Nat := (r.last + r.shift).toNat

/-- Whether the characters a run moves land outside the code points from `lo` to `hi`. -/
def avoids (r : CaseRun) (lo hi : Nat) : Bool :=
  r.imageEnd < lo || hi < r.imageStart

/-- Whether the characters a run moves land on no character that run `r'` holds: the two lie
apart, or `r'` takes every other code point and the moved characters all have the other
parity. -/
def misses (r r' : CaseRun) : Bool :=
  r.avoids r'.first r'.last ||
    (r'.stride == 2 && (r.stride == 2 || r.first == r.last) && r.imageStart % 2 != r'.first % 2)

/-- Whether a run of the lowering table moves its characters onto valid characters that no run
of the table holds, that are not blank, and that are not capital I with dot above. -/
def settles (r : CaseRun) : Bool :=
  decide (0 ≤ (r.first : Int) + r.shift) && r.imageEnd < 0x110000 &&
    r.avoids 0xD800 0xDFFF && r.avoids 0x130 0x130 &&
    blankRanges.all (fun lh => r.avoids lh.1 lh.2) && lowerRuns.all r.misses

theorem holds_iff {r : CaseRun} {n : Nat} :
    r.holds n = true ↔ r.first ≤ n ∧ n ≤ r.last ∧ (n - r.first) % r.stride = 0 := by
  simp [holds, and_assoc]

variable {r r' : CaseRun} {n : Nat}

/-- A held character moves between the images of the run's ends. -/
theorem image_between (h : r.holds n = true) :
    r.imageStart ≤ (n + r.shift).toNat ∧ (n + r.shift).toNat ≤ r.imageEnd := by
  obtain ⟨h1, h2, -⟩ := holds_iff.1 h
  simp only [imageStart, imageEnd]
  omega

theorem not_between_of_avoids {lo hi : Nat} (h : r.avoids lo hi = true)
    (hn : r.holds n = true) :
    ¬ (lo ≤ (n + r.shift).toNat ∧ (n + r.shift).toNat ≤ hi) := by
  have := image_between hn
  simp only [avoids, Bool.or_eq_true, decide_eq_true_eq] at h
  omega

/-- A run that `r` misses holds no character that `r` moves. -/
theorem holds_image_of_misses (h : r.misses r' = true) (hpos : 0 ≤ (r.first : Int) + r.shift)
    (hn : r.holds n = true) : r'.holds (n + r.shift).toNat = false := by
  rw [Bool.eq_false_iff]
  intro h'
  obtain ⟨h1, h2, h3⟩ := holds_iff.1 hn
  obtain ⟨h1', h2', h3'⟩ := holds_iff.1 h'
  simp only [misses, Bool.or_eq_true, Bool.and_eq_true, beq_iff_eq, bne_iff_ne, ne_eq] at h
  rcases h with hapart | ⟨⟨hs', hs⟩, hpar⟩
  · exact not_between_of_avoids hapart hn ⟨h1', h2'⟩
  · -- the moved character and the characters of `r'` have the parities of the runs' starts
    rw [hs'] at h3'
    simp only [imageStart] at hpar
    rcases hs with hs | hs
    · rw [hs] at h3
      omega
    · omega

end CaseRun

theorem lowerRuns_settle : lowerRuns.all CaseRun.settles = true := by
  decide +kernel

/-- What the table check gives for one character that a run moves. -/
theorem image_settled {r : CaseRun} (hr : r ∈ lowerRuns) {n : Nat} (hn : r.holds n = true) :
    (Char.ofNat (n + r.shift).toNat).toNat = (n + r.shift).toNat ∧ (n + r.shift).toNat ≠ 0x130 ∧
      (∀ r' ∈ lowerRuns, r'.holds (n + r.shift).toNat = false) ∧
      ∀ lh ∈ blankRanges, ¬ (lh.1 ≤ (n + r.shift).toNat ∧ (n + r.shift).toNat ≤ lh.2) := by
  have hs := List.all_eq_true.1 lowerRuns_settle r hr
  simp only [CaseRun.settles, Bool.and_eq_true, decide_eq_true_eq, List.all_eq_true] at hs
  obtain ⟨⟨⟨⟨⟨hpos, htop⟩, hsur⟩, hdot⟩, hblank⟩, hmiss⟩ := hs
  have hbetween := CaseRun.image_between hn
  have hsur' := CaseRun.not_between_of_avoids hsur hn
  have hdot' := CaseRun.not_between_of_avoids hdot hn
  refine ⟨?_, by omega, fun r' hr' => CaseRun.holds_image_of_misses (hmiss r' hr') hpos hn,
    fun lh hlh => CaseRun.not_between_of_avoids (hblank lh hlh) hn⟩
  have hvalid : (n + r.shift).toNat.isValidChar := by
    simp only [Nat.isValidChar]
    omega
  rw [Char.ofNat, dif_pos hvalid]
  rfl

theorem isBlank_iff_mem_blankRanges (c : Char) :
    isBlank c = true ↔ ∃ lh ∈ blankRanges, lh.1 ≤ c.toNat ∧ c.toNat ≤ lh.2 := by
  simp only [isBlank, blankRanges, List.mem_cons, List.not_mem_nil, or_false,
    exists_eq_or_imp, exists_eq_left, Bool.or_eq_true, Bool.and_eq_true, decide_eq_true_eq,
    beq_iff_eq]
  omega

/-! ## Characters -/

theorem mapByRuns_cases (runs : List CaseRun) (c : Char) :
    (mapByRuns runs c = c ∧ ∀ r ∈ runs, r.holds c.toNat = false) ∨
      ∃ r ∈ runs, r.holds c.toNat = true ∧
        mapByRuns runs c = Char.ofNat (c.toNat + r.shift).toNat := by
  unfold mapByRuns
  split
  · rename_i r hr
    exact .inr ⟨r, List.mem_of_find?_eq_some hr, by simpa using List.find?_some hr, rfl⟩
  · rename_i hnone
    exact .inl ⟨rfl, fun r hr => by simpa using List.find?_eq_none.1 hnone r hr⟩

theorem capitals_mem_lowerRuns : (⟨0x41, 0x5a, 1, 32⟩ : CaseRun) ∈ lowerRuns := by
  unfold lowerRuns
  exact List.mem_cons_self

theorem capital_iff {c : Char} : ('A' ≤ c ∧ c ≤ 'Z') ↔ 0x41 ≤ c.toNat ∧ c.toNat ≤ 0x5a := by
  simp only [Char.le_def, UInt32.le_iff_toNat_le]
  exact Iff.rfl

/-- A character that no run moves, other than capital I with dot above, is its own lowercase
form. -/
theorem lowerChar_of_unheld {c : Char} (hdot : c.toNat ≠ 0x130)
    (h : ∀ r ∈ lowerRuns, r.holds c.toNat = false) : lowerChar c = [c] := by
  have hcap : ¬ ('A' ≤ c ∧ c ≤ 'Z') := by
    intro hAZ
    have h0 := h _ capitals_mem_lowerRuns
    rw [Bool.eq_false_iff, ne_eq, CaseRun.holds_iff] at h0
    exact h0 ⟨(capital_iff.1 hAZ).1, (capital_iff.1 hAZ).2, Nat.mod_one _⟩
  by_cases hsmall : c.toNat < 128
  · simp [lowerChar, hsmall, hcap]
  · rcases mapByRuns_cases lowerRuns c with ⟨hc, -⟩ | ⟨r, hr, hheld, -⟩
    · simp [lowerChar, hsmall, hdot, hc]
    · simp [h r hr] at hheld

/-- Lowering a character: it stays, it is capital I with dot above, or a run moves it. -/
theorem lowerChar_cases (c : Char) :
    lowerChar c = [c] ∨ (c.toNat = 0x130 ∧ lowerChar c = ['i', '\u0307']) ∨
      ∃ r ∈ lowerRuns, r.holds c.toNat = true ∧
        lowerChar c = [Char.ofNat (c.toNat + r.shift).toNat] := by
  by_cases hsmall : c.toNat < 128
  · by_cases hAZ : 'A' ≤ c ∧ c ≤ 'Z'
    · -- a capital moves by 32, as the first run of the table says
      have hn := capital_iff.1 hAZ
      refine .inr (.inr ⟨_, capitals_mem_lowerRuns,
        CaseRun.holds_iff.2 ⟨hn.1, hn.2, Nat.mod_one _⟩, ?_⟩)
      simp only [lowerChar, hsmall, if_true, hAZ, decide_true, Bool.and_self]
      congr 2
    · exact .inl (by simp [lowerChar, hsmall, hAZ])
  · by_cases hdot : c.toNat = 0x130
    · exact .inr (.inl ⟨hdot, by simp [lowerChar, hdot]⟩)
    · rcases mapByRuns_cases lowerRuns c with ⟨hc, -⟩ | ⟨r, hr, hh, hm⟩
      · exact .inl (by simp [lowerChar, hsmall, hdot, hc])
      · exact .inr (.inr ⟨r, hr, hh, by simp [lowerChar, hsmall, hdot, hm]⟩)

theorem lowerChar_ne_nil (c : Char) : lowerChar c ≠ [] := by
  rcases lowerChar_cases c with h | ⟨-, h⟩ | ⟨r, -, -, h⟩ <;> simp [h]

/-- Every character that lowering produces is its own lowercase form. -/
theorem lowerChar_of_mem_lowerChar {c d : Char} (hd : d ∈ lowerChar c) : lowerChar d = [d] := by
  rcases lowerChar_cases c with h | ⟨-, h⟩ | ⟨r, hr, hheld, h⟩
  · rw [h, List.mem_singleton] at hd
    rw [hd, h]
  · rw [h] at hd
    simp only [List.mem_cons, List.not_mem_nil, or_false] at hd
    rcases hd with rfl | rfl <;> decide +kernel
  · rw [h, List.mem_singleton] at hd
    obtain ⟨htoNat, hdot, hfree, -⟩ := image_settled hr hheld
    have hnat : d.toNat = (c.toNat + r.shift).toNat := hd ▸ htoNat
    exact lowerChar_of_unheld (hnat ▸ hdot) (hnat ▸ hfree)

/-- Lowering a character that is not blank produces no blank. -/
theorem isBlank_of_mem_lowerChar {c d : Char} (hc : isBlank c = false) (hd : d ∈ lowerChar c) :
    isBlank d = false := by
  rcases lowerChar_cases c with h | ⟨-, h⟩ | ⟨r, hr, hheld, h⟩
  · rw [h, List.mem_singleton] at hd
    rwa [hd]
  · rw [h] at hd
    simp only [List.mem_cons, List.not_mem_nil, or_false] at hd
    rcases hd with rfl | rfl <;> decide
  · rw [h, List.mem_singleton] at hd
    obtain ⟨htoNat, -, -, hblank⟩ := image_settled hr hheld
    have hnat : d.toNat = (c.toNat + r.shift).toNat := hd ▸ htoNat
    rw [Bool.eq_false_iff, ne_eq, isBlank_iff_mem_blankRanges, hnat]
    rintro ⟨lh, hlh, hin⟩
    exact hblank lh hlh hin

/-! ## Texts -/

/-- What lowering makes of one character in its context: a nonempty list of lowercase forms of
it, or a small sigma. -/
theorem lowerWithin_cons_eq (b : List Char) (c : Char) (after : List Char) :
    ∃ here, lowerWithin b (c :: after) = here ++ lowerWithin (c :: b) after ∧ here ≠ [] ∧
      ∀ d ∈ here, d ∈ lowerChar c ∨ d = 'σ' ∨ d = 'ς' := by
  rw [lowerWithin]
  refine ⟨_, rfl, ?_, fun d hd => ?_⟩
  · split
    · simp
    · exact lowerChar_ne_nil c
  · split at hd
    · split at hd <;> simp_all
    · exact .inl hd

theorem mem_lowerWithin {b cs : List Char} {d : Char} (h : d ∈ lowerWithin b cs) :
    (∃ c ∈ cs, d ∈ lowerChar c) ∨ d = 'σ' ∨ d = 'ς' := by
  induction cs generalizing b with
  | nil => simp [lowerWithin] at h
  | cons c after ih =>
    obtain ⟨here, heq, -, hhere⟩ := lowerWithin_cons_eq b c after
    rw [heq, List.mem_append] at h
    rcases h with h | h
    · rcases hhere d h with h | h
      · exact .inl ⟨c, List.mem_cons_self, h⟩
      · exact .inr h
    · rcases ih h with ⟨c', hc', h'⟩ | h'
      · exact .inl ⟨c', List.mem_cons_of_mem _ hc', h'⟩
      · exact .inr h'

theorem lowerChar_of_mem_lowerWithin {b cs : List Char} {d : Char}
    (h : d ∈ lowerWithin b cs) : lowerChar d = [d] := by
  rcases mem_lowerWithin h with ⟨c, -, hc⟩ | rfl | rfl
  · exact lowerChar_of_mem_lowerChar hc
  · decide +kernel
  · decide +kernel

/-- Characters that are their own lowercase forms lower to themselves, whatever surrounds them:
none of them is a capital sigma. -/
theorem lowerWithin_of_settled {b cs : List Char} (h : ∀ d ∈ cs, lowerChar d = [d]) :
    lowerWithin b cs = cs := by
  induction cs generalizing b with
  | nil => rfl
  | cons d rest ih =>
    have hd := h d List.mem_cons_self
    have hsig : (d == 'Σ') = false := by
      rw [beq_eq_false_iff_ne]
      rintro rfl
      revert hd
      decide +kernel
    rw [lowerWithin]
    simp only [hsig, Bool.false_eq_true, if_false, hd, List.singleton_append,
      ih fun e he => h e (List.mem_cons_of_mem _ he)]

theorem toLower_toLower (s : String) : toLower (toLower s) = toLower s := by
  simp only [toLower, String.toList_ofList,
    lowerWithin_of_settled fun d hd => lowerChar_of_mem_lowerWithin hd]

theorem isBlank_of_lowered {c d : Char} (hc : isBlank c = false)
    (h : d ∈ lowerChar c ∨ d = 'σ' ∨ d = 'ς') : isBlank d = false := by
  rcases h with h | rfl | rfl
  · exact isBlank_of_mem_lowerChar hc h
  · decide
  · decide

theorem lowerWithin_ne_nil (b : List Char) {cs : List Char} (h : cs ≠ []) :
    lowerWithin b cs ≠ [] := by
  obtain ⟨c, after, rfl⟩ := List.exists_cons_of_ne_nil h
  obtain ⟨here, heq, hne, -⟩ := lowerWithin_cons_eq b c after
  simp [heq, hne]

theorem head_lowerWithin {b : List Char} {c : Char} {after : List Char} (hc : isBlank c = false) :
    ∀ d ∈ (lowerWithin b (c :: after)).head?, isBlank d = false := by
  obtain ⟨here, heq, hne, hhere⟩ := lowerWithin_cons_eq b c after
  obtain ⟨e, rest, rfl⟩ := List.exists_cons_of_ne_nil hne
  intro d hd
  rw [heq, List.cons_append, List.head?_cons, Option.mem_def, Option.some_inj] at hd
  exact isBlank_of_lowered hc (hhere d (hd ▸ List.mem_cons_self))

theorem getLast_lowerWithin {b : List Char} (xs : List Char) {c : Char}
    (hc : isBlank c = false) :
    ∀ d ∈ (lowerWithin b (xs ++ [c])).getLast?, isBlank d = false := by
  induction xs generalizing b with
  | nil =>
    obtain ⟨here, heq, hne, hhere⟩ := lowerWithin_cons_eq b c []
    intro d hd
    rw [List.nil_append, heq, lowerWithin, List.append_nil] at hd
    exact isBlank_of_lowered hc (hhere d (List.mem_of_getLast? hd))
  | cons x xs ih =>
    obtain ⟨here, heq, -, -⟩ := lowerWithin_cons_eq b x (xs ++ [c])
    have hne := lowerWithin_ne_nil (x :: b)
      (List.append_ne_nil_of_right_ne_nil xs (List.cons_ne_nil c []))
    intro d hd
    rw [List.cons_append, heq, List.getLast?_append_of_ne_nil _ hne] at hd
    exact ih d hd

/-! ## Trimming -/

theorem head_trimListBy (p : Char → Bool) (l : List Char) :
    ∀ c ∈ (trimListBy p l).head?, p c = false := by
  intro c hc
  obtain ⟨t, ht⟩ : trimListBy p l <+: l.dropWhile p := by
    simpa [trimListBy] using (List.dropWhile_suffix (l := (l.dropWhile p).reverse) p).reverse
  have hstart := List.head?_dropWhile_not p l
  rw [← ht, List.head?_append, Option.mem_def.1 hc] at hstart
  exact hstart

theorem getLast_trimListBy (p : Char → Bool) (l : List Char) :
    ∀ c ∈ (trimListBy p l).getLast?, p c = false := by
  intro c hc
  have hend := List.head?_dropWhile_not p (l.dropWhile p).reverse
  rw [trimListBy, List.getLast?_reverse] at hc
  rw [Option.mem_def.1 hc] at hend
  exact hend

/-- Lowering a trimmed text leaves nothing to trim. -/
theorem trimBlank_toLower_trimBlank (s : String) :
    trimBlank (toLower (trimBlank s)) = toLower (trimBlank s) := by
  have hlow : (toLower (trimBlank s)).toList = lowerWithin [] (trimListBy isBlank s.toList) := by
    simp [toLower, trimBlank]
  cases hT : trimListBy isBlank s.toList with
  | nil =>
    rw [hT, lowerWithin, String.toList_eq_nil_iff] at hlow
    rw [hlow]
    rfl
  | cons c rest =>
    rw [hT] at hlow
    have hc : isBlank c = false := head_trimListBy isBlank s.toList c (by simp [hT])
    obtain ⟨xs, c', hsplit⟩ : ∃ xs c', c :: rest = xs ++ [c'] :=
      ⟨_, _, (List.dropLast_append_getLast (List.cons_ne_nil c rest)).symm⟩
    have hc' : isBlank c' = false :=
      getLast_trimListBy isBlank s.toList c' (by simp [hT, hsplit])
    have hne := lowerWithin_ne_nil [] (List.cons_ne_nil c rest)
    have hh : (toLower (trimBlank s)).toList.head? =
        some ((lowerWithin [] (c :: rest)).head hne) := by
      rw [hlow]
      exact List.head?_eq_some_head hne
    have hl : (toLower (trimBlank s)).toList.getLast? =
        some ((lowerWithin [] (c :: rest)).getLast hne) := by
      rw [hlow]
      exact List.getLast?_eq_some_getLast hne
    refine Document.trimBlank_of_ends hh (head_lowerWithin hc _ (List.head?_eq_some_head hne)) hl
      (getLast_lowerWithin (b := []) xs hc' _ ?_)
    rw [← hsplit]
    exact List.getLast?_eq_some_getLast hne

/-- Trimming and lowering a text a second time changes nothing. -/
theorem toLower_trimBlank_idem (s : String) :
    toLower (trimBlank (toLower (trimBlank s))) = toLower (trimBlank s) := by
  rw [trimBlank_toLower_trimBlank, toLower_toLower]

end Manuscript.Text
