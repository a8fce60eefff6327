import Manuscript.Host.Path
import Mathlib.Data.List.Basic

/-!
# Normal absolute paths

A normal absolute path is one or two slashes followed by parts joined by slashes, none of them
empty, `.`, `..` or holding a slash (`Kept`); `form` builds it. Normalizing an absolute path
gives such a path (`normalize_of_isAbsolute`), and such a path is its own normal form
(`normalize_form`). So against an absolute working directory the absolute form of a path is
absolute, and taking it again changes nothing (`absolute_absolute`): a file named by a path that
was made absolute once is named by the same text when that path is made absolute again.
-/

namespace Manuscript.Path

/-- A part that a normal absolute path keeps. -/
def Kept (part : String) : Prop := part ≠ "" ∧ part ≠ "." ∧ part ≠ ".." ∧ '/' ∉ part.toList

/-- The path with `slashes` leading slashes and then the parts `parts`. -/
def form (slashes : Nat) (parts : List String) : String :=
  String.ofList (List.replicate slashes '/') ++ "/".intercalate parts

theorem startsWith_eq (s pat : String) :
    s.startsWith pat = decide (pat.toList <+: s.toList) := by
  rw [Bool.eq_iff_iff, String.startsWith_string_iff, decide_eq_true_iff]

theorem isAbsolute_iff (p : String) : isAbsolute p = true ↔ ['/'] <+: p.toList := by
  rw [isAbsolute, startsWith_eq, decide_eq_true_iff]
  rfl

/-! ## The parts of a path -/

section Parts

variable {k : Nat} {acc : List String} {part : String}

@[simp] theorem addPart_empty : addPart k acc "" = acc := by
  simp [addPart]

theorem addPart_of_kept (h : Kept part) : addPart k acc part = part :: acc := by
  obtain ⟨h₁, h₂, h₃, -⟩ := h
  simp [addPart, h₁, h₂, h₃]

/-- Past a leading slash, a `..` can only drop a kept part, so the parts read so far stay kept. -/
theorem kept_addPart (hk : k ≠ 0) (hacc : ∀ x ∈ acc, Kept x) (hpart : '/' ∉ part.toList) :
    ∀ x ∈ addPart k acc part, Kept x := by
  -- a `..` is pushed only onto a `..` or into a relative path, and here there is neither
  have hhead : acc.head? ≠ some ".." := fun hh => (hacc _ (List.mem_of_mem_head? hh)).2.2.1 rfl
  by_cases hdots : part = "" ∨ part = "."
  · simpa [addPart, hdots] using hacc
  by_cases hup : part = ".."
  · subst hup
    have hdrop : addPart k acc ".." = acc.drop 1 := by simp [addPart, hk, hhead]
    rw [hdrop]
    exact fun x hx => hacc x (List.mem_of_mem_drop hx)
  obtain ⟨hempty, hdot⟩ := not_or.1 hdots
  rw [addPart_of_kept ⟨hempty, hdot, hup, hpart⟩]
  rintro x (_ | ⟨_, hx⟩)
  · exact ⟨hempty, hdot, hup, hpart⟩
  · exact hacc x hx

theorem foldl_addPart_kept (hk : k ≠ 0) {parts : List String}
    (hparts : ∀ p ∈ parts, '/' ∉ p.toList) :
    ∀ {acc : List String}, (∀ x ∈ acc, Kept x) → ∀ x ∈ parts.foldl (addPart k) acc, Kept x := by
  induction parts with
  | nil => exact fun hacc => hacc
  | cons p ps ih =>
    intro acc hacc
    exact ih (fun q hq => hparts q (List.mem_cons_of_mem _ hq))
      (kept_addPart hk hacc (hparts p List.mem_cons_self))

theorem foldl_addPart_of_kept :
    ∀ {acc parts : List String}, (∀ p ∈ parts, Kept p) →
      parts.foldl (addPart k) acc = parts.reverse ++ acc
  | _, [], _ => rfl
  | _, p :: _, hparts => by
    rw [List.foldl_cons, addPart_of_kept (hparts p List.mem_cons_self),
      foldl_addPart_of_kept fun q hq => hparts q (List.mem_cons_of_mem _ hq)]
    simp

theorem foldl_addPart_empty :
    ∀ (n : Nat) (acc : List String), (List.replicate n "").foldl (addPart k) acc = acc
  | 0, _ => rfl
  | n + 1, acc => by
    rw [List.replicate_succ, List.foldl_cons, addPart_empty, foldl_addPart_empty n acc]

end Parts

/-! ## Splitting at slashes -/

/-- No part of a list split at a separator holds the separator. -/
theorem not_mem_of_mem_splitOn (a : Char) :
    ∀ {cs : List Char}, ∀ l ∈ cs.splitOn a, a ∉ l
  | [] => by simp [List.splitOn_nil]
  | c :: cs => by
    rw [List.splitOn_cons_eq_if_modifyHead]
    split
    · next hc =>
      rintro l (_ | ⟨_, hl⟩)
      · simp
      · exact not_mem_of_mem_splitOn a l hl
    · next hc =>
      obtain ⟨first, rest, hsplit⟩ := List.exists_cons_of_ne_nil (List.splitOn_ne_nil a cs)
      rw [hsplit, List.modifyHead_cons]
      rintro l (_ | ⟨_, hl⟩)
      · have hfirst := not_mem_of_mem_splitOn a first (by rw [hsplit]; exact List.mem_cons_self)
        simp only [List.mem_cons, not_or]
        exact ⟨fun h => hc (by simp [h]), hfirst⟩
      · exact not_mem_of_mem_splitOn a l (by rw [hsplit]; exact List.mem_cons_of_mem _ hl)

theorem splitOn_replicate_append (cs : List Char) :
    ∀ n : Nat, (List.replicate n '/' ++ cs).splitOn '/' = List.replicate n [] ++ cs.splitOn '/'
  | 0 => rfl
  | n + 1 => by
    rw [List.replicate_succ, List.cons_append, List.splitOn_cons_eq_if_modifyHead,
      if_pos (by decide), splitOn_replicate_append cs n]
    rfl

/-! ## Normal forms -/

section Form

variable {k : Nat} {parts : List String}

theorem toList_form (k : Nat) (parts : List String) :
    (form k parts).toList =
      List.replicate k '/' ++ ['/'].intercalate (parts.map String.toList) := by
  simp [form, String.toList_intercalate]

/-- Past its leading slashes a normal form does not start with a slash. -/
theorem head?_intercalate_ne (h : ∀ p ∈ parts, Kept p) :
    (['/'].intercalate (parts.map String.toList)).head? ≠ some '/' := by
  cases parts with
  | nil => simp
  | cons p ps =>
    obtain ⟨hne, -, -, hslash⟩ := h p List.mem_cons_self
    obtain ⟨c, cs, hp⟩ := List.exists_cons_of_ne_nil (by simpa using hne : p.toList ≠ [])
    rw [List.map_cons, hp, List.intercalate_cons_cons_left, List.head?_cons]
    rintro ⟨⟩
    exact hslash (by simp [hp])

theorem leadingSlashes_form (h₁ : 1 ≤ k) (h₂ : k ≤ 2) (h : ∀ p ∈ parts, Kept p) :
    leadingSlashes (form k parts) = k := by
  have hhead := head?_intercalate_ne h
  unfold leadingSlashes
  simp only [startsWith_eq, toList_form]
  generalize ['/'].intercalate (parts.map String.toList) = rest at hhead
  obtain rfl | rfl : k = 1 ∨ k = 2 := by omega
  all_goals
    rcases rest with _ | ⟨c, rest⟩
    · simp
    · have hc : '/' ≠ c := fun hc => hhead (by rw [← hc]; rfl)
      simp [hc]

theorem form_ne_empty (h₁ : 1 ≤ k) : form k parts ≠ "" := by
  intro he
  have hlist := congrArg String.toList he
  rw [toList_form] at hlist
  obtain ⟨k, rfl⟩ : ∃ k', k = k' + 1 := ⟨k - 1, by omega⟩
  simp at hlist

theorem isAbsolute_form (h₁ : 1 ≤ k) : isAbsolute (form k parts) = true := by
  rw [isAbsolute_iff, toList_form]
  obtain ⟨k, rfl⟩ : ∃ k', k = k' + 1 := ⟨k - 1, by omega⟩
  simp [List.replicate_succ]

/-- Reading the parts of a normal form back gives its parts, the last one first. -/
theorem foldl_addPart_form (h : ∀ p ∈ parts, Kept p) :
    (((form k parts).toList.splitOn '/').map String.ofList).foldl (addPart k) [] =
      parts.reverse := by
  rw [toList_form, splitOn_replicate_append, List.map_append, List.map_replicate,
    List.foldl_append, String.ofList_nil, foldl_addPart_empty]
  cases parts with
  | nil => simp [List.splitOn_nil]
  | cons p ps =>
    have hslash : ∀ l ∈ (p :: ps).map String.toList, '/' ∉ l := by
      intro l hl
      obtain ⟨q, hq, rfl⟩ := List.mem_map.1 hl
      exact (h q hq).2.2.2
    rw [List.splitOn_intercalate '/' hslash (by simp), List.map_map]
    simp only [Function.comp_def, String.ofList_toList, List.map_id']
    rw [foldl_addPart_of_kept h, List.append_nil]

/-- A normal form is its own normal form. -/
theorem normalize_form (h₁ : 1 ≤ k) (h₂ : k ≤ 2) (h : ∀ p ∈ parts, Kept p) :
    normalize (form k parts) = form k parts := by
  have hne : ¬ (form k parts).isEmpty = true := by
    rw [String.isEmpty_iff]
    exact form_ne_empty h₁
  unfold normalize
  rw [if_neg hne]
  dsimp only
  rw [leadingSlashes_form h₁ h₂ h, foldl_addPart_form h, List.reverse_reverse]
  exact if_neg hne

/-- Normalizing an absolute path keeps one or two slashes and parts that are kept. -/
theorem normalize_of_isAbsolute {x : String} (hx : isAbsolute x = true) :
    ∃ k parts, 1 ≤ k ∧ k ≤ 2 ∧ (∀ p ∈ parts, Kept p) ∧ normalize x = form k parts := by
  have hslash : x.startsWith "/" = true := hx
  have hk : 1 ≤ leadingSlashes x ∧ leadingSlashes x ≤ 2 := by
    unfold leadingSlashes
    rw [if_pos hslash]
    split <;> omega
  have hne : ¬ x.isEmpty = true := by
    rw [String.isEmpty_iff]
    rintro rfl
    exact absurd hx (by decide)
  have hpieces : ∀ p ∈ (x.toList.splitOn '/').map String.ofList, '/' ∉ p.toList := by
    intro p hp
    obtain ⟨l, hl, rfl⟩ := List.mem_map.1 hp
    rw [String.toList_ofList]
    exact not_mem_of_mem_splitOn '/' l hl
  have hkept : ∀ p ∈ ((x.toList.splitOn '/').map String.ofList).foldl
      (addPart (leadingSlashes x)) [], Kept p :=
    foldl_addPart_kept (by omega) hpieces (by simp)
  refine ⟨leadingSlashes x, _, hk.1, hk.2, fun p hp => hkept p (List.mem_reverse.1 hp), ?_⟩
  unfold normalize
  rw [if_neg hne]
  exact if_neg (by rw [String.isEmpty_iff]; exact form_ne_empty hk.1)

end Form

/-! ## Absolute paths -/

section Absolute

variable {cwd : String}

theorem isAbsolute_normalize {x : String} (hx : isAbsolute x = true) :
    isAbsolute (normalize x) = true := by
  obtain ⟨k, parts, h₁, -, -, heq⟩ := normalize_of_isAbsolute hx
  rw [heq]
  exact isAbsolute_form h₁

theorem normalize_normalize {x : String} (hx : isAbsolute x = true) :
    normalize (normalize x) = normalize x := by
  obtain ⟨k, parts, h₁, h₂, h, heq⟩ := normalize_of_isAbsolute hx
  rw [heq]
  exact normalize_form h₁ h₂ h

theorem isAbsolute_join {a : String} (ha : isAbsolute a = true) (b : String) :
    isAbsolute (join a b) = true := by
  rw [isAbsolute_iff] at ha
  unfold join
  split
  · assumption
  split
  all_goals
    rw [isAbsolute_iff]
    simp only [String.toList_append, List.append_assoc]
    exact ha.trans (List.prefix_append _ _)

theorem isAbsolute_absolute (hcwd : isAbsolute cwd = true) (p : String) :
    isAbsolute (absolute cwd p) = true := by
  unfold absolute
  split
  · exact isAbsolute_normalize ‹_›
  · exact isAbsolute_normalize (isAbsolute_join hcwd p)

/-- Against an absolute working directory, an absolute form is its own absolute form. -/
theorem absolute_absolute (hcwd : isAbsolute cwd = true) (p : String) :
    absolute cwd (absolute cwd p) = absolute cwd p := by
  have habs := isAbsolute_absolute hcwd p
  show normalize (if isAbsolute (absolute cwd p) then _ else _) = _
  rw [if_pos habs]
  unfold absolute
  split
  · exact normalize_normalize ‹_›
  · exact normalize_normalize (isAbsolute_join hcwd p)

end Absolute

end Manuscript.Path
