import Manuscript.FrontMatter
import Manuscript.Proofs.Host.Path

/-!
# Splitting off front matter

A document's text, less one byte order mark and with CR LF read as LF, is cut into lines at its
line feeds (`FrontMatter.lines`). Joining the lines with line feeds gives the text back
(`intercalate_lines`), and a text of `k` line feeds has `k + 1` lines (`lineBreaks_intercalate`).

Either the first line is a fence and a later line closes it, the lines between holding no fence,
or the lines have no closed fence (`fenced_or_not`). In the first case the front matter is the
lines between the fences and the body the lines after the closing one (`split_fenced`); in the
second the whole text is the body (`split_unfenced`). The fences and the two parts put together
give the text again, and the body starts after as many line feeds as the fences and the front
matter hold (`split_reassembles`).

The YAML reader `load` is a parameter. The data of the block is the mapping it loads to, nothing
for a blank block or one that loads to null; YAML that cannot be read, and YAML that holds no
mapping, fail as front matter of the document. A failure to read a scalar's text as a number, a
date or a word is handed on as it is (`dataOf_cases`).
-/

namespace Manuscript.FrontMatter

open Manuscript.Text

variable (load : String → Except Yaml.LoadError Value)

/-! ## Lines -/

/-- The number of line feeds in a text. -/
def lineBreaks (s : String) : Nat := s.toList.count '\n'

theorem lines_ne_nil (s : String) : lines s ≠ [] := by
  simp [lines]

theorem not_mem_of_mem_lines {s l : String} (h : l ∈ lines s) : '\n' ∉ l.toList := by
  obtain ⟨cs, hcs, rfl⟩ := List.mem_map.1 h
  rw [String.toList_ofList]
  exact Path.not_mem_of_mem_splitOn '\n' cs hcs

/-- Joining the lines of a text with line feeds gives the text back. -/
theorem intercalate_lines (s : String) : "\n".intercalate (lines s) = s := by
  apply String.toList_inj.1
  rw [String.toList_intercalate, lines, List.map_map]
  simp only [Function.comp_def, String.toList_ofList, List.map_id']
  exact List.intercalate_splitOn '\n'

/-- The lines of text joined by line feeds, when no line holds one, are those lines. -/
theorem lines_intercalate {parts : List String} (hne : parts ≠ [])
    (h : ∀ p ∈ parts, '\n' ∉ p.toList) : lines ("\n".intercalate parts) = parts := by
  have hnl : ("\n" : String).toList = ['\n'] := rfl
  unfold lines
  rw [String.toList_intercalate, hnl]
  have hparts : ∀ l ∈ parts.map String.toList, '\n' ∉ l := by
    intro l hl
    obtain ⟨p, hp, rfl⟩ := List.mem_map.1 hl
    exact h p hp
  rw [List.splitOn_intercalate '\n' hparts (by simpa using hne), List.map_map]
  simp only [Function.comp_def, String.ofList_toList, List.map_id']

/-- Parts joined by line feeds, none holding one, have one line feed fewer than parts. -/
theorem lineBreaks_intercalate :
    ∀ {parts : List String}, parts ≠ [] → (∀ p ∈ parts, '\n' ∉ p.toList) →
      lineBreaks ("\n".intercalate parts) + 1 = parts.length
  | [], hne, _ => absurd rfl hne
  | [p], _, h => by
    rw [String.intercalate_singleton, lineBreaks, List.count_eq_zero.2 (h p List.mem_cons_self)]
    rfl
  | p :: q :: rest, _, h => by
    have ih := lineBreaks_intercalate (List.cons_ne_nil q rest)
      fun r hr => h r (List.mem_cons_of_mem _ hr)
    have hp : lineBreaks p = 0 := List.count_eq_zero.2 (h p List.mem_cons_self)
    rw [String.intercalate_cons_cons] at *
    simp only [lineBreaks, String.toList_append, List.count_append] at ih hp ⊢
    simp only [List.length_cons] at ih ⊢
    have hlf : ("\n" : String).toList.count '\n' = 1 := rfl
    omega

theorem lineBreaks_joinCrLf (s : String) : lineBreaks (joinCrLf s) = lineBreaks s := by
  unfold lineBreaks joinCrLf
  rw [String.toList_ofList]
  induction s.toList using joinCrLf.go.induct with
  | case1 rest ih => simp [joinCrLf.go, ih]
  | case2 c rest hc ih =>
    rw [joinCrLf.go]
    · simp [List.count_cons, ih]
    · exact hc
  | case3 => rfl

theorem lineBreaks_dropBom (s : String) : lineBreaks (dropBom s) = lineBreaks s := by
  unfold dropBom
  split
  · next rest h => simp [lineBreaks, h]
  · rfl

theorem not_isFence_empty : ¬ isFence "" = true := by decide

/-! ## Where the front matter ends -/

/-- A list with an element that `p` holds of is cut at the first such element. -/
theorem exists_first {α : Type} {p : α → Bool} :
    ∀ {l : List α}, (∃ x ∈ l, p x) →
      ∃ mid c after, l = mid ++ c :: after ∧ p c ∧ ∀ x ∈ mid, ¬ p x
  | [], ⟨_, hx, _⟩ => nomatch hx
  | a :: l, h => by
    by_cases ha : p a
    · exact ⟨[], a, l, rfl, ha, fun _ hx => nomatch hx⟩
    · have hl : ∃ x ∈ l, p x := by
        obtain ⟨x, hx, hpx⟩ := h
        rcases List.mem_cons.1 hx with rfl | hx
        · exact absurd hpx ha
        · exact ⟨x, hx, hpx⟩
      obtain ⟨mid, c, after, rfl, hc, hmid⟩ := exists_first hl
      refine ⟨a :: mid, c, after, rfl, hc, fun x hx => ?_⟩
      rcases List.mem_cons.1 hx with rfl | hx
      · exact ha
      · exact hmid x hx

/-- Either the first line is a fence and a later line closes it, the lines between holding no
fence, or no fence is closed. -/
theorem fenced_or_not (L : List String) :
    (∃ first mid close after, L = first :: (mid ++ close :: after) ∧ isFence first ∧
      isFence close ∧ ∀ l ∈ mid, ¬ isFence l) ∨
    (∀ first rest, L = first :: rest → isFence first → ∀ l ∈ rest, ¬ isFence l) := by
  by_cases h : ∃ first rest, L = first :: rest ∧ isFence first ∧ ∃ l ∈ rest, isFence l
  · obtain ⟨first, rest, rfl, hfirst, hrest⟩ := h
    obtain ⟨mid, close, after, rfl, hclose, hmid⟩ := exists_first hrest
    exact .inl ⟨first, mid, close, after, rfl, hfirst, hclose, hmid⟩
  · refine .inr fun first rest hL hfirst l hl hfence => h ⟨first, rest, hL, hfirst, l, hl, hfence⟩

theorem findIdx?_first {α : Type} {p : α → Bool} {c : α} {after : List α} (hc : p c) :
    ∀ {mid : List α}, (∀ x ∈ mid, ¬ p x) → (mid ++ c :: after).findIdx? p = some mid.length
  | [], _ => by rw [List.nil_append, List.findIdx?_cons, if_pos hc]; rfl
  | a :: mid, hmid => by
    rw [List.cons_append, List.findIdx?_cons, if_neg (hmid a List.mem_cons_self),
      findIdx?_first hc fun x hx => hmid x (List.mem_cons_of_mem _ hx)]
    rfl

section Split

variable {text : String} {first close : String} {mid after : List String}

/-- With a closed fence, the front matter is the lines between the fences and the body the lines
after the closing one. -/
theorem split_fenced (path : Option String)
    (hlines : lines (joinCrLf (dropBom text)) = first :: (mid ++ close :: after))
    (hfirst : isFence first) (hclose : isFence close) (hmid : ∀ l ∈ mid, ¬ isFence l) :
    splitWith load text path = (dataOf load ("\n".intercalate mid) path).map
      fun d => ⟨d, "\n".intercalate after, "\n".intercalate mid⟩ := by
  have hidx : (mid ++ close :: after).findIdx? isFence = some mid.length :=
    findIdx?_first hclose hmid
  have htake : (mid ++ close :: after).take mid.length = mid := List.take_left' rfl
  have hdrop : (mid ++ close :: after).drop (mid.length + 1) = after := by
    rw [← List.drop_drop, List.drop_left' rfl]
    rfl
  unfold splitWith
  simp only [hlines, hfirst, Bool.not_true, hidx, htake, hdrop]
  cases dataOf load ("\n".intercalate mid) path <;> rfl

/-- Without a closed fence, the whole text is the body. -/
theorem split_unfenced (path : Option String)
    (hnone : ∀ first rest, lines (joinCrLf (dropBom text)) = first :: rest → isFence first →
      ∀ l ∈ rest, ¬ isFence l) :
    splitWith load text path = .ok ⟨[], dropBom text, ""⟩ := by
  unfold splitWith
  dsimp only
  split
  · next first rest hL =>
    by_cases hfirst : isFence first
    · have hidx : rest.findIdx? isFence = none :=
        List.findIdx?_eq_none_iff.2 fun l hl => by simpa using hnone first rest hL hfirst l hl
      simp only [hfirst, Bool.not_true, hidx]
      rfl
    · simp only [hfirst, Bool.not_false]
      rfl
  · rfl

/-- The fences and the two parts put back together give the text, with CR LF read as LF. -/
theorem reassemble (hlines : lines (joinCrLf (dropBom text)) = first :: (mid ++ close :: after)) :
    joinCrLf (dropBom text) = first ++ "\n" ++
      (if mid = [] then "" else "\n".intercalate mid ++ "\n") ++ close ++
      (if after = [] then "" else "\n" ++ "\n".intercalate after) := by
  rw [← intercalate_lines (joinCrLf (dropBom text)), hlines,
    String.intercalate_cons_of_ne_nil (by simp)]
  rcases mid with _ | ⟨m, mid⟩ <;> rcases after with _ | ⟨a, after⟩
  · simp [String.intercalate_singleton]
  · simp [String.intercalate_cons_of_ne_nil, String.append_assoc]
  · rw [String.intercalate_append_of_ne_nil (List.cons_ne_nil _ _) (List.cons_ne_nil _ _),
      String.intercalate_singleton, if_neg (List.cons_ne_nil _ _), if_pos rfl]
    simp [String.append_assoc]
  · rw [String.intercalate_append_of_ne_nil (List.cons_ne_nil _ _) (List.cons_ne_nil _ _),
      String.intercalate_cons_of_ne_nil (List.cons_ne_nil _ _), if_neg (List.cons_ne_nil _ _),
      if_neg (List.cons_ne_nil _ _)]
    simp [String.append_assoc]

end Split

/-- Splitting a text: with a closed fence, the fences, the front matter and the body put back
together give the text, CR LF read as LF; without one, the body is the text. -/
theorem split_reassembles (text : String) (path : Option String) :
    (∃ first mid close after,
      lines (joinCrLf (dropBom text)) = first :: (mid ++ close :: after) ∧
      isFence first ∧ isFence close ∧ (∀ l ∈ mid, ¬ isFence l) ∧
      splitWith load text path = (dataOf load ("\n".intercalate mid) path).map
        (fun d => ⟨d, "\n".intercalate after, "\n".intercalate mid⟩) ∧
      joinCrLf (dropBom text) = first ++ "\n" ++
        (if mid = [] then "" else "\n".intercalate mid ++ "\n") ++ close ++
        (if after = [] then "" else "\n" ++ "\n".intercalate after) ∧
      (∀ l ∈ lines ("\n".intercalate mid), ¬ isFence l) ∧
      (after ≠ [] → lineBreaks text = lineBreaks ("\n".intercalate after) + (mid.length + 2))) ∨
    ((∀ first rest, lines (joinCrLf (dropBom text)) = first :: rest → isFence first →
        ∀ l ∈ rest, ¬ isFence l) ∧
      splitWith load text path = .ok ⟨[], dropBom text, ""⟩ ∧
      lineBreaks text = lineBreaks (dropBom text)) := by
  rcases fenced_or_not (lines (joinCrLf (dropBom text))) with
    ⟨first, mid, close, after, hL, hfirst, hclose, hmid⟩ | hnone
  · -- no line holds a line feed
    have hnl : ∀ l ∈ first :: (mid ++ close :: after), '\n' ∉ l.toList := fun l hl =>
      not_mem_of_mem_lines (hL ▸ hl)
    have hmatter : ∀ l ∈ lines ("\n".intercalate mid), ¬ isFence l := by
      rcases mid with _ | ⟨m, mid⟩
      · intro l hl
        rw [String.intercalate_nil, show lines "" = [""] from rfl, List.mem_singleton] at hl
        rw [hl]
        exact not_isFence_empty
      · rw [lines_intercalate (List.cons_ne_nil m mid)
          fun l hl => hnl l (List.mem_cons_of_mem _ (List.mem_append_left _ hl))]
        exact hmid
    have hcount : after ≠ [] →
        lineBreaks text = lineBreaks ("\n".intercalate after) + (mid.length + 2) := by
      intro hafter
      -- the text has a line feed fewer than lines, and so have the lines after the fence
      have htext := lineBreaks_intercalate (lines_ne_nil (joinCrLf (dropBom text)))
        fun l hl => not_mem_of_mem_lines hl
      rw [intercalate_lines, lineBreaks_joinCrLf, lineBreaks_dropBom, hL] at htext
      have hbody := lineBreaks_intercalate hafter fun l hl =>
        hnl l (List.mem_cons_of_mem _ (List.mem_append_right _ (List.mem_cons_of_mem _ hl)))
      simp only [List.length_cons, List.length_append] at htext
      omega
    exact .inl ⟨first, mid, close, after, hL, hfirst, hclose, hmid,
      split_fenced load path hL hfirst hclose hmid, reassemble hL, hmatter, hcount⟩
  · exact .inr ⟨hnone, split_unfenced load path hnone, (lineBreaks_dropBom text).symm⟩

/-! ## The data of the block -/

theorem loadFailure_of_isYaml (matter : String) (path : Option String) {e : Yaml.LoadError}
    (h : e.isYaml) : ∃ detail, loadFailure matter path e = .frontmatter detail path none := by
  cases e with
  | unacceptable => exact ⟨_, rfl⟩
  | marked => exact ⟨_, rfl⟩
  | _ => cases h

theorem loadFailure_of_not_isYaml {matter : String} {path : Option String} {e : Yaml.LoadError}
    (h : ¬ e.isYaml) (detail : String) (p : Option String) (line : Option Int) :
    loadFailure matter path e ≠ .frontmatter detail p line := by
  cases e with
  | unacceptable => exact absurd rfl h
  | marked => exact absurd rfl h
  | _ => exact fun heq => nomatch heq

/-- The data of a block: nothing for a blank block or null, the mapping it loads to, and
otherwise an error, a front-matter error of the document except for an unreadable scalar. -/
theorem dataOf_cases (matter : String) (path : Option String) :
    ((trimBlank matter).isEmpty → dataOf load matter path = .ok []) ∧
    (¬ (trimBlank matter).isEmpty →
      (load matter = .ok .null → dataOf load matter path = .ok []) ∧
      (∀ es, load matter = .ok (.dict es) → dataOf load matter path = .ok es) ∧
      (∀ v, load matter = .ok v → v ≠ .null → (∀ es, v ≠ .dict es) →
        ∃ detail, dataOf load matter path = .error (.frontmatter detail path none)) ∧
      (∀ e, load matter = .error e → e.isYaml →
        ∃ detail, dataOf load matter path = .error (.frontmatter detail path none)) ∧
      (∀ e, load matter = .error e → ¬ e.isYaml →
        dataOf load matter path = .error (loadFailure matter path e) ∧
          ∀ detail p line, loadFailure matter path e ≠ .frontmatter detail p line)) := by
  refine ⟨fun hblank => by simp only [dataOf, hblank, if_true]; rfl, fun hblank => ?_⟩
  have hb : (trimBlank matter).isEmpty = false := by simpa using hblank
  refine ⟨fun hload => ?_, fun es hload => ?_, fun v hload hnull hdict => ?_,
    fun e hload hyaml => ?_, fun e hload hyaml => ?_⟩
  · simp only [dataOf, hb, hload]
    rfl
  · simp only [dataOf, hb, hload]
    rfl
  · refine ⟨"Front-matter must be a mapping, got " ++ v.typeName, ?_⟩
    unfold dataOf
    rw [hb, hload, if_neg Bool.false_ne_true]
    split
    · next e h => cases h
    · next h => exact absurd (Except.ok.inj h) hnull
    · next es h => exact absurd (Except.ok.inj h) (hdict es)
    · next w _ _ h =>
      rw [Except.ok.inj h]
      rfl
  · obtain ⟨detail, hd⟩ := loadFailure_of_isYaml matter path hyaml
    refine ⟨detail, ?_⟩
    simp only [dataOf, hb, hload, hd]
    rfl
  · refine ⟨?_, loadFailure_of_not_isYaml hyaml⟩
    simp only [dataOf, hb, hload]
    rfl

end Manuscript.FrontMatter
