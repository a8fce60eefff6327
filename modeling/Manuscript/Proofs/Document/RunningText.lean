import Mathlib.Data.List.Chain
import Manuscript.Proofs.Document.TagReadBack
import Manuscript.Proofs.Document.ClosingTag

/-!
# Finishing running text

The nodes of running text are finished by `Reader.finish`: adjacent text nodes are joined into
one, and, when components are read, text is cut at its expressions `{…}` (`splitExpressions`).

A cut of text is described on its own by `Cut`: the pieces are the text before an expression,
when there is any, then the expression, and so on, with the text after the last expression at the
end. The text between expressions holds no expression, and no expression holds a brace; so the
first `{` that a `}` follows with no brace between starts the next expression
(`cut_splitExpressions`). Every cut gives the text back (`Cut.chars`), has no empty text piece,
no text piece holding an expression (`Cut.text_piece`) and no two text pieces side by side
(`Cut.apart`).

Finishing keeps what running text reads as: its characters, with an expression read as the
expression in braces and every other node standing for itself (`flatText_finish`). It leaves no
two text nodes side by side (`textApart_finish`), no text node holding an expression
(`finish_text_free`), creates no component node when components are not read
(`finish_plain_nodes`), and finishing twice is finishing once (`finish_finish`).
-/

namespace Manuscript.Document

open Manuscript.Text Manuscript.Markdown

/-! ## Expressions in text -/

/-- Whether text holds an expression: a `{`, characters other than braces, and a `}`. -/
def HoldsExpression (cs : List Char) : Prop :=
  ∃ pre body post,
    cs = pre ++ '{' :: (body ++ '}' :: post) ∧ ∀ c ∈ body, c ≠ '{' ∧ c ≠ '}'

namespace Piece

/-- The characters a piece stands for: its text, or its expression in braces. -/
def chars : Piece → List Char
  | .text s => s.toList
  | .expression s => '{' :: s.toList ++ ['}']

/-- Whether a piece is text. -/
def isText : Piece → Bool
  | .text _ => true
  | .expression _ => false

end Piece

/-- A cut of text at its expressions: text that holds no expression, then an expression that
holds no brace, and so on; the text before an expression is left out when it is empty, and the
text after the last expression is the last piece when it is not empty. -/
inductive Cut : List Char → List Piece → Prop
  | nil : Cut [] []
  | last {seg : List Char} (hne : seg ≠ []) (hfree : ¬ HoldsExpression seg) :
      Cut seg [.text (String.ofList seg)]
  | expr {body rest : List Char} {ps : List Piece} (hbody : ∀ c ∈ body, c ≠ '{' ∧ c ≠ '}')
      (hrest : Cut rest ps) :
      Cut ('{' :: (body ++ '}' :: rest)) (.expression (String.ofList body) :: ps)
  | text {seg body rest : List Char} {ps : List Piece} (hne : seg ≠ [])
      (hfree : ¬ HoldsExpression seg) (hbody : ∀ c ∈ body, c ≠ '{' ∧ c ≠ '}')
      (hrest : Cut rest ps) :
      Cut (seg ++ '{' :: (body ++ '}' :: rest))
        (.text (String.ofList seg) :: .expression (String.ofList body) :: ps)

namespace Cut

variable {cs : List Char} {ps : List Piece}

/-- A cut gives the text back. -/
theorem chars (h : Cut cs ps) : ps.flatMap Piece.chars = cs := by
  induction h with
  | nil => rfl
  | last => simp [Piece.chars]
  | expr _ _ ih => simp [Piece.chars, ih]
  | text _ _ _ _ ih => simp [Piece.chars, ih]

/-- The text pieces of a cut are not empty and hold no expression. -/
theorem text_piece (h : Cut cs ps) :
    ∀ u, Piece.text u ∈ ps → u ≠ "" ∧ ¬ HoldsExpression u.toList := by
  induction h with
  | nil => simp
  | last hne hfree =>
    intro u hu
    obtain rfl : u = String.ofList _ := by simpa using hu
    exact ⟨by simpa using hne, by simpa using hfree⟩
  | expr _ _ ih =>
    intro u hu
    exact ih u (by simpa using hu)
  | text hne hfree _ _ ih =>
    intro u hu
    rcases List.mem_cons.1 hu with e | hu
    · cases e
      exact ⟨by simpa using hne, by simpa using hfree⟩
    · exact ih u (by simpa using hu)

/-- No two text pieces of a cut stand side by side. -/
theorem apart (h : Cut cs ps) : ps.IsChain fun p q => ¬ (p.isText = true ∧ q.isText = true) := by
  have after_expr : ∀ (b : String) (qs : List Piece),
      qs.IsChain (fun p q => ¬ (p.isText = true ∧ q.isText = true)) →
        (Piece.expression b :: qs).IsChain fun p q => ¬ (p.isText = true ∧ q.isText = true) :=
    fun b qs hq => List.isChain_cons.2 ⟨fun _ _ => by simp [Piece.isText], hq⟩
  induction h with
  | nil => exact List.isChain_nil
  | last => exact List.isChain_singleton _
  | expr _ _ ih => exact after_expr _ _ ih
  | text _ _ _ _ ih =>
    exact List.isChain_cons_cons.2 ⟨by simp [Piece.isText], after_expr _ _ ih⟩

/-- A text that holds no expression is cut into itself alone, or into nothing when empty. -/
theorem of_free (h : Cut cs ps) (hfree : ¬ HoldsExpression cs) (hne : cs ≠ []) :
    ps = [.text (String.ofList cs)] := by
  cases h with
  | nil => exact absurd rfl hne
  | last => rfl
  | expr hbody => exact absurd ⟨[], _, _, rfl, hbody⟩ hfree
  | text _ _ hbody => exact absurd ⟨_, _, _, rfl, hbody⟩ hfree

end Cut

/-! ## Cutting text at its expressions -/

section Cutting

variable {s : Array Char}

/-- The scan has passed no `{` from `cursor` up to `k` that opens an expression: after each, the
first brace is not `}`. -/
def Unclosed (s : Array Char) (cursor k : Nat) : Prop :=
  ∀ p, cursor ≤ p → p < k → s[p]? = some '{' →
    s[skipWhile s (fun c => c != '{' && c != '}') (p + 1)]? ≠ some '}'

/-- Characters other than braces, read up to a `}`, end an expression there. -/
theorem expression_end {k : Nat} {body rest : List Char}
    (h : s.toList.drop k = body ++ '}' :: rest)
    (hbody : ∀ c ∈ body, c ≠ '{' ∧ c ≠ '}') :
    skipWhile s (fun c => c != '{' && c != '}') k = k + body.length :=
  skipWhile_of_drop h (fun c hc => by simpa using hbody c hc) (stops_at_head (by decide))

/-- Text the scan has passed with every `{` unclosed holds no expression. -/
theorem free_of_unclosed {cursor k : Nat} (hck : cursor ≤ k) (h : Unclosed s cursor k) :
    ¬ HoldsExpression ((s.toList.drop cursor).take (k - cursor)) := by
  rintro ⟨pre, body, post, hseg, hbody⟩
  have hlen := congrArg List.length hseg
  simp only [List.length_take, List.length_append, List.length_cons] at hlen
  have hdrop : s.toList.drop cursor =
      pre ++ '{' :: (body ++ '}' :: (post ++ (s.toList.drop cursor).drop (k - cursor))) := by
    conv => lhs; rw [← List.take_append_drop (k - cursor) (s.toList.drop cursor)]
    rw [hseg]
    simp
  have hopen := drop_of_drop hdrop
  have hbrace : s[cursor + pre.length]? = some '{' := getElem?_of_drop hopen
  have hinside := drop_of_drop (show s.toList.drop _ = ['{'] ++ _ from hopen)
  have hend := expression_end hinside hbody
  have hclose : s[cursor + pre.length + 1 + body.length]? = some '}' :=
    getElem?_of_drop (drop_of_drop hinside)
  rw [List.length_singleton] at hend
  exact h _ (by omega) (by omega) hbrace (by rw [hend]; exact hclose)

/-- A character read at an index heads the text from there. -/
theorem drop_eq_cons_of_getElem? {k : Nat} {c : Char} (h : s[k]? = some c) :
    s.toList.drop k = c :: s.toList.drop (k + 1) := by
  obtain ⟨hk, hc⟩ := Array.getElem?_eq_some_iff.1 h
  rw [List.drop_eq_getElem_cons (by simpa using hk)]
  simp [hc]

theorem unclosed_refl (k : Nat) : Unclosed s k k :=
  fun _ h₁ h₂ => absurd (Nat.lt_of_le_of_lt h₁ h₂) (Nat.lt_irrefl _)

/-- Passing an index that holds no `{` opening an expression keeps every `{` passed unclosed. -/
theorem Unclosed.succ {cursor k : Nat} (h : Unclosed s cursor k)
    (hk : s[k]? = some '{' → s[skipWhile s (fun c => c != '{' && c != '}') (k + 1)]? ≠ some '}') :
    Unclosed s cursor (k + 1) := by
  intro p hp hpk hpb
  rcases Nat.lt_or_ge p k with hpk' | hpk'
  · exact h p hp hpk' hpb
  · rw [show p = k by omega] at hpb ⊢
    exact hk hpb

/-- Every character that `skipWhile` passes satisfies its predicate. -/
theorem holds_of_mem_skipped {P : Char → Bool} {i : Nat} {c : Char}
    (hc : c ∈ (s.toList.drop i).take (skipWhile s P i - i)) : P c = true := by
  obtain ⟨j, hj, rfl⟩ := List.getElem_of_mem hc
  simp only [List.length_take, List.length_drop] at hj
  simp only [List.getElem_take, List.getElem_drop]
  obtain ⟨x, hx, hP⟩ := skipWhile_holds (s := s) (P := P) (p := i + j) (Nat.le_add_right _ _)
    (by omega)
  obtain ⟨_, hx⟩ := Array.getElem?_eq_some_iff.1 hx
  rw [← Array.getElem_toList] at hx
  rw [hx]
  exact hP

/-- The text from `a` is the text from `a` to `b`, then the text from `b`. -/
theorem drop_eq_take_append_drop {l : List Char} {a b : Nat} (h : a ≤ b) :
    l.drop a = (l.drop a).take (b - a) ++ l.drop b := by
  obtain ⟨d, rfl⟩ := Nat.exists_eq_add_of_le h
  rw [Nat.add_sub_cancel_left, List.drop_take_append_drop]

theorem sliceText_eq_ofList (s : Array Char) (a b : Nat) :
    sliceText s a b = String.ofList ((s.toList.drop a).take (b - a)) := by
  rw [sliceText, Array.toList_extract, List.extract_eq_take_drop]

/-- The scan from `cursor`, at `k`, cuts the text from `cursor`, given fuel for every index left
and a `{` that opens no expression at every index passed. -/
theorem cut_go :
    ∀ (fuel cursor k : Nat), s.size - k < fuel → cursor ≤ k → k ≤ s.size →
      Unclosed s cursor k → Cut (s.toList.drop cursor) (splitExpressions.go s fuel cursor k)
  | 0, _, _, h, _, _, _ => absurd h (Nat.not_lt_zero _)
  | fuel + 1, cursor, k, hfuel, hck, hk, hopen => by
    rw [splitExpressions.go]
    by_cases hks : k < s.size
    · rw [if_pos hks]
      have hsplit := drop_eq_take_append_drop (l := s.toList) hck
      by_cases hb : s[k]? = some '{'
      · rw [if_pos (by simpa using hb)]
        dsimp only
        generalize he : skipWhile s (fun c => c != '{' && c != '}') (k + 1) = e
        by_cases hclose : s[e]? = some '}'
        · rw [if_pos (by simpa using hclose)]
          have hke : k + 1 ≤ e := he ▸ le_skipWhile _ _ _
          have hes : e < s.size := (Array.getElem?_eq_some_iff.1 hclose).1
          have hbody :
              ∀ c ∈ (s.toList.drop (k + 1)).take (e - (k + 1)), c ≠ '{' ∧ c ≠ '}' := by
            intro c hc
            rw [← he] at hc
            simpa using holds_of_mem_skipped hc
          have hrest : s.toList.drop k = '{' ::
              ((s.toList.drop (k + 1)).take (e - (k + 1)) ++ '}' :: s.toList.drop (e + 1)) := by
            rw [drop_eq_cons_of_getElem? hb, ← drop_eq_cons_of_getElem? hclose]
            exact congrArg _ (drop_eq_take_append_drop hke)
          have ih := cut_go fuel (e + 1) (e + 1) (by omega) (Nat.le_refl _) (by omega)
            (unclosed_refl _)
          rw [hsplit, hrest, sliceText_eq_ofList s (k + 1) e]
          by_cases hpass : k > cursor
          · -- text was passed before the expression
            rw [if_pos hpass, sliceText_eq_ofList, List.singleton_append]
            exact Cut.text (by simp; omega) (free_of_unclosed hck hopen) hbody ih
          · rw [if_neg hpass, List.nil_append, show k - cursor = 0 by omega, List.take_zero,
              List.nil_append]
            exact Cut.expr hbody ih
        · -- a `{` that opens no expression
          rw [if_neg (by simpa using hclose)]
          exact cut_go fuel cursor (k + 1) (by omega) (by omega) (by omega)
            (hopen.succ fun _ => he ▸ hclose)
      · rw [if_neg (by simpa using hb)]
        exact cut_go fuel cursor (k + 1) (by omega) (by omega) (by omega)
          (hopen.succ fun hb' => absurd hb' hb)
    · -- the end of the text: what is left is the last piece
      rw [if_neg hks]
      have hks' : k = s.size := by omega
      subst hks'
      by_cases hc : cursor < s.size
      · rw [if_pos hc]
        have hfree := free_of_unclosed hck hopen
        rw [List.take_of_length_le (by simp)] at hfree
        rw [sliceText_eq_ofList, List.take_of_length_le (by simp)]
        exact Cut.last (by simp; omega) hfree
      · rw [if_neg hc, List.drop_eq_nil_of_le (by simp; omega)]
        exact Cut.nil

end Cutting

/-- `splitExpressions` cuts text at its expressions. -/
theorem cut_splitExpressions (t : String) : Cut t.toList (splitExpressions t) := by
  have := cut_go (s := t.toList.toArray) (t.toList.toArray.size + 1) 0 0 (by omega) (Nat.le_refl 0)
    (Nat.zero_le _) (unclosed_refl 0)
  simpa [splitExpressions] using this

/-! ## What running text reads as -/

namespace Piece

/-- The node a piece of cut text becomes. -/
def toNode : Piece → Node
  | .text s => Node.text s
  | .expression s => { kind := .textExpression, value := some s }

end Piece

/-- What a node of running text reads as: the characters of text, an expression in braces, and
any other node as itself. -/
def flatNode (n : Node) : List (Char ⊕ Node) :=
  match n.kind with
  | .text => (n.value.getD "").toList.map .inl
  | .textExpression => ('{' :: (n.value.getD "").toList ++ ['}']).map .inl
  | _ => [.inr n]

/-- What running text reads as. -/
def flatText (nodes : List Node) : List (Char ⊕ Node) :=
  nodes.flatMap flatNode

/-- No two text nodes stand side by side. -/
def TextApart (nodes : List Node) : Prop :=
  nodes.IsChain fun a b => ¬ (a.kind = .text ∧ b.kind = .text)

/-- Whether text nodes stand apart depends on the kinds of the nodes alone. -/
theorem textApart_iff_kinds (l : List Node) :
    TextApart l ↔
      (l.map (·.kind)).IsChain fun a b => ¬ (a = NodeKind.text ∧ b = NodeKind.text) := by
  rw [TextApart, List.isChain_map]

theorem flatText_append (l l' : List Node) : flatText (l ++ l') = flatText l ++ flatText l' :=
  List.flatMap_append

theorem flat_toNode (p : Piece) : flatNode p.toNode = p.chars.map .inl := by
  cases p <;> simp [Piece.toNode, flatNode, Node.text, Piece.chars]

theorem toNode_text_iff (p : Piece) : (p.toNode).kind = .text ↔ p.isText = true := by
  cases p <;> simp [Piece.toNode, Node.text, Piece.isText]

/-- Text holding an expression holds a `{`. -/
theorem HoldsExpression.brace {cs : List Char} (h : HoldsExpression cs) : '{' ∈ cs := by
  obtain ⟨pre, body, post, rfl, -⟩ := h
  simp

/-! ## Joining adjacent text -/

namespace Reader

/-- A text node with the value of a following text node added to its own. -/
def joinText (last n : Node) : Node :=
  { last with value := some (last.value.getD "" ++ n.value.getD "") }

/-- One step of joining adjacent text nodes: a text node after a text node is added to it. -/
def joinStep (acc : Array Node) (n : Node) : Array Node :=
  match acc.back? with
  | some last =>
    if n.kind == .text && last.kind == .text then acc.pop.push (joinText last n)
    else acc.push n
  | none => acc.push n

/-- A node of running text cut at its expressions, when it is text that holds a `{`. -/
def cutNode (n : Node) : List Node :=
  if n.kind == .text && (n.value.getD "").toList.contains '{' then
    (splitExpressions (n.value.getD "")).map Piece.toNode
  else [n]

/-- Finishing joins adjacent text, then, with components, cuts each node. -/
theorem finish_eq (r : Reader) (nodes : List Node) :
    r.finish nodes = if r.components then (nodes.foldl joinStep #[]).toList.flatMap cutNode
      else (nodes.foldl joinStep #[]).toList := by
  unfold finish
  cases r.components <;> rfl

/-- A step joins a text node to the text node before it, or adds the node after the others. -/
theorem joinStep_cases (acc : Array Node) (n : Node) :
    (∃ ys last, acc.toList = ys ++ [last] ∧ n.kind = .text ∧ last.kind = .text ∧
      (joinStep acc n).toList = ys ++ [joinText last n]) ∨
    ((∀ x ∈ acc.toList.getLast?, ¬ (x.kind = .text ∧ n.kind = .text)) ∧
      (joinStep acc n).toList = acc.toList ++ [n]) := by
  rcases acc with ⟨l⟩
  rcases List.eq_nil_or_concat l with rfl | ⟨ys, last, rfl⟩
  · exact .inr ⟨by simp, by simp [joinStep]⟩
  · rw [List.concat_eq_append]
    by_cases h : n.kind = .text ∧ last.kind = .text
    · exact .inl ⟨ys, last, rfl, h.1, h.2, by simp [joinStep, h.1, h.2]⟩
    · refine .inr ⟨by simpa [and_comm] using h, ?_⟩
      have hb : (n.kind == .text && last.kind == .text) = false := by simpa using h
      simp [joinStep, hb]

theorem kind_joinText (last n : Node) : (joinText last n).kind = last.kind := rfl

theorem flat_joinText {last n : Node} (hl : last.kind = .text) (hn : n.kind = .text) :
    flatNode (joinText last n) = flatNode last ++ flatNode n := by
  simp [flatNode, joinText, hl, hn]

/-- What the run reads as grows by what the node reads as. -/
theorem flatText_joinStep (acc : Array Node) (n : Node) :
    flatText (joinStep acc n).toList = flatText acc.toList ++ flatNode n := by
  rcases joinStep_cases acc n with ⟨ys, last, hacc, hn, hl, h⟩ | ⟨-, h⟩
  · rw [h, hacc, flatText_append, flatText_append]
    simp [flatText, flat_joinText hl hn]
  · rw [h, flatText_append]
    simp [flatText]

/-- A step keeps text nodes apart. -/
theorem textApart_joinStep {acc : Array Node} (hacc : TextApart acc.toList) (n : Node) :
    TextApart (joinStep acc n).toList := by
  rcases joinStep_cases acc n with ⟨ys, last, hl, -, -, h⟩ | ⟨hlast, h⟩
  · -- the joined node has the kind of the node it replaces
    rw [hl, textApart_iff_kinds] at hacc
    rw [h, textApart_iff_kinds]
    simpa [kind_joinText] using hacc
  · rw [h, TextApart, List.isChain_append]
    exact ⟨hacc, List.isChain_singleton _, fun x hx y hy => by
      obtain rfl : n = y := by simpa using hy
      exact hlast x hx⟩

/-- A step keeps the nodes it had, and adds the node or a text node. -/
theorem mem_joinStep {acc : Array Node} {n m : Node} (hm : m ∈ (joinStep acc n).toList) :
    m ∈ acc.toList ∨ m = n ∨ m.kind = .text := by
  rcases joinStep_cases acc n with ⟨ys, last, hacc, -, hl, h⟩ | ⟨-, h⟩
  · rw [h, List.mem_append, List.mem_singleton] at hm
    rcases hm with hm | rfl
    · exact .inl (by rw [hacc]; exact List.mem_append_left _ hm)
    · exact .inr (.inr hl)
  · rw [h, List.mem_append, List.mem_singleton] at hm
    exact hm.imp_right .inl

/-- A node that is not text after text is added as it is. -/
theorem joinStep_of_apart {acc : Array Node} {n : Node} (h : TextApart (acc.toList ++ [n])) :
    (joinStep acc n).toList = acc.toList ++ [n] := by
  rcases joinStep_cases acc n with ⟨ys, last, hacc, hn, hl, -⟩ | ⟨-, h'⟩
  · rw [hacc, TextApart, List.isChain_append] at h
    exact absurd ⟨hl, hn⟩ (h.2.2 last (by simp) n (by simp))
  · exact h'

section Run

variable (ns : List Node)

theorem flatText_foldl_joinStep (acc : Array Node) :
    flatText (ns.foldl joinStep acc).toList = flatText acc.toList ++ flatText ns := by
  induction ns generalizing acc with
  | nil => simp [flatText]
  | cons n ns ih =>
    rw [List.foldl_cons, ih, flatText_joinStep]
    simp [flatText]

theorem textApart_foldl_joinStep {acc : Array Node} (hacc : TextApart acc.toList) :
    TextApart (ns.foldl joinStep acc).toList := by
  induction ns generalizing acc with
  | nil => exact hacc
  | cons n ns ih => exact ih (textApart_joinStep hacc n)

theorem mem_foldl_joinStep {acc : Array Node} {m : Node}
    (hm : m ∈ (ns.foldl joinStep acc).toList) :
    m ∈ acc.toList ∨ m ∈ ns ∨ m.kind = .text := by
  induction ns generalizing acc with
  | nil => exact .inl hm
  | cons n ns ih =>
    rcases ih hm with h | h | h
    · rcases mem_joinStep h with h | rfl | h
      · exact .inl h
      · exact .inr (.inl List.mem_cons_self)
      · exact .inr (.inr h)
    · exact .inr (.inl (List.mem_cons_of_mem n h))
    · exact .inr (.inr h)

/-- Nodes with no two texts side by side are left as they are. -/
theorem foldl_joinStep_of_apart {acc : Array Node} (h : TextApart (acc.toList ++ ns)) :
    (ns.foldl joinStep acc).toList = acc.toList ++ ns := by
  induction ns generalizing acc with
  | nil => simp
  | cons n ns ih =>
    have hstep := joinStep_of_apart (show TextApart (acc.toList ++ [n]) by
      rw [← List.singleton_append, ← List.append_assoc] at h; exact h.left_of_append)
    have hnext : TextApart ((joinStep acc n).toList ++ ns) := by
      rw [hstep, List.append_assoc, List.singleton_append]
      exact h
    rw [List.foldl_cons, ih hnext, hstep, List.append_assoc, List.singleton_append]

end Run

/-! ## Cutting text at expressions -/

section Cut

variable {n m : Node}

/-- The cut of text that holds a `{`. -/
theorem cutNode_of_brace (h : n.kind = .text ∧ '{' ∈ (n.value.getD "").toList) :
    cutNode n = (splitExpressions (n.value.getD "")).map Piece.toNode := by
  rw [cutNode, if_pos (by simpa using h)]

/-- Any other node is left whole. -/
theorem cutNode_of_not_brace (h : ¬ (n.kind = .text ∧ '{' ∈ (n.value.getD "").toList)) :
    cutNode n = [n] := by
  rw [cutNode, if_neg (by simpa using h)]

theorem flatText_cutNode (n : Node) : flatText (cutNode n) = flatNode n := by
  by_cases h : n.kind = .text ∧ '{' ∈ (n.value.getD "").toList
  · rw [cutNode_of_brace h, flatText, List.flatMap_map]
    simp only [flat_toNode]
    rw [← List.map_flatMap, (cut_splitExpressions _).chars]
    simp [flatNode, h.1]
  · simp [cutNode_of_not_brace h, flatText]

theorem cutNode_ne_nil (n : Node) : cutNode n ≠ [] := by
  by_cases h : n.kind = .text ∧ '{' ∈ (n.value.getD "").toList
  · rw [cutNode_of_brace h]
    intro hnil
    have hchars := (cut_splitExpressions (n.value.getD "")).chars
    rw [List.map_eq_nil_iff.1 hnil, List.flatMap_nil] at hchars
    rw [← hchars] at h
    exact List.not_mem_nil h.2
  · simp [cutNode_of_not_brace h]

/-- A text node of a cut holds no expression. -/
theorem cutNode_text_free (hm : m ∈ cutNode n) (ht : m.kind = .text) :
    ¬ HoldsExpression (m.value.getD "").toList := by
  by_cases h : n.kind = .text ∧ '{' ∈ (n.value.getD "").toList
  · rw [cutNode_of_brace h] at hm
    obtain ⟨p, hp, rfl⟩ := List.mem_map.1 hm
    cases p with
    | text u => simpa [Piece.toNode, Node.text] using
        ((cut_splitExpressions _).text_piece u hp).2
    | expression u => simp [Piece.toNode] at ht
  · rw [cutNode_of_not_brace h, List.mem_singleton] at hm
    subst hm
    exact fun hx => h ⟨ht, hx.brace⟩

/-- A text node of a cut comes from a text node. -/
theorem kind_of_mem_cutNode (hm : m ∈ cutNode n) (ht : m.kind = .text) : n.kind = .text := by
  by_cases h : n.kind = .text ∧ '{' ∈ (n.value.getD "").toList
  · exact h.1
  · rw [cutNode_of_not_brace h, List.mem_singleton] at hm
    exact hm ▸ ht

theorem textApart_cutNode (n : Node) : TextApart (cutNode n) := by
  by_cases h : n.kind = .text ∧ '{' ∈ (n.value.getD "").toList
  · rw [cutNode_of_brace h, TextApart, List.isChain_map]
    refine (cut_splitExpressions _).apart.imp fun p q hpq => ?_
    rwa [toNode_text_iff, toNode_text_iff]
  · rw [cutNode_of_not_brace h]
    exact List.isChain_singleton _

/-- The nodes of a cut are cut into themselves. -/
theorem cutNode_of_mem_cutNode (hm : m ∈ cutNode n) : cutNode m = [m] := by
  by_cases h : n.kind = .text ∧ '{' ∈ (n.value.getD "").toList
  · rw [cutNode_of_brace h] at hm
    obtain ⟨p, hp, rfl⟩ := List.mem_map.1 hm
    cases p with
    | text u =>
      -- text cut out of an expression holds none, so it is cut into itself
      obtain ⟨hne, hfree⟩ := (cut_splitExpressions _).text_piece u hp
      by_cases hb : '{' ∈ u.toList
      · have hcut := (cut_splitExpressions u).of_free hfree (by simpa using hne)
        rw [String.ofList_toList] at hcut
        rw [Piece.toNode, cutNode_of_brace (by simpa [Node.text] using hb)]
        simp [Node.text, hcut, Piece.toNode]
      · exact cutNode_of_not_brace (by simpa [Piece.toNode, Node.text] using hb)
    | expression u => exact cutNode_of_not_brace (by simp [Piece.toNode])
  · rw [cutNode_of_not_brace h, List.mem_singleton] at hm
    rw [hm, cutNode_of_not_brace h]

theorem textApart_flatMap_cutNode {l : List Node} (hl : TextApart l) :
    TextApart (l.flatMap cutNode) := by
  rw [TextApart, List.flatMap_def, List.isChain_flatten (by simp [cutNode_ne_nil])]
  refine ⟨fun c hc => ?_, ?_⟩
  · obtain ⟨n, -, rfl⟩ := List.mem_map.1 hc
    exact textApart_cutNode n
  rw [List.isChain_map]
  refine hl.imp fun a b hab x hx y hy hxy => hab ⟨?_, ?_⟩
  · exact kind_of_mem_cutNode (List.mem_of_getLast? hx) hxy.1
  · exact kind_of_mem_cutNode (List.mem_of_mem_head? hy) hxy.2

theorem flatMap_cutNode_idem (l : List Node) :
    (l.flatMap cutNode).flatMap cutNode = l.flatMap cutNode := by
  rw [List.flatMap_assoc]
  congr 1
  funext n
  rw [List.flatMap_congr (g := fun m => [m]) fun m hm => cutNode_of_mem_cutNode hm,
    List.flatMap_singleton']

end Cut

/-! ## Finishing -/

section Finish

variable (r : Reader) (ns : List Node)

/-- Finishing keeps what running text reads as. -/
theorem flatText_finish : flatText (r.finish ns) = flatText ns := by
  have joined : flatText (ns.foldl joinStep #[]).toList = flatText ns := by
    simpa [flatText] using flatText_foldl_joinStep ns #[]
  rw [finish_eq]
  split
  · -- the cut of each node reads as the node
    rw [flatText, List.flatMap_assoc,
      show (fun n => (cutNode n).flatMap flatNode) = flatNode from funext flatText_cutNode]
    exact joined
  · exact joined

/-- Finishing leaves no two text nodes side by side. -/
theorem textApart_finish : TextApart (r.finish ns) := by
  have joined := textApart_foldl_joinStep ns (show TextApart (#[] : Array Node).toList from
    List.isChain_nil)
  rw [finish_eq]
  split
  · exact textApart_flatMap_cutNode joined
  · exact joined

/-- With components, no text node left by finishing holds an expression. -/
theorem finish_text_free (hc : r.components = true) :
    ∀ m ∈ r.finish ns, m.kind = .text → ¬ HoldsExpression (m.value.getD "").toList := by
  rw [finish_eq, if_pos hc]
  intro m hm ht
  obtain ⟨n, -, hn⟩ := List.mem_flatMap.1 hm
  exact cutNode_text_free hn ht

/-- Without components, finishing adds no node but joined text. -/
theorem finish_plain_nodes (hc : r.components = false) :
    ∀ m ∈ r.finish ns, m ∈ ns ∨ m.kind = .text := by
  rw [finish_eq, if_neg (by simp [hc])]
  intro m hm
  rcases mem_foldl_joinStep ns hm with h | h | h
  · simp at h
  · exact .inl h
  · exact .inr h

/-- Finishing twice is finishing once. -/
theorem finish_finish : r.finish (r.finish ns) = r.finish ns := by
  have joined := textApart_foldl_joinStep ns (show TextApart (#[] : Array Node).toList from
    List.isChain_nil)
  rw [finish_eq r ns]
  split
  · rw [finish_eq, if_pos ‹_›,
      foldl_joinStep_of_apart _ (by simpa using textApart_flatMap_cutNode joined),
      Array.toList_empty, List.nil_append, flatMap_cutNode_idem]
  · rw [finish_eq, if_neg ‹_›, foldl_joinStep_of_apart _ (by simpa using joined),
      Array.toList_empty, List.nil_append]

end Finish

/-- Finishing running text loses nothing and leaves it normal: no two text nodes side by side,
the same reading, and a second finishing changes nothing. -/
theorem finish_normalizes_text (r : Reader) (ns : List Node) :
    TextApart (r.finish ns) ∧ flatText (r.finish ns) = flatText ns ∧
    (r.components = true →
      ∀ m ∈ r.finish ns, m.kind = .text → ¬ HoldsExpression (m.value.getD "").toList) ∧
    (∀ t u, Piece.text u ∈ splitExpressions t → u ≠ "") ∧
    (r.components = false → ∀ m ∈ r.finish ns, m ∈ ns ∨ m.kind = .text) ∧
    r.finish (r.finish ns) = r.finish ns :=
  ⟨textApart_finish r ns, flatText_finish r ns, finish_text_free r ns,
    fun t u hu => ((cut_splitExpressions t).text_piece u hu).1, finish_plain_nodes r ns,
    finish_finish r ns⟩

end Reader

end Manuscript.Document
