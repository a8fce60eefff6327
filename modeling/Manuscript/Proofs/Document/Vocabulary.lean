import Manuscript.Document.Reader

/-!
# The vocabulary of read trees

Every node the reader builds has a kind with a name of its own (`NodeKind.named`): a tree read
from any text, in any dialect, with or without components, is `Node.Named`
(`Reader.parse_named`). Trees from outside may carry any kind (`NodeKind.other`); read trees
never do.

`Yields P x` says that `x`, when it succeeds, gives a value that `P` holds of. Each step of
reading is proved to yield named nodes, or a fold whose finished nodes and open elements are
named (`Fold.Named`), and binds chain the steps (`Yields.bind`), in the shape of the proofs of
how reading fails.
-/

namespace Manuscript

/-- A result that, when it is a value, is a value that `P` holds of. -/
def Yields {α : Type} (P : α → Prop) (x : Except Error α) : Prop :=
  ∀ a, x = .ok a → P a

section Yields

variable {α β : Type} {P : α → Prop} {Q : β → Prop}

theorem yields_ok {a : α} (h : P a) : Yields P (.ok a : Except Error α) := by
  intro b hb
  cases hb
  exact h

theorem yields_error (e : Error) : Yields P (.error e : Except Error α) := by
  intro b hb
  cases hb

theorem Yields.bind {x : Except Error α} {f : α → Except Error β} (hx : Yields P x)
    (hf : ∀ a, P a → Yields Q (f a)) : Yields Q (x >>= f) := by
  intro b hb
  cases h : x with
  | error e => rw [h] at hb; cases hb
  | ok a => rw [h] at hb; exact hf a (hx a h) b hb

theorem Yields.map {x : Except Error α} {f : α → β} (hx : Yields P x) (hf : ∀ a, P a → Q (f a)) :
    Yields Q (f <$> x) := by
  intro b hb
  cases h : x with
  | error e => rw [h] at hb; cases hb
  | ok a => rw [h] at hb; cases hb; exact hf a (hx a h)

theorem yields_mapM {f : α → Except Error β} :
    ∀ {as : List α}, (∀ a ∈ as, Yields Q (f a)) → Yields (fun bs => ∀ b ∈ bs, Q b) (as.mapM f)
  | [], _ => yields_ok (by simp)
  | a :: as, h => by
    rw [List.mapM_cons]
    refine (h a List.mem_cons_self).bind fun b hb => ?_
    refine (yields_mapM fun a' ha' => h a' (List.mem_cons_of_mem a ha')).bind fun bs hbs => ?_
    exact yields_ok fun b' hb' => (List.mem_cons.1 hb').elim (· ▸ hb) (hbs b')

end Yields

namespace NodeKind

/-- A kind has a name of its own exactly when it is not one kept from outside. -/
@[simp] theorem mem_named_iff (k : NodeKind) : k ∈ named ↔ ∀ s, k ≠ .other s := by
  cases k <;> simp [named]

end NodeKind

namespace Node

theorem walk_eq (n : Node) : n.walk = n :: (n.children.map walk).flatten := by
  rw [walk]

theorem mem_walk {m n : Node} : m ∈ n.walk ↔ m = n ∨ ∃ c ∈ n.children, m ∈ c.walk := by
  rw [walk_eq]
  simp only [List.mem_cons, List.mem_flatten, List.mem_map]
  constructor
  · rintro (h | ⟨_, ⟨c, hc, rfl⟩, hm⟩)
    · exact .inl h
    · exact .inr ⟨c, hc, hm⟩
  · rintro (h | ⟨c, hc, hm⟩)
    · exact .inl h
    · exact .inr ⟨_, ⟨c, hc, rfl⟩, hm⟩

/-- A tree in the reader's vocabulary: every node of it has a kind with a name of its own. -/
def Named (n : Node) : Prop := ∀ m ∈ n.walk, m.kind ∈ NodeKind.named

theorem named_iff {n : Node} : n.Named ↔ n.kind ∈ NodeKind.named ∧ ∀ c ∈ n.children, c.Named := by
  constructor
  · intro h
    exact ⟨h n (mem_walk.2 (.inl rfl)), fun c hc m hm => h m (mem_walk.2 (.inr ⟨c, hc, hm⟩))⟩
  · rintro ⟨hk, hc⟩ m hm
    rcases mem_walk.1 hm with rfl | ⟨c, hc', hm'⟩
    · exact hk
    · exact hc c hc' m hm'

/-- A node is named when its kind is and its children are. -/
theorem Named.of_children {n : Node} (hk : ∀ s, n.kind ≠ .other s)
    (hc : ∀ c ∈ n.children, c.Named) : n.Named :=
  named_iff.2 ⟨(NodeKind.mem_named_iff _).2 hk, hc⟩

/-- A node without children is named when its kind is. -/
theorem Named.of_leaf {n : Node} (hk : ∀ s, n.kind ≠ .other s) (hc : n.children = []) :
    n.Named :=
  Named.of_children hk (by simp [hc])

theorem Named.kind {n : Node} (h : n.Named) : ∀ s, n.kind ≠ .other s :=
  (NodeKind.mem_named_iff _).1 (named_iff.1 h).1

theorem Named.children {n : Node} (h : n.Named) : ∀ c ∈ n.children, c.Named :=
  (named_iff.1 h).2

end Node

theorem mem_of_mem_pop {α : Type} {xs : Array α} {x : α} (h : x ∈ xs.pop) : x ∈ xs := by
  rw [← Array.mem_toList_iff, Array.toList_pop] at h
  exact Array.mem_toList_iff.1 (List.dropLast_subset _ h)

namespace Document

open Manuscript.Markdown Manuscript.Node

/-- Every node of a list is named. -/
def AllNamed (ns : List Node) : Prop := ∀ n ∈ ns, n.Named

/-- A fold whose finished nodes are named, and whose open elements have named kinds and named
children so far. -/
def Fold.Named (f : Fold) : Prop :=
  (∀ n ∈ f.done, n.Named) ∧ ∀ p ∈ f.opened, (∀ s, p.1.kind ≠ .other s) ∧ ∀ c ∈ p.2, c.Named

namespace Fold

theorem named_empty : ({} : Fold).Named := by
  simp [Fold.Named]

theorem Named.add {f : Fold} {n : Node} (hf : f.Named) (hn : n.Named) : (f.add n).Named := by
  obtain ⟨hd, ho⟩ := hf
  unfold Fold.add
  split
  · next e cs rest heq =>
    rw [heq] at ho
    refine ⟨hd, ?_⟩
    simp only [List.mem_cons, forall_eq_or_imp] at ho ⊢
    refine ⟨⟨ho.1.1, fun c hc => ?_⟩, ho.2⟩
    rcases Array.mem_push.1 hc with hc | rfl
    · exact ho.1.2 c hc
    · exact hn
  · refine ⟨fun m hm => ?_, ho⟩
    rcases Array.mem_push.1 hm with hm | rfl
    · exact hd m hm
    · exact hn

theorem Named.addAll {f : Fold} (hf : f.Named) : ∀ {ns : List Node}, AllNamed ns →
    (f.addAll ns).Named
  | [], _ => hf
  | n :: ns, h => by
    unfold Fold.addAll
    rw [List.foldl_cons]
    exact Named.addAll (hf.add (h n List.mem_cons_self))
      fun m hm => h m (List.mem_cons_of_mem n hm)

theorem Named.enter {f : Fold} {e : Node} (hf : f.Named) (he : ∀ s, e.kind ≠ .other s) :
    (f.enter e).Named := by
  refine ⟨hf.1, ?_⟩
  simp only [Fold.enter, List.mem_cons, forall_eq_or_imp]
  exact ⟨⟨he, by simp⟩, hf.2⟩

/-- Closing an element keeps a fold named when finishing its children keeps them named. -/
theorem Named.leave {f : Fold} (hf : f.Named) {finish : List Node → List Node}
    (hfin : ∀ cs, AllNamed cs → AllNamed (finish cs)) (endLine : Option Int) :
    (f.leave finish endLine).Named := by
  unfold Fold.leave
  split
  · next e cs rest heq =>
    have ho := hf.2
    rw [heq] at ho
    simp only [List.mem_cons, forall_eq_or_imp] at ho
    refine Named.add ⟨hf.1, ho.2⟩ (Named.of_children ho.1.1 ?_)
    exact hfin _ fun c hc => ho.1.2 c (Array.mem_toList_iff.1 hc)
  · exact hf

end Fold

namespace Reader

variable (r : Reader)

theorem named_text (s : String) : (Node.text s).Named :=
  Named.of_leaf (by simp [Node.text]) rfl

/-- Joining adjacent texts and cutting texts at expressions keeps a list named. -/
theorem finish_named {ns : List Node} (h : AllNamed ns) : AllNamed (r.finish ns) := by
  unfold finish
  generalize hfold : ns.foldl _ #[] = folded
  have merged : ∀ n ∈ folded, n.Named := by
    rw [← hfold]
    refine List.foldlRecOn (motive := fun acc : Array Node => ∀ n ∈ acc, n.Named) ns _
      (by simp) fun acc hacc n hn => ?_
    split
    · next last hlast =>
      split
      · intro m hm
        rcases Array.mem_push.1 hm with hm | rfl
        · exact hacc m (mem_of_mem_pop hm)
        · have hl := hacc last (Array.mem_of_back? hlast)
          exact Named.of_children hl.kind hl.children
      · intro m hm
        rcases Array.mem_push.1 hm with hm | rfl
        · exact hacc m hm
        · exact h m hn
    · intro m hm
      rcases Array.mem_push.1 hm with hm | rfl
      · exact hacc m hm
      · exact h m hn
  intro m hm
  dsimp only at hm
  split at hm
  · exact merged m (Array.mem_toList_iff.1 hm)
  · -- a text cut at its expressions becomes texts and text expressions
    obtain ⟨n, hn, hm⟩ := List.mem_flatMap.1 hm
    split at hm
    · obtain ⟨p, -, rfl⟩ := List.mem_map.1 hm
      cases p
      · exact named_text _
      · exact Named.of_leaf (by simp) rfl
    · rw [List.mem_singleton.1 hm]
      exact merged n (Array.mem_toList_iff.1 hn)

theorem closeInline_named {f : Fold} (hf : f.Named) : Yields AllNamed (r.closeInline f) := by
  unfold closeInline
  split
  · exact yields_error _
  · exact yields_ok (r.finish_named fun n hn => hf.1 n (Array.mem_toList_iff.1 hn))

theorem closeBlocks_named {f : Fold} (hf : f.Named) : Yields AllNamed (closeBlocks f) := by
  unfold closeBlocks
  split
  · exact yields_error _
  · exact yields_ok fun n hn => hf.1 n (Array.mem_toList_iff.1 hn)

theorem elementOf_named {kind : NodeKind} (hk : ∀ s, kind ≠ .other s) (tag : OpenTag) :
    (elementOf kind tag).Named :=
  Named.of_leaf hk rfl

mutual

theorem inlineNode_named : ∀ n : InlineNode, Yields Node.Named (r.inlineNode n)
  | .text _ => yields_ok (named_text _)
  | .softbreak => yields_ok (named_text _)
  | .hardbreak => yields_ok (Named.of_leaf (by simp) rfl)
  | .code _ => yields_ok (Named.of_leaf (by simp) rfl)
  | .emphasis cs => by
    unfold inlineNode
    exact (inlineFold_named cs {} Fold.named_empty).bind fun f hf =>
      (r.closeInline_named hf).bind fun _ hns => yields_ok (Named.of_children (by simp) hns)
  | .strong cs => by
    unfold inlineNode
    exact (inlineFold_named cs {} Fold.named_empty).bind fun f hf =>
      (r.closeInline_named hf).bind fun _ hns => yields_ok (Named.of_children (by simp) hns)
  | .strike cs => by
    unfold inlineNode
    exact (inlineFold_named cs {} Fold.named_empty).bind fun f hf =>
      (r.closeInline_named hf).bind fun _ hns => yields_ok (Named.of_children (by simp) hns)
  | .link _ _ cs => by
    unfold inlineNode
    exact (inlineFold_named cs {} Fold.named_empty).bind fun f hf =>
      (r.closeInline_named hf).bind fun _ hns => yields_ok (Named.of_children (by simp) hns)
  | .image _ _ _ => yields_ok (Named.of_leaf (by simp) rfl)
  | .html _ => yields_ok (Named.of_leaf (by simp) rfl)

theorem inlineFold_named :
    ∀ (ns : List InlineNode) (f : Fold), f.Named → Yields Fold.Named (r.inlineFold ns f)
  | [], _, hf => yields_ok hf
  | n :: rest, f, hf => by
    have hrest := inlineFold_named rest
    have hnode : Yields Fold.Named (f.add <$> r.inlineNode n) :=
      (inlineNode_named n).map fun _ hm => hf.add hm
    unfold inlineFold
    dsimp only
    split
    · split
      · split
        · split
          · split
            · exact (yields_ok (hf.leave (fun _ => r.finish_named) none)).bind hrest
            · exact (yields_error _).bind hrest
          · exact (yields_error _).bind hrest
        · split
          · next tag _ =>
            have he : (elementOf .textElement tag).Named := elementOf_named (by simp) tag
            refine (yields_ok ?_).bind hrest
            split
            · exact hf.add he
            · exact hf.enter he.kind
          · exact hnode.bind hrest
      · exact hnode.bind hrest
    · exact hnode.bind hrest

end

theorem inline_named (nodes : List InlineNode) : Yields AllNamed (r.inline nodes) :=
  (r.inlineFold_named nodes {} Fold.named_empty).bind fun _ hf => r.closeInline_named hf

/-- A paragraph promoted to the element or expression it holds is that named node. -/
theorem promote_named {children : List Node} (h : AllNamed children) {p : Node}
    (hp : promote children = some p) : p.Named := by
  unfold promote at hp
  split at hp
  · next only hfilter =>
    have honly : only.Named :=
      h only (List.mem_filter.1 (hfilter ▸ List.mem_singleton_self only)).1
    split at hp <;> cases hp
    · exact Named.of_children (by simp) honly.children
    · exact Named.of_children (by simp) honly.children
  · cases hp

theorem cells_named (row : TableRow) : Yields AllNamed (r.cells row) :=
  yields_mapM fun c _ => (r.inline_named c.content).bind fun _ hns =>
    yields_ok (Named.of_children (by simp) hns)

/-- Markup read again that yields named nodes. -/
def NestedNamed (nested : Nested) : Prop :=
  ∀ text block offset, Yields AllNamed (nested text block offset)

section Nested

variable {nested : Nested}

/-- Reading the tags of an HTML block keeps a fold named when the markup it reads again is. -/
theorem htmlBlock_loop_named (hn : NestedNamed nested) (content : String) (pos : Position)
    (s : Array Char) (lineOffset : Int) (line : Option Int) :
    ∀ (fuel i : Nat) (consumed : Bool) (f : Fold), f.Named →
      Yields Fold.Named (htmlBlock.loop nested content pos s lineOffset line fuel i consumed f)
  | 0, _, _, _, hf => yields_ok hf
  | fuel + 1, i, consumed, f, hf => by
    have hloop := htmlBlock_loop_named hn content pos s lineOffset line fuel
    unfold htmlBlock.loop
    dsimp only
    split
    · split
      · split
        · exact yields_error _
        · split
          · exact yields_error _
          · exact hloop _ _ _ (hf.leave (fun _ h => h) _)
      · split
        · split
          · exact yields_ok (hf.add (Named.of_leaf (by simp) rfl))
          · exact (hn _ _ _).bind fun _ hns => yields_ok (hf.addAll hns)
        · split
          · exact hloop _ _ _ (hf.add (Named.of_leaf (by simp [elementOf]) rfl))
          · split
            · exact hloop _ _ _ (hf.enter (by simp [elementOf]))
            · exact (hn _ _ _).bind fun _ hns =>
                hloop _ _ _ (hf.add (Named.of_children (by simp [elementOf]) hns))
    · exact yields_ok hf

theorem htmlBlock_named (hn : NestedNamed nested) (content : String) (pos : Position) {f : Fold}
    (hf : f.Named) : Yields Fold.Named (htmlBlock nested content pos f) :=
  htmlBlock_loop_named hn _ _ _ _ _ _ _ _ _ hf

mutual

theorem blockNode_named (hn : NestedNamed nested) (lines : Array String) (offset : Int) :
    ∀ b : BlockNode, Yields Node.Named (r.blockNode nested lines offset b)
  | .paragraph _ _ content => by
    unfold blockNode
    refine (r.inline_named content).bind fun children hc => ?_
    split
    · next p hp =>
      have hpn : p.Named := by
        split at hp
        · exact promote_named hc hp
        · cases hp
      exact yields_ok (Named.of_children hpn.kind hpn.children)
    · exact yields_ok (Named.of_children (by simp) hc)
  | .heading _ _ content => by
    unfold blockNode
    exact (r.inline_named content).bind fun _ hc => yields_ok (Named.of_children (by simp) hc)
  | .blockquote _ cs => by
    unfold blockNode
    exact (blockFold_named hn lines offset false cs {} Fold.named_empty).bind fun _ hf =>
      (closeBlocks_named hf).bind fun _ hc => yields_ok (Named.of_children (by simp) hc)
  | .list _ _ _ items => by
    unfold blockNode
    exact (blockList_named hn lines offset items).bind fun _ hc =>
      yields_ok (Named.of_children (by simp) hc)
  | .item _ cs => by
    unfold blockNode
    exact (blockFold_named hn lines offset false cs {} Fold.named_empty).bind fun _ hf =>
      (closeBlocks_named hf).bind fun _ hc => yields_ok (Named.of_children (by simp) hc)
  | .code _ _ _ => yields_ok (Named.of_leaf (by simp) rfl)
  | .rule _ => yields_ok (Named.of_leaf (by simp) rfl)
  | .html _ _ => yields_ok (Named.of_leaf (by simp) rfl)
  | .table _ rows => by
    unfold blockNode
    refine (yields_mapM (Q := Node.Named) fun row _ => ?_).bind fun _ hrs => ?_
    · exact (r.cells_named row).bind fun _ hc => yields_ok (Named.of_children (by simp) hc)
    · exact yields_ok (Named.of_children (by simp) hrs)

theorem blockList_named (hn : NestedNamed nested) (lines : Array String) (offset : Int) :
    ∀ bs : List BlockNode, Yields AllNamed (r.blockList nested lines offset bs)
  | [] => yields_ok (by simp [AllNamed])
  | b :: rest => by
    unfold blockList
    exact (blockNode_named hn lines offset b).bind fun _ hb =>
      (blockList_named hn lines offset rest).bind fun _ hbs =>
        yields_ok fun m hm => (List.mem_cons.1 hm).elim (· ▸ hb) (hbs m)

theorem blockFold_named (hn : NestedNamed nested) (lines : Array String) (offset : Int)
    (topLevel : Bool) :
    ∀ (bs : List BlockNode) (f : Fold), f.Named →
      Yields Fold.Named (r.blockFold nested lines offset topLevel bs f)
  | [], _, hf => yields_ok hf
  | b :: rest, f, hf => by
    have hrest := blockFold_named hn lines offset topLevel rest
    have hnode : Yields Fold.Named (f.add <$> r.blockNode nested lines offset b) :=
      (blockNode_named hn lines offset b).map fun _ hm => hf.add hm
    unfold blockFold
    dsimp only
    split
    · split
      · exact (htmlBlock_named hn _ _ hf).bind hrest
      · exact hnode.bind hrest
    · split
      · exact (yields_ok (hf.add (Named.of_leaf (by simp) rfl))).bind hrest
      · exact hnode.bind hrest
    · exact hnode.bind hrest

end

end Nested

/-- Markup read again at any depth yields named nodes. -/
theorem nestedAt_named : ∀ depth : Nat, NestedNamed (r.nestedAt depth)
  | 0, _, _, _ => yields_ok (by simp [AllNamed])
  | depth + 1, text, block, offset => by
    unfold nestedAt
    dsimp only
    split
    · exact (r.blockFold_named (nestedAt_named depth) _ _ _ _ _ Fold.named_empty).bind
        fun _ hf => closeBlocks_named hf
    · split
      · exact yields_ok (by simp [AllNamed])
      · exact r.inline_named _

/-- Every tree the reader reads has only named kinds. -/
theorem parse_named (text : String) : Yields Node.Named (r.parse text) :=
  (r.blockFold_named (r.nestedAt_named _) _ _ _ _ _ Fold.named_empty).bind fun _ hf =>
    (closeBlocks_named hf).bind fun _ hc => yields_ok (Named.of_children (by simp) hc)

end Reader

end Document

end Manuscript
