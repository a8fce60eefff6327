import Manuscript.Include

/-!
# Splicing directives

`sites` lists the directives of a tree that name a path, in document order, each with its place:
the child indices that lead to it. `replaceAll` overwrites the nodes at those places one after
the other, as the directives of one document are overwritten in place. `substitute f` is the
same replacement said without places: every directive that names a path becomes `f` of the path.

Directives are leaves and never nest, so overwriting them one by one in document order is
substituting them all at once (`replaceAll_sites`), and a substitution whose replacements hold
no directive leaves none (`sites_substitute`).
-/

namespace Manuscript

/-- Induction over document trees: a property that holds of a node whenever it holds of its
children holds of every node. -/
@[elab_as_elim]
theorem Node.childrenInduction {motive : Node → Prop}
    (node : ∀ n : Node, (∀ c ∈ n.children, motive c) → motive n) (n : Node) : motive n :=
  node n fun c _ => Node.childrenInduction node c
termination_by n
decreasing_by exact Node.sizeOf_lt_of_mem_children ‹_›

/-- A node rebuilt with its own children is the node. -/
theorem Node.with_children_eq {n : Node} {l : List Node} (h : l = n.children) :
    { n with children := l } = n := by
  subst h
  cases n
  rfl

namespace Include

/-- The path a directive names: the text of its first child, when that child is text. -/
def named (n : Node) : Option String :=
  match n.children with
  | c :: _ => if c.kind == .text then some (c.value.getD "") else none
  | [] => none

/-- The site, seen from the parent of the node it was found from, as the child at index `i`. -/
def Site.under (i : Nat) (s : Site) : Site := ⟨i :: s.place, s.specifier⟩

/-- The paths the directives of a tree name, in document order. -/
def specifiers (tree : Node) : List String := (sites tree).map (·.specifier)

/-- The tree with every directive that names a path replaced by `f` of that path. -/
def substitute (f : String → Node) (n : Node) : Node :=
  if isDirective n then ((named n).map f).getD n
  else { n with children := n.children.attach.map fun ⟨c, _⟩ => substitute f c }
termination_by n
decreasing_by exact Node.sizeOf_lt_of_mem_children ‹_›

/-! ## The sites of a tree -/

theorem sitesAt_of_directive {n : Node} (h : isDirective n = true) (place : List Nat) :
    sitesAt place n = (named n).toList.map fun s => ⟨place.reverse, s⟩ := by
  rw [sitesAt, if_pos h, named]
  rcases n.children with _ | ⟨c, _⟩
  · rfl
  · by_cases hc : c.kind == .text <;> simp [hc]

theorem sitesAt_of_not_directive {n : Node} (h : isDirective n = false) (place : List Nat) :
    sitesAt place n = (n.children.zipIdx.map fun (c, i) => sitesAt (i :: place) c).flatten := by
  rw [sitesAt, if_neg (by simp [h])]
  conv => rhs; rw [← List.attach_map_subtype_val n.children, List.zipIdx_map, List.map_map]
  rfl

/-- The sites below a place are the sites of the node, moved under that place. -/
theorem sitesAt_eq_map (n : Node) (place : List Nat) :
    sitesAt place n = (sites n).map fun s => ⟨place.reverse ++ s.place, s.specifier⟩ := by
  induction n using Node.childrenInduction generalizing place with
  | node n ih =>
    cases h : isDirective n
    · rw [sites, sitesAt_of_not_directive h, sitesAt_of_not_directive h, List.map_flatten,
        List.map_map]
      congr 1
      refine List.map_congr_left fun ⟨c, i⟩ hci => ?_
      have hc : c ∈ n.children := List.fst_mem_of_mem_zipIdx hci
      simp [ih c hc]
    · simp [sites, sitesAt_of_directive h]

theorem sites_of_directive {n : Node} (h : isDirective n = true) :
    sites n = (named n).toList.map fun s => ⟨[], s⟩ :=
  sitesAt_of_directive h []

theorem sites_of_not_directive {n : Node} (h : isDirective n = false) :
    sites n = (n.children.zipIdx.map fun (c, i) => (sites c).map (Site.under i)).flatten := by
  rw [sites, sitesAt_of_not_directive h]
  simp only [sitesAt_eq_map _ [_], List.reverse_singleton, List.singleton_append]
  rfl

theorem sites_eq_nil_iff {n : Node} : sites n = [] ↔ specifiers n = [] :=
  List.map_eq_nil_iff.symm

theorem specifiers_of_directive {n : Node} (h : isDirective n = true) :
    specifiers n = (named n).toList := by
  simp [specifiers, sites_of_directive h, Function.comp_def]

theorem specifiers_of_not_directive {n : Node} (h : isDirective n = false) :
    specifiers n = (n.children.map specifiers).flatten := by
  rw [specifiers, sites_of_not_directive h, List.map_flatten, List.map_map,
    show n.children.map specifiers = (n.children.zipIdx.map Prod.fst).map specifiers by
      rw [List.zipIdx_map_fst], List.map_map]
  congr 1
  refine List.map_congr_left fun _ _ => ?_
  simp [specifiers, Site.under, Function.comp_def]

/-- Moving the positions of a tree keeps its directives. -/
theorem sites_mapPositions (f : Position → Position) (n : Node) :
    sites (n.mapPositions f) = sites n := by
  induction n using Node.childrenInduction with
  | node n ih =>
    have hdir : isDirective (n.mapPositions f) = isDirective n := by
      rw [Node.mapPositions]
      rfl
    cases hd : isDirective n
    · rw [sites_of_not_directive (hdir.trans hd), sites_of_not_directive hd, Node.mapPositions]
      simp only [List.zipIdx_map, List.map_map]
      congr 1
      refine List.map_congr_left fun ⟨c, i⟩ hci => ?_
      simp only [Function.comp, Prod.map, id]
      rw [ih c (List.fst_mem_of_mem_zipIdx hci)]
    · rw [sites_of_directive (hdir.trans hd), sites_of_directive hd, Node.mapPositions]
      unfold named
      rcases n.children with _ | ⟨c, _⟩
      · rfl
      · rw [List.map_cons, Node.mapPositions]

/-! ## Overwriting at places -/

/-- Replacing below the child at index `i` changes that child only; past the last child it
changes nothing. -/
theorem replaceAt_cons (n r : Node) (i : Nat) (rest : List Nat) :
    replaceAt n (i :: rest) r =
      { n with children := n.children.modify i fun c => replaceAt c rest r } := by
  rw [replaceAt]
  split
  · next c hc =>
    rw [List.modify_eq_set, hc]
    rfl
  · next hc =>
    exact (Node.with_children_eq (List.modify_eq_self (by simpa using hc))).symm

theorem replaceAll_cons (n : Node) (s : Site) (r : Node) (rest : List (Site × Node)) :
    replaceAll n ((s, r) :: rest) = replaceAll (replaceAt n s.place r) rest := rfl

/-- Replacements below the child at index `i` are replacements in that child. -/
theorem replaceAll_under (n : Node) (i : Nat) (l : List (Site × Node)) :
    replaceAll n (l.map fun (s, r) => (s.under i, r)) =
      { n with children := n.children.modify i fun c => replaceAll c l } := by
  induction l generalizing n with
  | nil =>
    exact (Node.with_children_eq (List.modify_id i n.children)).symm
  | cons sr l ih =>
    obtain ⟨s, r⟩ := sr
    rw [List.map_cons, replaceAll_cons, Site.under, replaceAt_cons, ih, List.modify_modify_eq]
    rfl

theorem modify_length_append {α : Type} (f : α → α) (pre : List α) (c : α) (cs : List α) :
    (pre ++ c :: cs).modify pre.length f = pre ++ f c :: cs := by
  induction pre with
  | nil => rfl
  | cons a pre ih => simp [ih]

/-- Modifying every entry of a list, each at its own index and from its value in the list, is
mapping over the list. -/
theorem foldl_modify_zipIdx {α : Type} (g : α → α → α) (pre cs : List α) :
    (cs.zipIdx pre.length).foldl (fun l (c, i) => l.modify i (g c)) (pre ++ cs) =
      pre ++ cs.map fun c => g c c := by
  induction cs generalizing pre with
  | nil => simp
  | cons c cs ih =>
    have step := ih (pre ++ [g c c])
    simp only [List.length_append, List.length_singleton, List.append_assoc, List.singleton_append]
      at step
    simp [List.zipIdx_cons, modify_length_append, step]

/-- Replacements in each child, each block moved under its child's index, replace in every
child. -/
theorem replaceAll_children (n : Node) (block : Node → List (Site × Node)) :
    replaceAll n ((n.children.zipIdx.map fun (c, i) =>
        (block c).map fun (s, r) => (s.under i, r)).flatten) =
      { n with children := n.children.map fun c => replaceAll c (block c) } := by
  have fold : ∀ (l : List (Node × Nat)) (t : Node),
      (l.map fun (c, i) => (block c).map fun (s, r) => (s.under i, r)).foldl replaceAll t =
        { t with
          children := (l.foldl (fun cs (c, i) => cs.modify i (replaceAll · (block c))) t.children) }
        := by
    intro l
    induction l with
    | nil => intro t; exact (Node.with_children_eq rfl).symm
    | cons ci l ih =>
      intro t
      obtain ⟨c, i⟩ := ci
      rw [List.map_cons, List.foldl_cons, replaceAll_under, ih]
      rfl
  have each := foldl_modify_zipIdx (fun c x => replaceAll x (block c)) [] n.children
  simp only [List.length_nil, List.nil_append] at each
  calc replaceAll n (n.children.zipIdx.map fun (c, i) =>
          (block c).map fun (s, r) => (s.under i, r)).flatten
      = (n.children.zipIdx.map fun (c, i) =>
          (block c).map fun (s, r) => (s.under i, r)).foldl replaceAll n := List.foldl_flatten
    _ = _ := by rw [fold, each]

/-! ## Substitution -/

section Substitute

variable (f : String → Node)

theorem substitute_of_directive {n : Node} (h : isDirective n = true) :
    substitute f n = ((named n).map f).getD n := by
  rw [substitute, if_pos h]

theorem substitute_of_not_directive {n : Node} (h : isDirective n = false) :
    substitute f n = { n with children := n.children.map (substitute f) } := by
  rw [substitute, if_neg (by simp [h])]
  simp only [List.attach_map_val]

/-- Overwriting the directives one by one, in document order, substitutes them all: the places
of distinct directives lead into distinct subtrees, so no overwrite disturbs a later one. -/
theorem replaceAll_sites (n : Node) :
    replaceAll n ((sites n).map fun s => (s, f s.specifier)) = substitute f n := by
  induction n using Node.childrenInduction with
  | node n ih =>
    cases h : isDirective n
    · -- the replacements are those of the children, each block under its child's index
      have blocks : (sites n).map (fun s => (s, f s.specifier)) =
          (n.children.zipIdx.map fun (c, i) =>
            ((sites c).map fun s => (s, f s.specifier)).map fun (s, r) =>
              (s.under i, r)).flatten := by
        rw [sites_of_not_directive h, List.map_flatten, List.map_map]
        congr 1
        refine List.map_congr_left fun _ _ => ?_
        simp only [Function.comp, List.map_map]
        rfl
      rw [blocks, replaceAll_children n fun c => (sites c).map fun s => (s, f s.specifier),
        substitute_of_not_directive f h]
      congr 1
      exact List.map_congr_left ih
    · rw [sites_of_directive h, substitute_of_directive f h]
      cases named n <;> rfl

/-- Substitutions that agree on the paths a tree names agree on the tree. -/
theorem substitute_congr {g : String → Node} (n : Node) (h : ∀ p ∈ specifiers n, f p = g p) :
    substitute f n = substitute g n := by
  induction n using Node.childrenInduction with
  | node n ih =>
    cases hd : isDirective n
    · rw [specifiers_of_not_directive hd] at h
      rw [substitute_of_not_directive f hd, substitute_of_not_directive g hd]
      congr 1
      refine List.map_congr_left fun c hc => ih c hc fun p hp => h p ?_
      exact List.mem_flatten.2 ⟨_, List.mem_map_of_mem hc, hp⟩
    · rw [specifiers_of_directive hd] at h
      rw [substitute_of_directive f hd, substitute_of_directive g hd]
      cases hn : named n with
      | none => rfl
      | some p => simp [h p (by simp [hn])]

/-- A substitution whose replacements hold no directive leaves none. -/
theorem sites_substitute (n : Node) (h : ∀ p ∈ specifiers n, sites (f p) = []) :
    sites (substitute f n) = [] := by
  induction n using Node.childrenInduction with
  | node n ih =>
    cases hd : isDirective n
    · rw [specifiers_of_not_directive hd] at h
      -- substituting keeps the node's kind and name, so it is still no directive
      have hd' : isDirective { n with children := n.children.map (substitute f) } = false := hd
      rw [substitute_of_not_directive f hd, sites_eq_nil_iff, specifiers_of_not_directive hd',
        List.flatten_eq_nil_iff]
      simp only [List.map_map, List.mem_map, Function.comp_apply]
      rintro _ ⟨c, hc, rfl⟩
      refine sites_eq_nil_iff.1 (ih c hc fun p hp => h p ?_)
      exact List.mem_flatten.2 ⟨_, List.mem_map_of_mem hc, hp⟩
    · rw [specifiers_of_directive hd] at h
      rw [substitute_of_directive f hd]
      cases hn : named n with
      | none => simp [sites_of_directive hd, hn]
      | some p => exact h p (by simp [hn])

end Substitute

end Include

end Manuscript
