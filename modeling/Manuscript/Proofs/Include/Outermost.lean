import Manuscript.Proofs.Include.Splice

/-!
# The directives a tree names are its outermost ones

A node of a tree is found by its place, the child indices that lead to it from the root
(`Node.at?`), and `Node.places` lists the places of all nodes in document order: a node before
its children, and the children one after the other.

`sites` stops at every include directive, so a directive inside another one is never found, and
a directive whose first child is not text names nothing. Said without the walk, the sites of a
tree are the places, in document order, of the include directives that name a path and have no
include directive above them (`sites_place_eq_filter`), each with the text of its first child
(`sites_specifier`). No site lies inside another (`sites_pairwise_apart`), so overwriting the
sites in any order gives the same tree (`replaceAll_perm_sites`); all four are gathered in
`sites_are_outermost_directives`.
-/

namespace Manuscript

namespace Node

/-- The node at a place: the child indices that lead to it, outermost first. -/
def at? : Node → List Nat → Option Node
  | n, [] => some n
  | n, i :: p => n.children[i]?.bind fun c => at? c p

/-- The places of the nodes of a tree in document order: the root, then the places in each child
under that child's index. -/
def places (n : Node) : List (List Nat) :=
  [] :: (n.children.attach.zipIdx.map fun (⟨c, _⟩, i) => (places c).map (i :: ·)).flatten
termination_by n
decreasing_by exact Node.sizeOf_lt_of_mem_children ‹_›

@[simp] theorem at?_nil (n : Node) : n.at? [] = some n := rfl

theorem at?_cons_of_getElem? {n c : Node} {i : Nat} (h : n.children[i]? = some c)
    (p : List Nat) : n.at? (i :: p) = c.at? p := by
  rw [at?, h, Option.bind_some]

theorem places_eq (n : Node) :
    n.places = [] :: (n.children.zipIdx.map fun (c, i) => (places c).map (i :: ·)).flatten := by
  rw [places]
  conv => rhs; rw [← List.attach_map_subtype_val n.children, List.zipIdx_map, List.map_map]
  rfl

/-- The children of a node, one after the other, start with distinct indices. -/
theorem zipIdx_pairwise_index (cs : List Node) :
    (cs.zipIdx.map Prod.snd).Pairwise (· ≠ ·) := by
  rw [List.zipIdx_map_snd]
  exact List.nodup_range'

/-- A place of a tree is listed once. -/
theorem places_nodup (n : Node) : n.places.Nodup := by
  induction n using Node.childrenInduction with
  | node n ih =>
    rw [places_eq, List.nodup_cons]
    constructor
    · -- every place below the root starts with a child index
      intro h
      obtain ⟨_, hl, hx⟩ := List.mem_flatten.1 h
      obtain ⟨⟨c, i⟩, -, rfl⟩ := List.mem_map.1 hl
      obtain ⟨p, -, hp⟩ := List.mem_map.1 hx
      cases hp
    · rw [List.Nodup, List.pairwise_flatten, List.pairwise_map]
      constructor
      · simp only [List.mem_map]
        rintro _ ⟨⟨c, i⟩, hci, rfl⟩
        rw [List.pairwise_map]
        exact (ih c (List.fst_mem_of_mem_zipIdx hci)).imp fun hne e => hne (List.cons.inj e).2
      · have apart := List.pairwise_map.1 (zipIdx_pairwise_index n.children)
        refine apart.imp fun {a b} hab => ?_
        simp only [List.mem_map]
        rintro _ ⟨p, -, rfl⟩ _ ⟨q, -, rfl⟩ e
        exact hab (List.cons.inj e).1

end Node

namespace Include

/-- Whether the node at a place is an include directive that names a path with no include
directive above it: the node there is a directive whose first child is text, and no proper
ancestor, at a shorter prefix of the place, is a directive, whether it names a path or not. -/
def isOutermostSite (n : Node) (p : List Nat) : Bool :=
  ((n.at? p).any fun d => isDirective d && (named d).isSome) &&
    !((List.range p.length).any fun k => (n.at? (p.take k)).any isDirective)

theorem isOutermostSite_nil (n : Node) :
    isOutermostSite n [] = (isDirective n && (named n).isSome) := by
  simp [isOutermostSite]

/-- Below the root, a place is an outermost site when the root is no directive and the place is
one in the child it leads into. -/
theorem isOutermostSite_cons {n c : Node} {i : Nat} (h : n.children[i]? = some c)
    (p : List Nat) :
    isOutermostSite n (i :: p) = (!isDirective n && isOutermostSite c p) := by
  -- the proper prefixes of `i :: p` are `[]` and `i ::` each proper prefix of `p`
  have above :
      ((List.range (p.length + 1)).any fun k => (n.at? ((i :: p).take k)).any isDirective) =
        (isDirective n ||
          (List.range p.length).any fun k => (c.at? (p.take k)).any isDirective) := by
    simp only [List.range_succ_eq_map, List.any_cons, List.any_map, List.take_zero, Node.at?_nil,
      Option.any_some, Function.comp_def, List.take_succ_cons, Node.at?_cons_of_getElem? h]
  rw [isOutermostSite, isOutermostSite, List.length_cons, above, Node.at?_cons_of_getElem? h]
  cases isDirective n <;> simp [Bool.and_comm]

/-- A directive stands above every place below it, so none of those is an outermost site. -/
theorem isOutermostSite_below_directive {n c : Node} {i : Nat} (hd : isDirective n = true)
    (h : n.children[i]? = some c) (p : List Nat) : isOutermostSite n (i :: p) = false := by
  rw [isOutermostSite_cons h, hd]
  rfl

/-- The places of the sites are the places of the outermost directives that name a path, in
document order. -/
theorem sites_place_eq_filter (n : Node) :
    (sites n).map (·.place) = n.places.filter (isOutermostSite n) := by
  induction n using Node.childrenInduction with
  | node n ih =>
    rw [Node.places_eq, List.filter_cons, isOutermostSite_nil]
    cases hd : isDirective n
    · -- the sites are those of the children, each under its index
      rw [sites_of_not_directive hd, Bool.false_and, if_neg Bool.false_ne_true, List.filter_flatten,
        List.map_flatten, List.map_map, List.map_map]
      congr 1
      refine List.map_congr_left fun ⟨c, i⟩ hci => ?_
      have hc : n.children[i]? = some c := List.mem_zipIdx_iff_getElem?.1 hci
      simp only [Function.comp_apply, List.map_map, List.filter_map]
      rw [show ((·.place) ∘ Site.under i) = (i :: ·) ∘ fun s : Site => s.place from rfl,
        ← List.map_map, ih c (List.fst_mem_of_mem_zipIdx hci)]
      congr 1
      refine List.filter_congr fun q _ => ?_
      rw [Function.comp_apply, isOutermostSite_cons hc, hd]
      rfl
    · -- a directive is its own only site, and nothing below it is one
      rw [List.filter_eq_nil_iff.2 fun x h => ?_, sites_of_directive hd]
      · cases named n <;> rfl
      · obtain ⟨_, hl, hx⟩ := List.mem_flatten.1 h
        obtain ⟨⟨c, i⟩, hci, rfl⟩ := List.mem_map.1 hl
        obtain ⟨q, -, rfl⟩ := List.mem_map.1 hx
        rw [isOutermostSite_below_directive hd (List.mem_zipIdx_iff_getElem?.1 hci)]
        exact Bool.false_ne_true

/-- The path of a site is the text of the first child of the directive at its place. -/
theorem sites_specifier (n : Node) :
    ∀ s ∈ sites n, (n.at? s.place).bind named = some s.specifier := by
  induction n using Node.childrenInduction with
  | node n ih =>
    intro s hs
    cases hd : isDirective n
    · rw [sites_of_not_directive hd] at hs
      obtain ⟨_, hl, hx⟩ := List.mem_flatten.1 hs
      obtain ⟨⟨c, i⟩, hci, rfl⟩ := List.mem_map.1 hl
      obtain ⟨t, ht, rfl⟩ := List.mem_map.1 hx
      rw [Site.under, Node.at?_cons_of_getElem? (List.mem_zipIdx_iff_getElem?.1 hci)]
      exact ih c (List.fst_mem_of_mem_zipIdx hci) t ht
    · rw [sites_of_directive hd] at hs
      cases hn : named n with
      | none => simp [hn] at hs
      | some p =>
        simp only [hn, Option.toList_some, List.map_cons, List.map_nil, List.mem_singleton] at hs
        subst hs
        simpa using hn

theorem isOutermostSite_of_mem_sites {n : Node} {s : Site} (hs : s ∈ sites n) :
    isOutermostSite n s.place = true := by
  have h : s.place ∈ (sites n).map (·.place) := List.mem_map_of_mem hs
  rw [sites_place_eq_filter] at h
  exact (List.mem_filter.1 h).2

/-- Of two distinct outermost sites, neither lies inside the other: the shorter would be a
directive above the longer. -/
theorem not_prefix_of_isOutermostSite {n : Node} {p q : List Nat}
    (hp : isOutermostSite n p = true) (hq : isOutermostSite n q = true) (hne : p ≠ q) :
    ¬ p <+: q := by
  intro hpq
  have htake : q.take p.length = p := (List.prefix_iff_eq_take.1 hpq).symm
  have hlt : p.length < q.length := by
    refine Nat.lt_of_le_of_ne hpq.length_le fun e => hne ?_
    rw [← htake, e, List.take_length]
  simp only [isOutermostSite, Bool.and_eq_true, Bool.not_eq_true', List.any_eq_false,
    List.mem_range, Option.any_eq_true] at hp hq
  obtain ⟨⟨d, hd, hdir⟩, -⟩ := hp
  have above := hq.2 p.length hlt
  rw [htake, hd] at above
  exact above ⟨d, rfl, hdir.1⟩

/-- Two sites at one place are the same site. -/
theorem site_eq_of_place_eq {n : Node} {s t : Site} (hs : s ∈ sites n) (ht : t ∈ sites n)
    (h : s.place = t.place) : s = t := by
  have hspec := (sites_specifier n s hs).symm.trans (h ▸ sites_specifier n t ht)
  cases s
  cases t
  simp_all

/-- The sites are pairwise apart: of any two, neither place is a prefix of the other. -/
theorem sites_pairwise_apart (n : Node) :
    (sites n).Pairwise fun s t => ¬ s.place <+: t.place ∧ ¬ t.place <+: s.place := by
  have distinct : (sites n).Pairwise fun s t => s.place ≠ t.place := by
    rw [← List.pairwise_map, sites_place_eq_filter]
    exact (Node.places_nodup n).sublist List.filter_sublist
  refine distinct.imp_of_mem fun hs ht hne => ⟨?_, ?_⟩
  · exact not_prefix_of_isOutermostSite (isOutermostSite_of_mem_sites hs)
      (isOutermostSite_of_mem_sites ht) hne
  · exact not_prefix_of_isOutermostSite (isOutermostSite_of_mem_sites ht)
      (isOutermostSite_of_mem_sites hs) (Ne.symm hne)

/-! ## Overwriting in any order -/

/-- Overwriting at two places, neither inside the other, may be done in either order. -/
theorem replaceAt_comm (n r r' : Node) :
    ∀ {p q : List Nat}, ¬ p <+: q → ¬ q <+: p →
      replaceAt (replaceAt n p r) q r' = replaceAt (replaceAt n q r') p r
  | [], _, hpq, _ => absurd List.nil_prefix hpq
  | _ :: _, [], _, hqp => absurd List.nil_prefix hqp
  | i :: p, j :: q, hpq, hqp => by
    simp only [replaceAt_cons]
    by_cases hij : i = j
    · -- both overwrite inside one child
      subst hij
      simp only [List.cons_prefix_cons, true_and] at hpq hqp
      rw [List.modify_modify_eq, List.modify_modify_eq]
      congr 2
      funext c
      exact replaceAt_comm c r r' hpq hqp
    · rw [List.modify_modify_ne _ _ _ hij]

/-- The sites of a tree may be overwritten in any order. -/
theorem replaceAll_perm_sites (n : Node) (g : Site → Node) {l : List (Site × Node)}
    (hl : l.Perm ((sites n).map fun s => (s, g s))) :
    replaceAll n l = replaceAll n ((sites n).map fun s => (s, g s)) := by
  refine (hl.symm.foldl_eq' ?_ n).symm
  simp only [List.mem_map]
  rintro _ ⟨s, hs, rfl⟩ _ ⟨t, ht, rfl⟩ z
  by_cases hst : s.place = t.place
  · rw [site_eq_of_place_eq hs ht hst]
  · exact replaceAt_comm z (g s) (g t)
      (not_prefix_of_isOutermostSite (isOutermostSite_of_mem_sites hs)
        (isOutermostSite_of_mem_sites ht) hst)
      (not_prefix_of_isOutermostSite (isOutermostSite_of_mem_sites ht)
        (isOutermostSite_of_mem_sites hs) (Ne.symm hst))

/-- The sites of a tree are exactly its outermost include directives that name a path, in
document order, each with the text of its first child; they are pairwise apart, so overwriting
them in any order gives the same tree. -/
theorem sites_are_outermost_directives (n : Node) :
    (sites n).map (·.place) = n.places.filter (isOutermostSite n) ∧
    (∀ s ∈ sites n, (n.at? s.place).bind named = some s.specifier) ∧
    (sites n).Pairwise (fun s t => ¬ s.place <+: t.place ∧ ¬ t.place <+: s.place) ∧
    ∀ (g : Site → Node) (l : List (Site × Node)), l.Perm ((sites n).map fun s => (s, g s)) →
      replaceAll n l = replaceAll n ((sites n).map fun s => (s, g s)) :=
  ⟨sites_place_eq_filter n, sites_specifier n, sites_pairwise_apart n,
    fun g _ hl => replaceAll_perm_sites n g hl⟩

end Include

end Manuscript
