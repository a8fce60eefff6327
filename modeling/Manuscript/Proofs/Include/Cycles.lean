import Manuscript.Proofs.Include.Schedule
import Manuscript.Proofs.Include.Loading
import Manuscript.Proofs.Host.Path
import Mathlib.Data.List.Chain
import Mathlib.Data.List.Nodup
import Mathlib.Logic.Relation

/-!
# Cycles of includes

Resolving from a host tree `root`, the document at `host`, reaches levels (`Reaches`): the host,
and below a level with a path and room to nest, the document of each of its directives whose
file is not on the level's chain and loads. The chain of a level lists the documents that
include it, the host first; each level passes its own chain and its own path to its directives,
so siblings and cousins never see each other's files.

Every level has a chain of distinct files, each including the next in the include graph
(`Includes`), at most `maxDepth` long (`Reaches.sound`). Everything a run does happens at such
levels: its error, if any, is raised by a directive of one (`Raises`), and every file it records
is the file of one (`traced_resolveTree`). A cycle report lists a cycle of the include graph
through the ancestors of the directive that closes it (`cycle_report`, `Raises.cycle_message`),
a depth failure comes from a level `maxDepth` deep (`Raises.depth_message`), and no schedule
succeeds from a host from which the include graph reaches a cycle
(`not_scheduled_of_reaches_cycle`). On `loopWorld`, a file that includes itself, the report
names the file twice.
-/

namespace Manuscript.Include

open Relation

/-- The tree that resolving `root`, the document at `host`, resolves at the absolute path `a`:
the host tree at the host's own path, and the document at `a` anywhere else. -/
def treeAt (w : World) (c : Compiler) (host : Option String) (root : Node) (a : String) :
    Option Node :=
  if host.map (Path.absolute w.cwd) = some a then some root else document w c a

/-- The include graph of a resolution: `a` includes `b` when the tree resolved at `a` has a
directive whose file is `b`. -/
def Includes (w : World) (c : Compiler) (host : Option String) (root : Node) (a b : String) :
    Prop :=
  ∃ t ∈ treeAt w c host root a, ∃ s ∈ sites t, includedPath w.cwd a s.specifier = b

/-- The levels that resolving `root`, the document at `host`, reaches, each with the chain of
the absolute paths of the documents that include it (the host first), its path and its tree. -/
inductive Reaches (w : World) (c : Compiler) (host : Option String) (root : Node) :
    List String → Option String → Node → Prop
  | host : Reaches w c host root [] host root
  /-- A directive of a level with room to nest whose file is off the level's chain, and whose
  document loads, is a level one deeper. -/
  | load {chain : List String} {p : String} {tree : Node} (s : Site) (doc : Node) :
      Reaches w c host root chain (some p) tree → chain.length < maxDepth → s ∈ sites tree →
      includedPath w.cwd p s.specifier ∉ chain ++ [Path.absolute w.cwd p] →
      document w c (includedPath w.cwd p s.specifier) = some doc →
      Reaches w c host root (chain ++ [Path.absolute w.cwd p])
        (some (includedPath w.cwd p s.specifier)) doc

/-- The errors that resolving `root`, the document at `host`, can raise, each by a directive of
a level it reaches. -/
inductive Raises (w : World) (c : Compiler) (host : Option String) (root : Node) : Error → Prop
  /-- A level without a path has a directive. -/
  | noPath {chain : List String} {tree : Node} (s : Site) (rest : List Site) :
      Reaches w c host root chain none tree → sites tree = s :: rest →
        Raises w c host root (noPathFailure s)
  /-- A level `maxDepth` deep has a directive. -/
  | deep {chain : List String} {p : String} {tree : Node} (s : Site) (rest : List Site) :
      Reaches w c host root chain (some p) tree → maxDepth ≤ chain.length →
      sites tree = s :: rest → Raises w c host root (depthFailure s p)
  /-- A directive names a file on the chain of its level. -/
  | cycle {chain : List String} {p : String} {tree : Node} (s : Site) :
      Reaches w c host root chain (some p) tree → chain.length < maxDepth → s ∈ sites tree →
      includedPath w.cwd p s.specifier ∈ chain ++ [Path.absolute w.cwd p] →
      Raises w c host root
        (cycleFailure (chain ++ [Path.absolute w.cwd p]) s (includedPath w.cwd p s.specifier))
  /-- A directive names a file off the chain of its level whose document does not load. -/
  | load {chain : List String} {p : String} {tree : Node} {e : Error} (s : Site) :
      Reaches w c host root chain (some p) tree → chain.length < maxDepth → s ∈ sites tree →
      includedPath w.cwd p s.specifier ∉ chain ++ [Path.absolute w.cwd p] →
      document w c (includedPath w.cwd p s.specifier) = none →
      eval (load c s (includedPath w.cwd p s.specifier) : Resolving (StateM World) _) w =
        (.error e, []) →
      Raises w c host root e

section Chains

variable {w : World} {c : Compiler} {host : Option String} {root : Node}

/-- A file made absolute once names the same directives' files when it is made absolute again. -/
theorem includedPath_absolute (hcwd : Path.isAbsolute w.cwd = true) (p spec : String) :
    includedPath w.cwd (Path.absolute w.cwd p) spec = includedPath w.cwd p spec := by
  rw [includedPath, Path.absolute_absolute hcwd]
  rfl

theorem absolute_includedPath (hcwd : Path.isAbsolute w.cwd = true) (p spec : String) :
    Path.absolute w.cwd (includedPath w.cwd p spec) = includedPath w.cwd p spec :=
  Path.absolute_absolute hcwd _

/-- What holds at a level with the chain `chain` and the path `p`: the chain and the level's own
file are distinct files that start at the host, each including the next, the tree is the one
resolved at the level's file, and the level is at most `maxDepth` deep. -/
structure ChainSound (w : World) (c : Compiler) (host : Option String) (root : Node)
    (chain : List String) (p : String) (tree : Node) : Prop where
  nodup : (chain ++ [Path.absolute w.cwd p]).Nodup
  head : (chain ++ [Path.absolute w.cwd p]).head? = host.map (Path.absolute w.cwd)
  walk : (chain ++ [Path.absolute w.cwd p]).IsChain (Includes w c host root)
  tree : treeAt w c host root (Path.absolute w.cwd p) = some tree
  depth : chain.length ≤ maxDepth

theorem treeAt_host (p : String) :
    treeAt w c (some p) root (Path.absolute w.cwd p) = some root :=
  if_pos rfl

/-- The host level of a resolution with a path is sound. -/
theorem chainSound_host (p : String) : ChainSound w c (some p) root [] p root where
  nodup := List.nodup_singleton _
  head := rfl
  walk := List.isChain_singleton _
  tree := treeAt_host p
  depth := Nat.zero_le _

/-- A directive of a sound level is an edge of the include graph from the level's file. -/
theorem ChainSound.includes (hcwd : Path.isAbsolute w.cwd = true) {chain : List String}
    {p : String} {tree : Node} {s : Site} (h : ChainSound w c host root chain p tree)
    (hs : s ∈ sites tree) :
    Includes w c host root (Path.absolute w.cwd p) (includedPath w.cwd p s.specifier) :=
  ⟨tree, h.tree, s, hs, includedPath_absolute hcwd p s.specifier⟩

/-- Loading a directive of a sound level gives a sound level: the directive's file is off the
chain and is not the host, and the level's tree has the directive, which is the edge of the
include graph from the level's file to it. -/
theorem ChainSound.load (hcwd : Path.isAbsolute w.cwd = true) {chain : List String} {p : String}
    {tree doc : Node} {s : Site} (h : ChainSound w c host root chain p tree)
    (hd : chain.length < maxDepth) (hs : s ∈ sites tree)
    (hoff : includedPath w.cwd p s.specifier ∉ chain ++ [Path.absolute w.cwd p])
    (hdoc : document w c (includedPath w.cwd p s.specifier) = some doc) :
    ChainSound w c host root (chain ++ [Path.absolute w.cwd p]) (includedPath w.cwd p s.specifier)
      doc := by
  have hT := absolute_includedPath hcwd p s.specifier
  have hhost : host.map (Path.absolute w.cwd) ≠ some (includedPath w.cwd p s.specifier) := by
    intro hh
    rw [← h.head] at hh
    exact hoff (List.mem_of_mem_head? hh)
  refine ⟨?_, ?_, ?_, ?_, ?_⟩
  · rw [hT, List.nodup_append]
    exact ⟨h.nodup, List.nodup_singleton _, fun a ha b hb => by
      rw [List.mem_singleton.1 hb]
      rintro rfl
      exact hoff ha⟩
  · rw [List.head?_append_of_ne_nil _ (by simp), h.head]
  · rw [hT]
    refine h.walk.append (List.isChain_singleton _) fun a ha b hb => ?_
    rw [List.getLast?_concat, Option.mem_some_iff] at ha
    rw [List.head?_cons, Option.mem_some_iff] at hb
    subst ha hb
    exact h.includes hcwd hs
  · rw [hT, treeAt, if_neg hhost, hdoc]
  · simp only [List.length_append, List.length_singleton]
    omega

/-- Every level that resolving reaches below a host with a path is sound. -/
theorem Reaches.sound (hcwd : Path.isAbsolute w.cwd = true) {chain : List String}
    {path : Option String} {tree : Node} (h : Reaches w c host root chain path tree) :
    ∀ p, path = some p → ChainSound w c host root chain p tree := by
  induction h with
  | host =>
    rintro p rfl
    exact chainSound_host p
  | load s doc _ hd hs hoff hdoc ih =>
    rintro p ⟨⟩
    exact (ih _ rfl).load hcwd hd hs hoff hdoc

end Chains

/-! ## Where a run's error and records come from -/

section Traced

variable {α β : Type} {R : Error → Prop} {L : String → Prop}

/-- A run traced by `R` and `L`: its error, if it has one, satisfies `R`, and every file it
records satisfies `L`. -/
def Traced (R : Error → Prop) (L : String → Prop) (run : Except Error α × List String) : Prop :=
  (∀ e, run.1 = .error e → R e) ∧ ∀ x ∈ run.2, L x

theorem traced_ok (a : α) : Traced R L (.ok a, []) := by
  refine ⟨fun e h => ?_, fun x h => ?_⟩ <;> cases h

theorem traced_error {e : Error} (h : R e) : Traced R L ((.error e : Except Error α), []) := by
  refine ⟨fun e' he => ?_, fun x hx => absurd hx List.not_mem_nil⟩
  cases he
  exact h

/-- A failed run is traced whatever the type of the result it did not give. -/
theorem Traced.error_cast {e : Error} {l : List String}
    (h : Traced R L ((.error e : Except Error α), l)) :
    Traced R L ((.error e : Except Error β), l) := by
  refine ⟨fun e' he => ?_, h.2⟩
  cases he
  exact h.1 e rfl

/-- A run stays traced when its result is mapped and records traced before it are put first. -/
theorem Traced.map_append {run : Except Error α × List String} (h : Traced R L run) (f : α → β)
    {l : List String} (hl : ∀ x ∈ l, L x) : Traced R L (run.1.map f, l ++ run.2) := by
  obtain ⟨r, l'⟩ := run
  refine ⟨fun e he => ?_, fun x hx => ?_⟩
  · cases r with
    | error e' =>
      cases he
      exact h.1 e rfl
    | ok a => cases he
  · rcases List.mem_append.1 hx with hx | hx
    · exact hl x hx
    · exact h.2 x hx

theorem traced_mapM {f : α → Resolving (StateM World) β} {w : World} :
    ∀ {as : List α}, (∀ a ∈ as, Frames (f a) w) → (∀ a ∈ as, Traced R L (eval (f a) w)) →
      Traced R L (eval (as.mapM f) w)
  | [], _, _ => traced_ok []
  | a :: as, hf, h => by
    have hf' : ∀ a ∈ as, Frames (f a) w := fun a' ha' => hf a' (List.mem_cons_of_mem a ha')
    have ha := h a List.mem_cons_self
    rcases hr : eval (f a) w with ⟨e | b, l⟩
    · rw [eval_mapM_cons_error (hf a List.mem_cons_self) hr]
      rw [hr] at ha
      exact ha.error_cast
    · rw [eval_mapM_cons_ok (hf a List.mem_cons_self) (frames_mapM hf') hr]
      rw [hr] at ha
      exact (traced_mapM hf' fun a' ha' => h a' (List.mem_cons_of_mem a ha')).map_append _ ha.2

/-- A directive step is traced when a cycle on its chain, a document of its file that does not
load, and the resolution of the document that does load are. -/
theorem traced_resolveSite
    {resolve : Node → Option String → Nat → List String → Resolving (StateM World) Node}
    {c : Compiler} {record : Bool} {baseDir : String} {depth : Nat} {chain : List String}
    {site : Site} {w : World}
    (hres : ∀ t, Frames (resolve t (some (targetOf w.cwd baseDir site)) (depth + 1) chain) w)
    (hcycle : targetOf w.cwd baseDir site ∈ chain →
      R (cycleFailure chain site (targetOf w.cwd baseDir site)))
    (hload : targetOf w.cwd baseDir site ∉ chain →
      document w c (targetOf w.cwd baseDir site) = none → ∀ e,
      eval (load c site (targetOf w.cwd baseDir site) : Resolving (StateM World) _) w =
        (.error e, []) → R e)
    (hnest : targetOf w.cwd baseDir site ∉ chain → ∀ doc,
      document w c (targetOf w.cwd baseDir site) = some doc →
      L (targetOf w.cwd baseDir site) ∧
        Traced R L (eval (resolve doc (some (targetOf w.cwd baseDir site)) (depth + 1) chain) w)) :
    Traced R L (eval (resolveSite resolve c record w.cwd baseDir depth chain site) w) := by
  by_cases hc : targetOf w.cwd baseDir site ∈ chain
  · rw [eval_resolveSite_cycle hc]
    exact traced_error (hcycle hc)
  rcases hd : document w c (targetOf w.cwd baseDir site) with _ | doc
  · obtain ⟨e, he⟩ := eval_load_of_document_none c site _ w hd
    rw [eval_resolveSite_load_error hc he]
    exact traced_error (hload hc hd e he)
  · obtain ⟨hT, hnested⟩ := hnest hc doc hd
    rw [eval_resolveSite_ok hc (eval_load_of_document c site _ w hd) (hres doc)]
    refine hnested.map_append _ fun x hx => ?_
    split at hx
    · rw [List.mem_singleton.1 hx]
      exact hT
    · exact absurd hx List.not_mem_nil

end Traced

section Provenance

variable {w : World} {c : Compiler} {host : Option String} {root : Node}

/-- The files of the levels below the host that resolving reaches. -/
def Loaded (w : World) (c : Compiler) (host : Option String) (root : Node) (T : String) : Prop :=
  ∃ chain doc, chain ≠ [] ∧ Reaches w c host root chain (some T) doc

/-- Everything a run does from a level that resolving reaches happens at levels it reaches: its
error is raised by a directive of one, and every file it records is the file of one. -/
theorem traced_resolveTree (record : Bool) :
    ∀ (fuel : Nat) {chain : List String} {path : Option String} {tree : Node},
      Reaches w c host root chain path tree →
      Traced (Raises w c host root) (Loaded w c host root)
        (eval (resolveTree c record fuel tree path chain.length chain) w)
  | 0, _, _, _, _ => traced_ok _
  | fuel + 1, chain, path, tree, h => by
    by_cases hs : sites tree = []
    · rw [eval_resolveTree_plain hs]
      exact traced_ok _
    obtain ⟨first, rest, hfirst⟩ := List.exists_cons_of_ne_nil hs
    cases path with
    | none =>
      rw [eval_resolveTree_noPath hfirst]
      exact traced_error (.noPath first rest h hfirst)
    | some p =>
      by_cases hd : maxDepth ≤ chain.length
      · rw [eval_resolveTree_deep hfirst hd]
        exact traced_error (.deep first rest h hd hfirst)
      rw [eval_resolveTree_sites hs (by omega)]
      have hlen : (chain ++ [Path.absolute w.cwd p]).length = chain.length + 1 := by simp
      -- each directive is a cycle, a load that fails or a level one deeper
      refine (traced_mapM (fun s _ => frames_resolveSite _ fun t => frames_resolveTree fuel t _ _ _)
        fun s hs' => traced_resolveSite (fun t => frames_resolveTree fuel t _ _ _)
          (fun hc => Raises.cycle s h (by omega) hs' hc)
          (fun hc hdoc e he => Raises.load s h (by omega) hs' hc hdoc he)
          fun hc doc hdoc => ?_).map_append _ fun _ h => absurd h List.not_mem_nil
      have hnext := Reaches.load s doc h (by omega) hs' hc hdoc
      refine ⟨⟨_, doc, by simp, hnext⟩, ?_⟩
      rw [← hlen]
      exact traced_resolveTree record fuel hnext

end Provenance

/-! ## Cycle reports -/

section Report

/-- The message of a cycle failure lists the chain from the first occurrence of the target on,
and the target again. -/
theorem cycleFailure_eq (chain : List String) (site : Site) (target : String) :
    cycleFailure chain site target =
      .includeFailed ("Circular include: " ++
        " -> ".intercalate (chain.drop (chain.idxOf target) ++ [target]))
        (some site.specifier) (some target) :=
  rfl

/-- The files a cycle failure lists on a chain of distinct files, each related to the next and
the last to the target, start and end with the target, are distinct before that end, follow
the relation from each to the next, and before the end are the last files of the chain. -/
theorem cycle_report {r : String → String → Prop} {chain : List String} {target : String}
    (hnodup : chain.Nodup) (hwalk : chain.IsChain r) (hlast : ∀ x ∈ chain.getLast?, r x target)
    (hmem : target ∈ chain) :
    2 ≤ (chain.drop (chain.idxOf target) ++ [target]).length ∧
      (chain.drop (chain.idxOf target) ++ [target]).head? = some target ∧
      (chain.drop (chain.idxOf target) ++ [target]).getLast? = some target ∧
      (chain.drop (chain.idxOf target) ++ [target]).dropLast.Nodup ∧
      (chain.drop (chain.idxOf target) ++ [target]).IsChain r ∧
      (chain.drop (chain.idxOf target) ++ [target]).dropLast <:+ chain := by
  have hidx : chain.idxOf target < chain.length := List.idxOf_lt_length_of_mem hmem
  have hne : chain.drop (chain.idxOf target) ≠ [] := by simp [hidx]
  rw [List.dropLast_concat]
  refine ⟨by simp; omega, ?_, List.getLast?_concat, ?_, ?_, List.drop_suffix _ _⟩
  · rw [List.head?_append_of_ne_nil _ hne, List.head?_drop, List.getElem?_eq_getElem hidx,
      List.getElem_idxOf hidx]
  · exact hnodup.sublist (List.drop_sublist _ _)
  · refine (hwalk.drop _).append (List.isChain_singleton _) fun x hx y hy => ?_
    rw [List.getLast?_drop, if_neg (by omega)] at hx
    rw [List.head?_cons, Option.mem_some_iff] at hy
    subst hy
    exact hlast x hx

/-- Two messages that start with texts neither of which starts the other differ. -/
theorem append_ne_append {a a' : String} (b b' : String)
    (h : ¬ a.toList <+: a'.toList ∧ ¬ a'.toList <+: a.toList) : a ++ b ≠ a' ++ b' := by
  intro heq
  have hlist := congrArg String.toList heq
  rw [String.toList_append, String.toList_append] at hlist
  have hprefix : a'.toList <+: a.toList ++ b.toList := hlist ▸ List.prefix_append _ _
  rcases List.prefix_or_prefix_of_prefix (List.prefix_append _ _) hprefix with hp | hp
  · exact h.1 hp
  · exact h.2 hp

end Report

/-! ## Cycles of the include graph -/

section Graph

variable {w : World} {c : Compiler} {host : Option String} {root : Node}

/-- From a file that reaches a cycle, the include graph steps to a file that reaches it too. -/
theorem exists_step_of_reaches_cycle {r : String → String → Prop} {a x : String}
    (ha : ReflTransGen r a x) (hx : TransGen r x x) : ∃ b, r a b ∧ ReflTransGen r b x := by
  rcases ha.cases_head with rfl | hstep
  · exact TransGen.head'_iff.1 hx
  · exact hstep

/-- No schedule succeeds at a level from whose file the include graph reaches a cycle: each
directive on the way steps one level deeper, and the depth is bounded. -/
theorem not_scheduled_of_reaches_cycle (hcwd : Path.isAbsolute w.cwd = true) {record : Bool}
    {path : Option String} {depth : Nat} {chain : List String} {tree t : Node}
    {log : List String} (h : Scheduled w c record path depth chain tree t log) :
    ∀ p, path = some p →
      (∀ a ∈ host, Path.absolute w.cwd a ∈ chain ++ [Path.absolute w.cwd p]) →
      treeAt w c host root (Path.absolute w.cwd p) = some tree →
      ∀ x, ReflTransGen (Includes w c host root) (Path.absolute w.cwd p) x →
        TransGen (Includes w c host root) x x → False := by
  induction h with
  | plain hs =>
    rintro p rfl - htree x hreach hcycle
    obtain ⟨b, ⟨t', ht', s, hs', -⟩, -⟩ := exists_step_of_reaches_cycle hreach hcycle
    rw [htree, Option.mem_some_iff] at ht'
    subst ht'
    rw [hs] at hs'
    exact List.not_mem_nil hs'
  | @gather p depth chain tree log d r nested hne hd hoff hdoc _ _ ih =>
    rintro p' ⟨⟩ hhost htree x hreach hcycle
    obtain ⟨b, ⟨t', ht', s, hs, hb⟩, hbx⟩ := exists_step_of_reaches_cycle hreach hcycle
    rw [htree, Option.mem_some_iff] at ht'
    subst ht'
    rw [includedPath_absolute hcwd] at hb
    subst hb
    have hnothost : host.map (Path.absolute w.cwd) ≠ some (includedPath w.cwd p s.specifier) := by
      intro hh
      obtain ⟨a, ha, haT⟩ := Option.map_eq_some_iff.1 hh
      exact hoff s hs (haT ▸ hhost a ha)
    refine ih s hs _ rfl (fun a ha => List.mem_append_left _ (hhost a ha)) ?_ x ?_ hcycle
    · rw [absolute_includedPath hcwd, treeAt, if_neg hnothost, hdoc s hs]
    · rw [absolute_includedPath hcwd]
      exact hbx

end Graph

/-! ## Resolving a host tree -/

section Resolution

variable {w : World} {c : Compiler} {host : Option String} {root : Node}

/-- A level below the host is at the file of a directive, which is absolute and normal. -/
theorem Reaches.absolute_eq (hcwd : Path.isAbsolute w.cwd = true) {chain : List String}
    {T : String} {tree : Node} (h : Reaches w c host root chain (some T) tree) (hne : chain ≠ []) :
    Path.absolute w.cwd T = T := by
  cases h with
  | host => exact absurd rfl hne
  | load s doc _ _ _ _ _ => exact absolute_includedPath hcwd _ _

/-- A file read below the host is not on the chain of the documents that include it. -/
theorem Loaded.not_mem (hcwd : Path.isAbsolute w.cwd = true) {T : String}
    (h : Loaded w c host root T) :
    ∃ chain doc, Reaches w c host root chain (some T) doc ∧ chain ≠ [] ∧ T ∉ chain := by
  obtain ⟨chain, doc, hne, hT⟩ := h
  have hnodup := ((hT.sound hcwd) T rfl).nodup
  rw [hT.absolute_eq hcwd hne, List.nodup_append] at hnodup
  exact ⟨chain, doc, hT, hne, fun hmem => hnodup.2.2 T hmem T (List.mem_singleton_self T) rfl⟩

/-- The error of a failed load is a failure to read the file or no include failure at all, so
its message, if it has one, starts otherwise than a cycle's or a depth failure's. -/
theorem load_error_message {s : Site} {target : String} {e : Error} {pre rest : String}
    {spec file : Option String}
    (hl : eval (Include.load c s target : Resolving (StateM World) _) w = (.error e, []))
    (hpre : ¬ "Cannot read included file ".toList <+: pre.toList ∧
      ¬ pre.toList <+: "Cannot read included file ".toList)
    (he : e = .includeFailed (pre ++ rest) spec file) : False := by
  rcases load_failsWith c s _ e (by rw [hl]) with ⟨rest', hread⟩ | hnot
  · rw [hread] at he
    simp only [failure, Error.includeFailed.injEq] at he
    exact append_ne_append _ _ hpre he.1
  · exact hnot ⟨_, _, _, he⟩

/-- An error whose message starts as a cycle's is raised by a directive naming a file on its
level's chain, and the message lists a cycle of the include graph through the last files of that
chain: from the directive's file back to it, distinct before that, each including the next. -/
theorem Raises.cycle_message (hcwd : Path.isAbsolute w.cwd = true) {e : Error} {rest : String}
    {spec file : Option String} (h : Raises w c host root e)
    (he : e = .includeFailed ("Circular include: " ++ rest) spec file) :
    ∃ chain p tree s xs, Reaches w c host root chain (some p) tree ∧ s ∈ sites tree ∧
      rest = " -> ".intercalate xs ∧ spec = some s.specifier ∧
      file = some (includedPath w.cwd p s.specifier) ∧ 2 ≤ xs.length ∧ xs.head? = file ∧
      xs.getLast? = file ∧ xs.dropLast.Nodup ∧ xs.IsChain (Includes w c host root) ∧
      xs.dropLast <:+ chain ++ [Path.absolute w.cwd p] := by
  cases h with
  | noPath s _ _ _ =>
    simp only [noPathFailure, failure, Error.includeFailed.injEq, String.append_assoc] at he
    exact absurd he.1 (append_ne_append _ _ (by decide))
  | deep s _ _ _ _ =>
    simp only [depthFailure, failure, Error.includeFailed.injEq, String.append_assoc] at he
    exact absurd he.1 (append_ne_append _ _ (by decide))
  | @cycle chain p tree s hR hd hs hmem =>
    have hsound := hR.sound hcwd p rfl
    have hlast : ∀ x ∈ (chain ++ [Path.absolute w.cwd p]).getLast?,
        Includes w c host root x (includedPath w.cwd p s.specifier) := by
      intro x hx
      rw [List.getLast?_concat, Option.mem_some_iff] at hx
      subst hx
      exact hsound.includes hcwd hs
    obtain ⟨hlen, hhead, hlast', hnodup, hwalk, hsuffix⟩ :=
      cycle_report hsound.nodup hsound.walk hlast hmem
    rw [cycleFailure_eq, Error.includeFailed.injEq] at he
    obtain ⟨hmsg, hspec, hfile⟩ := he
    subst hspec hfile
    exact ⟨chain, p, tree, s, _, hR, hs, ((String.append_right_inj _).1 hmsg).symm, rfl, rfl, hlen,
      hhead, hlast', hnodup, hwalk, hsuffix⟩
  | load s _ _ _ _ _ hl =>
    exact (load_error_message hl (by decide) he).elim

/-- An error whose message starts as a depth failure's is raised at a level exactly `maxDepth`
deep that has a directive, and names that level's file. -/
theorem Raises.depth_message (hcwd : Path.isAbsolute w.cwd = true) {e : Error} {rest : String}
    {spec file : Option String} (h : Raises w c host root e)
    (he : e = .includeFailed ("Includes nested deeper than " ++ rest) spec file) :
    ∃ chain p tree, Reaches w c host root chain (some p) tree ∧ chain.length = maxDepth ∧
      sites tree ≠ [] ∧ file = some p := by
  cases h with
  | noPath s _ _ _ =>
    simp only [noPathFailure, failure, Error.includeFailed.injEq, String.append_assoc] at he
    exact absurd he.1 (append_ne_append _ _ (by decide))
  | @deep chain p tree s rest' hR hd hs =>
    simp only [depthFailure, failure, Error.includeFailed.injEq] at he
    have hdepth := (hR.sound hcwd p rfl).depth
    exact ⟨chain, p, tree, hR, by omega, by simp [hs], he.2.2.symm⟩
  | cycle s _ _ _ _ =>
    rw [cycleFailure_eq, Error.includeFailed.injEq] at he
    exact absurd he.1 (append_ne_append _ _ (by decide))
  | load s _ _ _ _ _ hl =>
    exact (load_error_message hl (by decide) he).elim

/-- Resolving terminates and detects cycles branch by branch: each level it reaches has a chain
of distinct including files, its errors and records come from such levels, and a cycle report
lists a cycle of the include graph. -/
theorem resolve_detects_cycles (hcwd : Path.isAbsolute w.cwd = true) (c : Compiler)
    (record : Bool) (root : Node) (path : Option String) :
    (∀ fuel, maxDepth < fuel →
      resolveTree (m := StateM World) c record fuel root path 0 [] =
        resolveTree c record (maxDepth + 1) root path 0 []) ∧
    (∀ chain p tree, Reaches w c path root chain (some p) tree →
      ChainSound w c path root chain p tree) ∧
    (∀ t deps w', (resolve c record root path : StateM World _).run w = (.ok (t, deps), w') →
      ∀ T ∈ deps, ∃ chain doc, Reaches w c path root chain (some T) doc ∧ chain ≠ [] ∧
        T ∉ chain) ∧
    (∀ e w', (resolve c record root path : StateM World _).run w = (.error e, w') →
      Raises w c path root e) ∧
    (∀ e w' rest spec file, (resolve c record root path : StateM World _).run w = (.error e, w') →
      e = .includeFailed ("Circular include: " ++ rest) spec file →
      ∃ chain p tree s xs, Reaches w c path root chain (some p) tree ∧ s ∈ sites tree ∧
        rest = " -> ".intercalate xs ∧ spec = some s.specifier ∧
        file = some (includedPath w.cwd p s.specifier) ∧ 2 ≤ xs.length ∧ xs.head? = file ∧
        xs.getLast? = file ∧ xs.dropLast.Nodup ∧ xs.IsChain (Includes w c path root) ∧
        xs.dropLast <:+ chain ++ [Path.absolute w.cwd p]) ∧
    (∀ e w' rest spec file, (resolve c record root path : StateM World _).run w = (.error e, w') →
      e = .includeFailed ("Includes nested deeper than " ++ rest) spec file →
      ∃ chain p tree, Reaches w c path root chain (some p) tree ∧ chain.length = maxDepth ∧
        sites tree ≠ [] ∧ file = some p) ∧
    (∀ p x, path = some p → ReflTransGen (Includes w c path root) (Path.absolute w.cwd p) x →
      TransGen (Includes w c path root) x x →
      ∀ t deps w', (resolve c record root path : StateM World _).run w ≠ (.ok (t, deps), w')) := by
  have hhost : Reaches w c path root [] path root := .host
  have htraced := traced_resolveTree record (maxDepth + 1) hhost
  rw [List.length_nil] at htraced
  have hraises : ∀ e w', (resolve c record root path : StateM World _).run w = (.error e, w') →
      Raises w c path root e := by
    intro e w' h
    obtain ⟨-, l, hrun⟩ := eval_of_resolve_error h
    rw [hrun] at htraced
    exact htraced.1 e rfl
  refine ⟨fun fuel hf => resolveTree_fuel c record fuel (maxDepth + 1) root path 0 [] (by omega)
      (by omega), fun chain p tree h => h.sound hcwd p rfl, ?_, hraises,
      fun e w' rest spec file h he => (hraises e w' h).cycle_message hcwd he,
      fun e w' rest spec file h he => (hraises e w' h).depth_message hcwd he, ?_⟩
  · intro t deps w' h T hT
    obtain ⟨-, hrun⟩ := eval_of_resolve_ok h
    rw [hrun] at htraced
    exact (htraced.2 T hT).not_mem hcwd
  · rintro p x rfl hreach hcycle t deps w' h
    refine not_scheduled_of_reaches_cycle hcwd (scheduled_of_resolve h).1 p rfl (fun a ha => ?_)
      (treeAt_host p) x hreach hcycle
    rw [Option.mem_some_iff] at ha
    subst ha
    exact List.mem_singleton_self _

/-- A book of one file, `a.mdx`, that includes itself. -/
def loopWorld : World :=
  { entries := [("/vfs", .directory), ("/vfs/a.mdx", .file "<include>a.mdx</include>".toUTF8)] }

theorem resolve_detects_cycles_loop :
    Path.isAbsolute loopWorld.cwd = true ∧
    commonmarkCompiler.parse "<include>a.mdx</include>" = .ok (directiveLine "a.mdx") ∧
    (resolve commonmarkCompiler true (directiveLine "a.mdx") (some "a.mdx") : StateM World _).run
        loopWorld =
      (.error (.includeFailed "Circular include: /vfs/a.mdx -> /vfs/a.mdx" (some "a.mdx")
        (some "/vfs/a.mdx")), loopWorld) ∧
    TransGen (Includes loopWorld commonmarkCompiler (some "a.mdx") (directiveLine "a.mdx"))
      "/vfs/a.mdx" "/vfs/a.mdx" ∧
    let w := loopWorld
    let c := commonmarkCompiler
    let record := true
    let root := directiveLine "a.mdx"
    let path : Option String := some "a.mdx"
    (∀ fuel, maxDepth < fuel →
      resolveTree (m := StateM World) c record fuel root path 0 [] =
        resolveTree c record (maxDepth + 1) root path 0 []) ∧
    (∀ chain p tree, Reaches w c path root chain (some p) tree →
      ChainSound w c path root chain p tree) ∧
    (∀ t deps w', (resolve c record root path : StateM World _).run w = (.ok (t, deps), w') →
      ∀ T ∈ deps, ∃ chain doc, Reaches w c path root chain (some T) doc ∧ chain ≠ [] ∧
        T ∉ chain) ∧
    (∀ e w', (resolve c record root path : StateM World _).run w = (.error e, w') →
      Raises w c path root e) ∧
    (∀ e w' rest spec file, (resolve c record root path : StateM World _).run w = (.error e, w') →
      e = .includeFailed ("Circular include: " ++ rest) spec file →
      ∃ chain p tree s xs, Reaches w c path root chain (some p) tree ∧ s ∈ sites tree ∧
        rest = " -> ".intercalate xs ∧ spec = some s.specifier ∧
        file = some (includedPath w.cwd p s.specifier) ∧ 2 ≤ xs.length ∧ xs.head? = file ∧
        xs.getLast? = file ∧ xs.dropLast.Nodup ∧ xs.IsChain (Includes w c path root) ∧
        xs.dropLast <:+ chain ++ [Path.absolute w.cwd p]) ∧
    (∀ e w' rest spec file, (resolve c record root path : StateM World _).run w = (.error e, w') →
      e = .includeFailed ("Includes nested deeper than " ++ rest) spec file →
      ∃ chain p tree, Reaches w c path root chain (some p) tree ∧ chain.length = maxDepth ∧
        sites tree ≠ [] ∧ file = some p) ∧
    (∀ p x, path = some p → ReflTransGen (Includes w c path root) (Path.absolute w.cwd p) x →
      TransGen (Includes w c path root) x x →
      ∀ t deps w', (resolve c record root path : StateM World _).run w ≠ (.ok (t, deps), w')) := by
  have hcwd : Path.isAbsolute loopWorld.cwd = true := by
    rw [Path.isAbsolute_iff]
    decide
  have hhost : Path.absolute loopWorld.cwd "a.mdx" = "/vfs/a.mdx" := by decide +kernel
  have hself : targetOf loopWorld.cwd (Path.dirname (Path.absolute loopWorld.cwd "a.mdx"))
      ⟨[0], "a.mdx"⟩ = "/vfs/a.mdx" := by decide +kernel
  have hparse : commonmarkCompiler.parse "<include>a.mdx</include>" =
      .ok (directiveLine "a.mdx") :=
    commonmarkCompiler_parse_directive (by decide) (by decide) (List.all_eq_true.1 rfl)
      (by decide)
  have hrun : (resolve commonmarkCompiler true (directiveLine "a.mdx") (some "a.mdx") :
      StateM World _).run loopWorld = (.error (.includeFailed
        "Circular include: /vfs/a.mdx -> /vfs/a.mdx" (some "a.mdx") (some "/vfs/a.mdx")),
        loopWorld) := by
    rw [resolve_run, show maxDepth + 1 = 64 + 1 from rfl,
      eval_resolveTree_cycle (sites_directiveLine "a.mdx") (by decide)
        (by rw [hself, hhost]; exact List.mem_singleton_self _),
      hself, hhost, cycleFailure_eq]
    rfl
  have hloop : TransGen (Includes loopWorld commonmarkCompiler (some "a.mdx")
      (directiveLine "a.mdx")) "/vfs/a.mdx" "/vfs/a.mdx" := by
    refine .single ⟨directiveLine "a.mdx", ?_, ⟨[0], "a.mdx"⟩, ?_, ?_⟩
    · rw [← hhost]
      exact treeAt_host "a.mdx"
    · rw [sites_directiveLine]
      exact List.mem_singleton_self _
    · decide +kernel
  exact ⟨hcwd, hparse, hrun, hloop,
    resolve_detects_cycles hcwd commonmarkCompiler true (directiveLine "a.mdx") (some "a.mdx")⟩

end Resolution

end Manuscript.Include
