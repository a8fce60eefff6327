import Manuscript.Proofs.Include.Run
import Manuscript.Proofs.Include.Specifier
import Mathlib.Data.List.Basic
import Mathlib.Tactic.Choose

/-!
# The expansion of a document

`Expanded w c path tree result targets` says what resolving the directives of `tree`, the
document at `path`, gives on the world `w`. A directive naming `q` becomes the expansion of the
document at `includedPath w.cwd path q`: that file's text without its front matter, parsed by
`c`, marked with the file's lines, and expanded in turn relative to its own path. `targets`
lists the files of the expanded directives in document order, each before the files that its
own expansion includes.

The relation is a function (`Expanded.unique`), and an expansion holds no directive
(`Expanded.sites_eq_nil`). When resolving succeeds it gives the expansion, and records its
targets when asked to (`expanded_of_eval_resolveTree`); resolving a tree without directives
gives it back and records nothing, under any path and with any compiler
(`resolve_of_sites_eq_nil`). On `bookWorld`, a chapter that includes its neighbour, resolving a
directive to the chapter runs both includes and records both files (`resolve_book`).
-/

namespace Manuscript.Include

/-- The file a directive naming `spec` stands for in the document at `path`, on a host whose
working directory is `cwd`: the specifier joined to the directory of the document, made absolute
and normal. -/
def includedPath (cwd path spec : String) : String :=
  Path.absolute cwd (Path.join (Path.dirname (Path.absolute cwd path)) spec)

/-- `Expanded w c path tree result targets`: on the world `w`, expanding the directives of
`tree`, the document at `path`, with the parser of `c`, gives `result`; `targets` lists the
files of the expanded directives in document order, each before the files it includes. -/
inductive Expanded (w : World) (c : Compiler) : Option String → Node → Node → List String → Prop
  /-- A tree without directives is its own expansion, with or without a path. -/
  | plain {path : Option String} {tree : Node} :
      sites tree = [] → Expanded w c path tree tree []
  /-- A tree with directives has a path, and each directive naming `q` becomes the expansion
  `f q` of the document `d q` at `includedPath w.cwd p q`, whose files are `g q`. -/
  | expand {p : String} {tree : Node} (d f : String → Node) (g : String → List String) :
      sites tree ≠ [] →
      (∀ q ∈ specifiers tree, document w c (includedPath w.cwd p q) = some (d q)) →
      (∀ q ∈ specifiers tree, Expanded w c (some (includedPath w.cwd p q)) (d q) (f q) (g q)) →
      Expanded w c (some p) tree (substitute f tree)
        ((specifiers tree).flatMap fun q => includedPath w.cwd p q :: g q)

namespace Expanded

variable {w : World} {c : Compiler} {path : Option String} {tree t t' : Node}
  {ts ts' : List String}

/-- An expansion holds no directive. -/
theorem sites_eq_nil (h : Expanded w c path tree t ts) : sites t = [] := by
  induction h with
  | plain hs => exact hs
  | expand d f g _ _ _ ih => exact sites_substitute f _ ih

/-- A tree has at most one expansion, with one list of targets. -/
theorem unique (h : Expanded w c path tree t ts) (h' : Expanded w c path tree t' ts') :
    t = t' ∧ ts = ts' := by
  induction h generalizing t' ts' with
  | plain hs =>
    cases h' with
    | plain _ => exact ⟨rfl, rfl⟩
    | expand _ _ _ hne _ _ => exact absurd hs hne
  | expand d f g hne hd _ ih =>
    cases h' with
    | plain hs => exact absurd hs hne
    | expand d' f' g' _ hd' hsub' =>
      -- each directive names the same document, so by induction it has the same expansion
      have agree : ∀ q ∈ specifiers _, f q = f' q ∧ g q = g' q := fun q hq => by
        have hdoc : d q = d' q := Option.some.inj ((hd q hq).symm.trans (hd' q hq))
        exact ih q hq (hdoc ▸ hsub' q hq)
      refine ⟨substitute_congr f _ fun q hq => (agree q hq).1, ?_⟩
      exact List.flatMap_congr fun q hq => by rw [(agree q hq).2]

end Expanded

/-! ## Resolving gives the expansion -/

section Resolve

variable {c : Compiler} {record : Bool} {w : World}

/-- One level of expanding: when the directives of a tree each resolved the document they name
to its expansion, splicing those resolutions expands the tree, and the records of the directives,
one after the other, are its targets when recording. -/
theorem expanded_of_sites {p : String} {tree : Node} {d r : Site → Node} {l : Site → List String}
    (hne : sites tree ≠ [])
    (hdoc : ∀ s ∈ sites tree, document w c (includedPath w.cwd p s.specifier) = some (d s))
    (hsub : ∀ s ∈ sites tree, ∃ ts, Expanded w c (some (includedPath w.cwd p s.specifier)) (d s)
      (r s) ts ∧ l s = if record then ts else []) :
    ∃ ts, Expanded w c (some p) tree (replaceAll tree ((sites tree).map fun s => (s, r s))) ts ∧
      ((sites tree).map fun s =>
        (if record then [includedPath w.cwd p s.specifier] else []) ++ l s).flatten =
        if record then ts else [] := by
  have pick : ∀ q, ∃ s ts, q ∈ specifiers tree → s ∈ sites tree ∧ s.specifier = q ∧
      Expanded w c (some (includedPath w.cwd p q)) (d s) (r s) ts ∧
      l s = if record then ts else [] := by
    intro q
    by_cases hq : q ∈ specifiers tree
    · obtain ⟨s, hs, rfl⟩ := List.mem_map.1 hq
      obtain ⟨ts, hx, hl⟩ := hsub s hs
      exact ⟨s, ts, fun _ => ⟨hs, rfl, hx, hl⟩⟩
    · exact ⟨default, [], fun h => absurd h hq⟩
  choose site g hpick using pick
  have agree : ∀ s ∈ sites tree, r s = r (site s.specifier) ∧
      l s = if record then g s.specifier else [] := by
    intro s hs
    obtain ⟨hs', hq, hx', hl'⟩ := hpick s.specifier (List.mem_map_of_mem hs)
    obtain ⟨ts, hx, hl⟩ := hsub s hs
    have hdoc' := hdoc _ hs'
    rw [hq] at hdoc'
    have hd : d s = d (site s.specifier) := Option.some.inj ((hdoc s hs).symm.trans hdoc')
    rw [hd] at hx
    obtain ⟨hr, rfl⟩ := hx.unique hx'
    exact ⟨hr, hl⟩
  refine ⟨(specifiers tree).flatMap fun q => includedPath w.cwd p q :: g q, ?_, ?_⟩
  · rw [List.map_congr_left fun s hs => by rw [(agree s hs).1],
      replaceAll_sites (fun q => r (site q))]
    refine .expand (fun q => d (site q)) (fun q => r (site q)) g hne (fun q hq => ?_)
      fun q hq => (hpick q hq).2.2.1
    obtain ⟨hs, hq', -⟩ := hpick q hq
    have hdoc' := hdoc _ hs
    rwa [hq'] at hdoc'
  · rw [List.map_congr_left fun s hs => by rw [(agree s hs).2]]
    cases record
    · simp
    · simp [specifiers, List.flatMap_def, Function.comp_def]

/-- Resolving with fuel past the depth left gives, when it succeeds, the expansion of the tree,
and records the files of the expansion when asked to and nothing otherwise. -/
theorem expanded_of_eval_resolveTree :
    ∀ (fuel : Nat) (tree : Node) (path : Option String) (depth : Nat) (chain : List String)
      {t : Node} {log : List String}, maxDepth - depth < fuel →
      eval (resolveTree c record fuel tree path depth chain) w = (.ok t, log) →
      ∃ ts, Expanded w c path tree t ts ∧ log = if record then ts else []
  | 0, _, _, _, _, _, _, hf, _ => absurd hf (Nat.not_lt_zero _)
  | fuel + 1, tree, path, depth, chain, t, log, hf, h => by
    rcases eval_resolveTree_eq_ok h with
      ⟨hs, rfl, rfl⟩ | ⟨p, rfl, hne, hd, d, r, l, hsite, rfl, rfl⟩
    · exact ⟨[], .plain hs, by cases record <;> rfl⟩
    obtain ⟨ts, hx, hl⟩ := expanded_of_sites hne (fun s hs => (hsite s hs).2.1)
      fun s hs => expanded_of_eval_resolveTree fuel _ _ _ _ (by omega) (hsite s hs).2.2
    exact ⟨ts, hx, hl⟩

end Resolve

/-! ## Resolving an expansion -/

section Again

variable {m : Type → Type} [Monad m] [Host m]

theorem resolveTree_of_sites_eq_nil (c : Compiler) (record : Bool) {tree : Node}
    (h : sites tree = []) (fuel : Nat) (path : Option String) (depth : Nat)
    (chain : List String) :
    resolveTree (m := m) c record fuel tree path depth chain = pure tree := by
  cases fuel with
  | zero => rfl
  | succ fuel =>
    rw [resolveTree]
    split
    · rfl
    · simp_all

/-- A tree without directives resolves to itself and records nothing, under any path. -/
theorem resolve_of_sites_eq_nil [LawfulMonad m] (c : Compiler) (record : Bool) {tree : Node}
    (h : sites tree = []) (path : Option String) :
    resolve (m := m) c record tree path = pure (.ok (tree, [])) := by
  unfold resolve
  rw [resolveTree_of_sites_eq_nil c record h]
  simp [Except.map]

end Again

/-- When resolving succeeds on a world, it leaves the world as it is, gives the expansion of the
tree, and records the files of the expansion when asked to and nothing otherwise. -/
theorem expanded_of_resolve {c : Compiler} {record : Bool} {tree t : Node}
    {path : Option String} {w w' : World} {deps : List String}
    (h : (resolve c record tree path : StateM World _).run w = (.ok (t, deps), w')) :
    w' = w ∧ ∃ ts, Expanded w c path tree t ts ∧ deps = if record then ts else [] := by
  obtain ⟨rfl, hrun⟩ := eval_of_resolve_ok h
  exact ⟨rfl, expanded_of_eval_resolveTree _ _ _ _ _ (by omega) hrun⟩

/-! ## A book -/

/-- A compiler that reads MDX in the CommonMark dialect, with front matter in YAML. -/
def commonmarkCompiler : Compiler :=
  { (default : Compiler) with
    reader := ⟨(Markdown.Dialect.ofPreset .commonmark).markup, true⟩, yaml := Yaml.load }

/-- The compiler reads a directive naming a path of inert characters without braces as the root
holding that one directive. -/
theorem commonmarkCompiler_parse_directive {path text : String}
    (htext : "<include>" ++ path ++ "</include>" = text) (hne : path ≠ "")
    (hinert : ∀ c ∈ path.toList, Markdown.isInert c = true) (hbrace : '{' ∉ path.toList) :
    commonmarkCompiler.parse text = .ok (directiveLine path) := by
  subst htext
  exact Document.Reader.parse_directive_line
    (fun c hc => ⟨(isInert_plain (hinert c hc)).1, (isInert_plain (hinert c hc)).2.1⟩) hbrace
    (commonmark_reads_inert_directive hne hinert)

/-- A book whose chapter `sub/b.mdx` includes its neighbour `c.mdx`, an empty file. -/
def bookWorld : World :=
  { entries := [("/vfs", .directory), ("/vfs/sub", .directory),
      ("/vfs/sub/b.mdx", .file "<include>c.mdx</include>".toUTF8),
      ("/vfs/sub/c.mdx", .file "".toUTF8)] }

/-- A document at `a.mdx` whose one directive names the chapter resolves to the chapter, whose
own directive is resolved against the chapter's directory; both files are recorded. -/
theorem resolve_book :
    (resolve commonmarkCompiler true (directiveLine "sub/b.mdx") (some "a.mdx") :
        StateM World _).run bookWorld =
      (.ok (replaceAll (directiveLine "sub/b.mdx")
          [(⟨[0], "sub/b.mdx"⟩, replaceAll (markSource (directiveLine "c.mdx") "/vfs/sub/b.mdx" 0)
            [(⟨[0], "c.mdx"⟩,
              markSource { kind := .root, position := some ⟨1, 1, none⟩ } "/vfs/sub/c.mdx" 0)])],
        ["/vfs/sub/b.mdx", "/vfs/sub/c.mdx"]), bookWorld) := by
  have htextB : bookWorld.text "/vfs/sub/b.mdx" = .ok "<include>c.mdx</include>" := by
    have hr : bookWorld.resolve "/vfs/sub/b.mdx" = "/vfs/sub/b.mdx" := by decide +kernel
    rw [World.text_of_file (b := "<include>c.mdx</include>".toUTF8)
      (s := "<include>c.mdx</include>") (by simp) (by rw [hr]; decide +kernel)
      (by rw [hr]; simp [World.find?, bookWorld]) (Except.eq_ok_iff_toOption.2 (by decide +kernel))]
    exact congrArg Except.ok (by decide +kernel)
  have htextC : bookWorld.text "/vfs/sub/c.mdx" = .ok "" := by
    have hr : bookWorld.resolve "/vfs/sub/c.mdx" = "/vfs/sub/c.mdx" := by decide +kernel
    rw [World.text_of_file (b := "".toUTF8) (s := "") (by simp) (by rw [hr]; decide +kernel)
      (by rw [hr]; simp [World.find?, bookWorld]) (Except.eq_ok_iff_toOption.2 (by decide +kernel))]
    rfl
  have hparseB : commonmarkCompiler.parse "<include>c.mdx</include>" =
      .ok (directiveLine "c.mdx") :=
    commonmarkCompiler_parse_directive (by decide) (by decide) (List.all_eq_true.1 rfl)
      (by decide)
  have hparseC : commonmarkCompiler.parse "" =
      .ok { kind := .root, position := some ⟨1, 1, none⟩ } :=
    Document.Reader.parse_of_blocks_nil (List.isEmpty_iff.1 (by decide +kernel))
  have hdocB : document bookWorld commonmarkCompiler "/vfs/sub/b.mdx" =
      some (markSource (directiveLine "c.mdx") "/vfs/sub/b.mdx" 0) :=
    document_of_content htextB (by decide +kernel) hparseB
  have hdocC : document bookWorld commonmarkCompiler "/vfs/sub/c.mdx" =
      some (markSource { kind := .root, position := some ⟨1, 1, none⟩ } "/vfs/sub/c.mdx" 0) :=
    document_of_content htextC (by decide +kernel) hparseC
  have hsitesC : sites (markSource { kind := .root, position := some ⟨1, 1, none⟩ }
      "/vfs/sub/c.mdx" 0) = [] := by
    rw [markSource, sites_mapPositions, sites_of_not_directive (by decide)]
    rfl
  have hsitesB : sites (markSource (directiveLine "c.mdx") "/vfs/sub/b.mdx" 0) =
      [⟨[0], "c.mdx"⟩] := by
    rw [markSource, sites_mapPositions, sites_directiveLine]
  have hhost : Path.absolute bookWorld.cwd "a.mdx" = "/vfs/a.mdx" := by decide +kernel
  have hchapter : Path.absolute bookWorld.cwd "/vfs/sub/b.mdx" = "/vfs/sub/b.mdx" := by
    decide +kernel
  have htargetB : targetOf bookWorld.cwd (Path.dirname "/vfs/a.mdx") ⟨[0], "sub/b.mdx"⟩ =
      "/vfs/sub/b.mdx" := by decide +kernel
  have htargetC : targetOf bookWorld.cwd (Path.dirname "/vfs/sub/b.mdx") ⟨[0], "c.mdx"⟩ =
      "/vfs/sub/c.mdx" := by decide +kernel
  -- the neighbour, two levels down, has nothing to expand; the chapter and the host one each
  have hleaf := @eval_resolveTree_plain commonmarkCompiler true bookWorld 62 _
    (some "/vfs/sub/c.mdx") 2 (([] ++ ["/vfs/a.mdx"]) ++ ["/vfs/sub/b.mdx"]) hsitesC
  have hmid := eval_resolveTree_single hsitesB (by decide) hchapter htargetC (by decide) hdocC
    hleaf
  have htop := eval_resolveTree_single (sites_directiveLine "sub/b.mdx") (by decide) hhost
    htargetB (by decide) hdocB hmid
  rw [resolve_run, show maxDepth + 1 = 64 + 1 from rfl, htop]
  rfl

/-- Resolving gives the expansion. When resolving the directives of a tree succeeds on a world,
the tree it gives is the one expansion of the tree, it holds no directive, and resolving it
again, under any path, with any compiler and on any host, gives it back and records nothing. -/
theorem resolve_expands {c : Compiler} {record : Bool} {tree : Node} {path : Option String}
    {w w' : World} {t : Node} {deps : List String}
    (h : (resolve c record tree path : StateM World _).run w = (.ok (t, deps), w')) :
    (∃ ts, Expanded w c path tree t ts) ∧ (∀ t' ts', Expanded w c path tree t' ts' → t' = t) ∧
      sites t = [] ∧
      ∀ (m : Type → Type) [Monad m] [LawfulMonad m] [Host m] (c' : Compiler) (record' : Bool)
        (path' : Option String), resolve (m := m) c' record' t path' = pure (.ok (t, [])) := by
  obtain ⟨-, ts, hx, -⟩ := expanded_of_resolve h
  have hnil := hx.sites_eq_nil
  exact ⟨⟨ts, hx⟩, fun t' ts' hx' => (hx'.unique hx).1, hnil,
    fun m _ _ _ c' record' path' => resolve_of_sites_eq_nil c' record' hnil path'⟩

theorem resolve_expands_book :
    ∃ t, (resolve commonmarkCompiler true (directiveLine "sub/b.mdx") (some "a.mdx") :
        StateM World _).run bookWorld =
        (.ok (t, ["/vfs/sub/b.mdx", "/vfs/sub/c.mdx"]), bookWorld) ∧
      (∃ ts, Expanded bookWorld commonmarkCompiler (some "a.mdx") (directiveLine "sub/b.mdx") t ts) ∧
      (∀ t' ts', Expanded bookWorld commonmarkCompiler (some "a.mdx") (directiveLine "sub/b.mdx")
        t' ts' → t' = t) ∧ sites t = [] ∧
      ∀ (m : Type → Type) [Monad m] [LawfulMonad m] [Host m] (c' : Compiler) (record' : Bool)
        (path' : Option String), resolve (m := m) c' record' t path' = pure (.ok (t, [])) :=
  ⟨_, resolve_book, resolve_expands resolve_book⟩

end Manuscript.Include
