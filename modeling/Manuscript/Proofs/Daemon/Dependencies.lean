import Manuscript.Proofs.Include.Schedule
import Manuscript.Proofs.Compiler.Transform
import Manuscript.Daemon.Service

/-!
# The files a build depends on

The build service looks up or builds a compiler, processes the document with it while recording
the files that includes read, and reports those files once each, in the order they were first
read. Building a compiler from given settings reads nothing (`CompilerCache.getOrBuild_pure`),
so a build that succeeds processed the document on the world as it was
(`buildDocument_run_ok`, `runBuild_run_ok`), and the files it reports are, once each, the files
of the expansion of the document (`runBuild_dependencies`).
-/

namespace Manuscript

/-- Dropping repeated entries leaves each once. -/
theorem nodup_eraseDups {α : Type} [BEq α] [LawfulBEq α] : ∀ l : List α, l.eraseDups.Nodup
  | [] => List.nodup_nil
  | a :: l => by
    rw [List.eraseDups_cons]
    refine List.nodup_cons.2 ⟨?_, nodup_eraseDups _⟩
    simp [List.mem_eraseDups, List.mem_filter]
termination_by l => l.length
decreasing_by exact Nat.lt_succ_of_le (List.length_filter_le _ _)

/-- A lookup whose build is pure is pure. -/
theorem CompilerCache.getOrBuild_pure {m : Type → Type} [Monad m] [LawfulMonad m]
    (cache : CompilerCache) (group format hash : String)
    (b : Except Error Compiler) :
    ∃ r, cache.getOrBuild group format hash (pure b : m _) = pure r := by
  unfold CompilerCache.getOrBuild
  split
  · split
    · exact ⟨_, rfl⟩
    · cases b <;> simp only [pure_bind] <;> exact ⟨_, rfl⟩
  · cases b <;> simp only [pure_bind] <;> exact ⟨_, rfl⟩

/-- A build from given settings that succeeds processed the document, with the compiler it
looked up or built, on the world as it was, and left the world as it is. -/
theorem buildDocument_run_ok {cache cache' : CompilerCache} {group hash source : String}
    {o : BuildOptions} {settings : Settings} {record : Bool} {compiled : Compiled} {w w' : World}
    (h : (buildDocument cache group hash source o (some settings) record : StateM World _).run w =
      ((.ok compiled, cache'), w')) :
    w' = w ∧ ∃ compiler : Compiler,
      (compiler.process { value := source, path := o.filePath, data := o.documentData } record :
        StateM World _).run w = (.ok compiled, w) := by
  unfold buildDocument at h
  simp only [pure_bind] at h
  obtain ⟨r, hr⟩ := cache.getOrBuild_pure (m := StateM World) group o.resolvedFormat.name hash
    (Compiler.build (o.compilerOptions o.resolvedFormat settings.isDevelopment))
  rw [hr, pure_bind] at h
  rcases r with e | ⟨compiler, cache''⟩
  · cases h
  · obtain ⟨R, hR⟩ := Compiler.process_run compiler
      { value := source, path := o.filePath, data := o.documentData } record w
    rw [StateT.run_bind, hR] at h
    cases h
    exact ⟨rfl, compiler, hR⟩

namespace Daemon

variable {cache cache' : CompilerCache} {settings : Settings} {o : BuildOptions}
  {group collection given : Option String} {fields : CompilerFields} {source : String}
  {out : Outcome} {w w' : World}

/-- A build through the service that succeeds processed the document, recording what includes
read, and reports those files once each. -/
theorem runBuild_run_ok
    (h : (runBuild cache settings o group collection given fields source : StateM World _).run w =
      ((.ok out, cache'), w')) :
    w' = w ∧ out.dependencies = out.compiled.deps.eraseDups ∧ ∃ compiler : Compiler,
      (compiler.process { value := source, path := o.filePath, data := o.documentData } true :
        StateM World _).run w = (.ok out.compiled, w) := by
  unfold runBuild at h
  dsimp only at h
  split at h
  · cases h
  · next hash _ =>
    rw [StateT.run_bind] at h
    rcases hb : (buildDocument cache (groupOf settings group collection) hash source o
      (some settings) true : StateM World _).run w with ⟨⟨r, cache''⟩, w''⟩
    rw [hb] at h
    rcases r with e | compiled
    · cases h
    · cases h
      obtain ⟨rfl, compiler, hp⟩ := buildDocument_run_ok hb
      exact ⟨rfl, rfl, compiler, hp⟩

/-- A build through the service that succeeds reports each file of the expansion of the
document once, and nothing else. -/
theorem runBuild_dependencies
    (h : (runBuild cache settings o group collection given fields source : StateM World _).run w =
      ((.ok out, cache'), w')) :
    out.dependencies.Nodup ∧ ∃ (c : Compiler) (tree : Node) (ts : List String),
      c.parse source = .ok tree ∧
      (if Transform.include ∈ c.transforms then
        Include.Expanded w c o.filePath tree out.compiled.tree ts
      else out.compiled.tree = tree ∧ ts = []) ∧
      ∀ p, p ∈ out.dependencies ↔ p ∈ ts := by
  obtain ⟨-, hdeps, c, hp⟩ := runBuild_run_ok h
  obtain ⟨-, tree, ts, hparse, hx, hts⟩ := Compiler.process_expands hp
  refine ⟨hdeps ▸ nodup_eraseDups _, c, tree, ts, hparse, hx, fun p => ?_⟩
  rw [hdeps, List.mem_eraseDups, hts, if_pos rfl]

end Daemon

open Include in
/-- Resolving includes does not depend on the schedule of its loads, and reports each included
file once per directive expanded. -/
theorem includes_schedule_independent :
    (∀ (c : Compiler) (record : Bool) (tree : Node) (path : Option String) (w w' : World)
        (t : Node) (deps : List String),
      (resolve c record tree path : StateM World _).run w = (.ok (t, deps), w') →
      Scheduled w c record path 0 [] tree t deps ∧
      (∀ t' log, Scheduled w c record path 0 [] tree t' log → t' = t ∧ log.Perm deps) ∧
      ∃ ts, Expanded w c path tree t ts ∧ deps = if record then ts else []) ∧
    (∀ (cache cache' : CompilerCache) (settings : Settings) (o : BuildOptions)
        (group collection given : Option String) (fields : Daemon.CompilerFields)
        (source : String) (out : Daemon.Outcome) (w w' : World),
      (Daemon.runBuild cache settings o group collection given fields source :
        StateM World _).run w = ((.ok out, cache'), w') →
      out.dependencies.Nodup ∧ ∃ (c : Compiler) (tree : Node) (ts : List String),
        c.parse source = .ok tree ∧
        (if Transform.include ∈ c.transforms then Expanded w c o.filePath tree out.compiled.tree ts
        else out.compiled.tree = tree ∧ ts = []) ∧
        ∀ p, p ∈ out.dependencies ↔ p ∈ ts) :=
  ⟨fun _ _ _ _ _ _ _ _ h => ⟨(scheduled_of_resolve h).1, (scheduled_of_resolve h).2,
      (expanded_of_resolve h).2⟩,
    fun _ _ _ _ _ _ _ _ _ _ _ _ h => Daemon.runBuild_dependencies h⟩

open Include in
theorem includes_schedule_independent_book :
    ∃ t, (resolve commonmarkCompiler true (directiveLine "sub/b.mdx") (some "a.mdx") :
        StateM World _).run bookWorld = (.ok (t, ["/vfs/sub/b.mdx", "/vfs/sub/c.mdx"]), bookWorld) ∧
      Scheduled bookWorld commonmarkCompiler true (some "a.mdx") 0 [] (directiveLine "sub/b.mdx") t
        ["/vfs/sub/b.mdx", "/vfs/sub/c.mdx"] ∧
      (∀ t' log, Scheduled bookWorld commonmarkCompiler true (some "a.mdx") 0 []
          (directiveLine "sub/b.mdx") t' log →
        t' = t ∧ log.Perm ["/vfs/sub/b.mdx", "/vfs/sub/c.mdx"]) ∧
      ∃ ts, Expanded bookWorld commonmarkCompiler (some "a.mdx") (directiveLine "sub/b.mdx") t ts ∧
        ["/vfs/sub/b.mdx", "/vfs/sub/c.mdx"] = if true then ts else [] :=
  ⟨_, resolve_book, includes_schedule_independent.1 _ _ _ _ _ _ _ _ resolve_book⟩

end Manuscript
