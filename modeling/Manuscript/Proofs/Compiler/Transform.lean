import Manuscript.Proofs.Include.Expansion
import Manuscript.Compiler.Process

/-!
# Processing a document through its transforms

A compiler runs its transforms in order. After a failure nothing runs
(`foldlM_transformStep_error`), and once the tree has no directives an include transform finds
nothing to do (`foldlM_transformStep_done`). So the transforms of a compiler do what its first
include transform does, or leave the parsed tree as it is when there is none
(`transform_run`), and processing fails with their failure (`process_of_transform_error`) or
succeeds with the expansion of the parsed tree (`process_expands`), leaving the world as it is.
-/

namespace Manuscript.Compiler

open Include

section Generic

variable {m : Type → Type} [Monad m] [LawfulMonad m] [Host m] {c : Compiler} {record : Bool}
  {file : SourceFile}

/-- After a failure the transforms change nothing. -/
theorem foldlM_transformStep_error (e : Error) : ∀ ts : List Transform,
    ts.foldlM (transformStep (m := m) c file record) (.error e) = pure (.error e)
  | [] => rfl
  | t :: ts => by
    rw [List.foldlM_cons]
    cases t <;> simp only [transformStep, pure_bind, foldlM_transformStep_error e ts]

/-- Once the tree has no directives the transforms change nothing. -/
theorem foldlM_transformStep_done {tree : Node} (h : sites tree = []) (deps : List String) :
    ∀ ts : List Transform,
      ts.foldlM (transformStep (m := m) c file record) (.ok (tree, deps)) = pure (.ok (tree, deps))
  | [] => rfl
  | t :: ts => by
    rw [List.foldlM_cons]
    cases t
    · simp only [transformStep, resolve_of_sites_eq_nil c record h, pure_bind, List.append_nil,
        foldlM_transformStep_done h deps ts]
    · simp only [transformStep, pure_bind, foldlM_transformStep_done h deps ts]

end Generic

variable {c : Compiler} {record : Bool} {file : SourceFile} {w : World}

/-- From a tree, the transforms do what their first include transform does, and leave the tree
as it is when there is none. -/
theorem foldlM_transformStep_run (tree : Node) :
    ∀ (ts : List Transform) (deps : List String),
      (ts.foldlM (transformStep c file record) (.ok (tree, deps)) : StateM World _).run w =
        (if Transform.include ∈ ts then
          ((resolve c record tree file.path : StateM World _).run w).1.map
            fun r => (r.1, deps ++ r.2)
        else .ok (tree, deps), w)
  | [], deps => rfl
  | .nothing :: ts, deps => by
    rw [List.foldlM_cons]
    simp only [transformStep, pure_bind, foldlM_transformStep_run tree ts deps]
    simp
  | .include :: ts, deps => by
    obtain ⟨R, hR⟩ : ∃ R, (resolve c record tree file.path : StateM World _).run w = (R, w) :=
      ⟨_, resolve_run c record tree file.path w⟩
    rw [List.foldlM_cons, if_pos List.mem_cons_self, hR]
    simp only [transformStep, StateT.run_bind, hR]
    rcases R with e | ⟨t, more⟩
    · change (ts.foldlM (transformStep c file record) (.error e) : StateM World _).run w = _
      rw [foldlM_transformStep_error]
      rfl
    · -- what resolving gives has no directives left for the transforms after it
      obtain ⟨-, ts', hx, -⟩ := expanded_of_resolve hR
      change (ts.foldlM (transformStep c file record) (.ok (t, deps ++ more)) :
        StateM World _).run w = _
      rw [foldlM_transformStep_done hx.sites_eq_nil]
      rfl

theorem transform_run (tree : Node) :
    (c.transform tree file record : StateM World _).run w =
      (if Transform.include ∈ c.transforms then
        ((resolve c record tree file.path : StateM World _).run w).1
      else .ok (tree, []), w) := by
  rw [transform, foldlM_transformStep_run]
  split
  · rcases ((resolve c record tree file.path : StateM World _).run w).1 with e | ⟨t, more⟩ <;> rfl
  · rfl

/-- Processing leaves the world as it is. -/
theorem process_run (c : Compiler) (file : SourceFile) (record : Bool) (w : World) :
    ∃ r, (c.process file record : StateM World _).run w = (r, w) := by
  unfold process
  split
  · exact ⟨_, rfl⟩
  · next tree _ =>
    obtain ⟨R, hR⟩ : ∃ R, (c.transform tree file record : StateM World _).run w = (R, w) :=
      ⟨_, transform_run tree⟩
    rw [StateT.run_bind, hR]
    rcases R with e | ⟨t, deps⟩ <;> exact ⟨_, rfl⟩

/-- Processing that fails in the transforms fails with their failure and leaves the world as it
is: no program, tree or diagnostics come out of it. -/
theorem process_of_transform_error {tree : Node} {e : Error}
    (hparse : c.parse file.value = .ok tree)
    (h : (c.transform tree file record : StateM World _).run w = (.error e, w)) :
    (c.process file record : StateM World _).run w = (.error e, w) := by
  unfold process
  rw [hparse]
  simp only
  rw [StateT.run_bind, h]
  rfl

/-- Processing that succeeds parsed the document and ran the transforms on it. -/
theorem process_run_ok {compiled : Compiled} {w' : World}
    (h : (c.process file record : StateM World _).run w = (.ok compiled, w')) :
    w' = w ∧ ∃ tree, c.parse file.value = .ok tree ∧
      (c.transform tree file record : StateM World _).run w =
        (.ok (compiled.tree, compiled.deps), w) := by
  unfold process at h
  split at h
  · cases h
  · next tree htree =>
    obtain ⟨R, hR⟩ : ∃ R, (c.transform tree file record : StateM World _).run w = (R, w) :=
      ⟨_, transform_run tree⟩
    rw [StateT.run_bind, hR] at h
    rcases R with e | ⟨t, deps⟩
    · cases h
    · change (Except.map _ _, w) = (Except.ok compiled, w') at h
      obtain ⟨hmap, rfl⟩ := Prod.mk.inj h
      simp only [Except.map] at hmap
      split at hmap
      · cases hmap
      · cases hmap
        exact ⟨rfl, tree, htree, hR⟩

/-- Processing that succeeds gives the expansion of the parsed document when the compiler has an
include transform, and the parsed document otherwise; it reports the files of the expansion when
recording. -/
theorem process_expands {compiled : Compiled} {w' : World}
    (h : (c.process file record : StateM World _).run w = (.ok compiled, w')) :
    w' = w ∧ ∃ tree ts, c.parse file.value = .ok tree ∧
      (if Transform.include ∈ c.transforms then Expanded w c file.path tree compiled.tree ts
        else compiled.tree = tree ∧ ts = []) ∧
      compiled.deps = if record then ts else [] := by
  obtain ⟨rfl, tree, hparse, hrun⟩ := process_run_ok h
  refine ⟨rfl, ?_⟩
  rw [transform_run] at hrun
  split at hrun
  · next hinc =>
    obtain ⟨R, hR⟩ : ∃ R, (resolve c record tree file.path : StateM World _).run w' = (R, w') :=
      ⟨_, resolve_run c record tree file.path w'⟩
    rw [hR] at hrun
    cases hrun
    obtain ⟨-, ts, hx, hdeps⟩ := expanded_of_resolve hR
    exact ⟨tree, ts, hparse, by rwa [if_pos hinc], hdeps⟩
  · next hinc =>
    obtain ⟨htree, hdeps⟩ := Prod.mk.inj (Except.ok.inj (Prod.mk.inj hrun).1)
    refine ⟨tree, [], hparse, by rw [if_neg hinc]; exact ⟨htree.symm, rfl⟩, ?_⟩
    rw [← hdeps]
    cases record <;> rfl

end Manuscript.Compiler
