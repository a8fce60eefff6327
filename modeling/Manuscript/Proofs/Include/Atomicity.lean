import Manuscript.Proofs.Include.Schedule
import Manuscript.Proofs.Compiler.Transform

/-!
# Failed resolutions change nothing

Resolving overwrites the directives of a level only once every load of the level has succeeded,
so a failure anywhere below leaves the host tree as it was. Here the tree is a value: a failed
resolution gives no tree at all and leaves the world as it is, no schedule of the concurrent
loads succeeds instead (`not_scheduled_of_resolve_error`), and processing the document fails
with the same error, producing no program, tree or diagnostics (`resolve_failure_atomic`).
-/

namespace Manuscript.Include

variable {c : Compiler} {record : Bool} {tree : Node} {path : Option String} {w w' : World}
  {e : Error}

/-- When resolving fails, no schedule of the concurrent loads succeeds. -/
theorem not_scheduled_of_resolve_error
    (h : (resolve c record tree path : StateM World _).run w = (.error e, w')) (t : Node)
    (log : List String) : ¬ Scheduled w c record path 0 [] tree t log := by
  intro hs
  obtain ⟨-, l, hrun⟩ := eval_of_resolve_error h
  obtain ⟨log', hrun', -⟩ := eval_of_scheduled hs (maxDepth + 1) (by omega)
  rw [hrun] at hrun'
  cases hrun'

/-- A failed resolution is atomic: it leaves the world as it is, no schedule of its loads
succeeds, and processing the document fails with the same error. -/
theorem resolve_failure_atomic
    (h : (resolve c record tree path : StateM World _).run w = (.error e, w')) :
    w' = w ∧ (∀ t log, ¬ Scheduled w c record path 0 [] tree t log) ∧
      ∀ file : SourceFile, file.path = path → c.parse file.value = .ok tree →
        Transform.include ∈ c.transforms →
          (c.process file record : StateM World _).run w = (.error e, w) := by
  obtain ⟨rfl, -⟩ := eval_of_resolve_error h
  refine ⟨rfl, not_scheduled_of_resolve_error h, fun file hpath hparse hinc => ?_⟩
  refine Compiler.process_of_transform_error hparse ?_
  rw [Compiler.transform_run, if_pos hinc, hpath, h]

theorem resolve_failure_atomic_orphan :
    let orphan : Node := { kind := .flowElement, name := some "include"
                           children := [{ kind := .text, value := some "a.mdx" }] }
    (resolve default true orphan none : StateM World _).run {} =
        (.error (noPathFailure ⟨[], "a.mdx"⟩), {}) ∧
      ({} : World) = {} ∧ (∀ t log, ¬ Scheduled {} default true none 0 [] orphan t log) ∧
      ∀ file : SourceFile, file.path = none → (default : Compiler).parse file.value = .ok orphan →
        Transform.include ∈ (default : Compiler).transforms →
          ((default : Compiler).process file true : StateM World _).run {} =
            (.error (noPathFailure ⟨[], "a.mdx"⟩), {}) := by
  intro orphan
  have hs : sites orphan = [⟨[], "a.mdx"⟩] := by
    rw [sites_of_directive (by decide)]
    rfl
  have h : (resolve default true orphan none : StateM World _).run {} =
      (.error (noPathFailure ⟨[], "a.mdx"⟩), {}) := by
    rw [resolve_run, eval_resolveTree_noPath hs]
    rfl
  exact ⟨h, resolve_failure_atomic h⟩

end Manuscript.Include
