import Manuscript.Proofs.Include.Expansion
import Mathlib.Data.List.Perm.Basic

/-!
# Resolving under any schedule

The directives of one document are loaded concurrently. Each load reads its file, records it,
and resolves the directives of what it read, and the loads of one level may take turns at every
read. `Scheduled` is what such a run can give when it succeeds: every directive of a level is
loaded on its own, each load records its file before what its own resolution records, the record
of a level is any interleaving (`Shuffles`) of the records of its loads, and the directives are
overwritten once every load has finished.

Resolving in document order is one schedule (`scheduled_of_eval_resolveTree`), and every
schedule succeeds with the tree it gives and records the same files, perhaps in another order
(`eval_of_scheduled`).
-/

namespace Manuscript.Include

/-- `Shuffle l r m`: `m` interleaves `l` and `r`, keeping the order of each. -/
inductive Shuffle {α : Type} : List α → List α → List α → Prop
  | nil : Shuffle [] [] []
  | left {x : α} {l r m : List α} : Shuffle l r m → Shuffle (x :: l) r (x :: m)
  | right {x : α} {l r m : List α} : Shuffle l r m → Shuffle l (x :: r) (x :: m)

/-- `Shuffles ls m`: `m` interleaves all the lists `ls`, keeping the order of each. -/
inductive Shuffles {α : Type} : List (List α) → List α → Prop
  | nil : Shuffles [] []
  | cons {l m m' : List α} {ls : List (List α)} :
      Shuffles ls m → Shuffle l m m' → Shuffles (l :: ls) m'

namespace Shuffle

variable {α : Type} {l r m : List α}

/-- An interleaving holds what the two lists hold. -/
theorem perm (h : Shuffle l r m) : m.Perm (l ++ r) := by
  induction h with
  | nil => exact .refl _
  | left _ ih => exact ih.cons _
  | right _ ih => exact (ih.cons _).trans List.perm_middle.symm

theorem nil_left : ∀ r : List α, Shuffle [] r r
  | [] => .nil
  | _ :: r => .right (nil_left r)

/-- One list after the other is an interleaving. -/
theorem append : ∀ l r : List α, Shuffle l r (l ++ r)
  | [], r => nil_left r
  | _ :: l, r => .left (append l r)

end Shuffle

namespace Shuffles

variable {α : Type} {ls : List (List α)} {m : List α}

theorem perm (h : Shuffles ls m) : m.Perm ls.flatten := by
  induction h with
  | nil => exact .refl _
  | cons _ hs ih => exact hs.perm.trans (ih.append_left _)

/-- The lists one after the other are an interleaving of them. -/
theorem flatten : ∀ ls : List (List α), Shuffles ls ls.flatten
  | [] => .nil
  | l :: ls => .cons (flatten ls) (Shuffle.append l ls.flatten)

end Shuffles

/-- `Scheduled w c record path depth chain tree result log`: on the world `w`, some schedule of
the concurrent resolution of `tree`, the document at `path`, `depth` levels below the host and
included through the documents `chain`, succeeds with `result` and records `log`. -/
inductive Scheduled (w : World) (c : Compiler) (record : Bool) :
    Option String → Nat → List String → Node → Node → List String → Prop
  /-- A tree without directives is left as it is. -/
  | plain {path : Option String} {depth : Nat} {chain : List String} {tree : Node} :
      sites tree = [] → Scheduled w c record path depth chain tree tree []
  /-- The directives of a tree with a path and room to nest each load, off the chain, the
  document `d s` they name and resolve it to `r s` under some schedule, recording `nested s`.
  The level records any interleaving of its loads' records, each its file first, and the
  resolutions overwrite the directives. -/
  | gather {p : String} {depth : Nat} {chain : List String} {tree : Node} {log : List String}
      (d r : Site → Node) (nested : Site → List String) :
      sites tree ≠ [] → depth < maxDepth →
      (∀ s ∈ sites tree, includedPath w.cwd p s.specifier ∉ chain ++ [Path.absolute w.cwd p]) →
      (∀ s ∈ sites tree, document w c (includedPath w.cwd p s.specifier) = some (d s)) →
      (∀ s ∈ sites tree, Scheduled w c record (some (includedPath w.cwd p s.specifier))
        (depth + 1) (chain ++ [Path.absolute w.cwd p]) (d s) (r s) (nested s)) →
      Shuffles ((sites tree).map fun s =>
        (if record then [includedPath w.cwd p s.specifier] else []) ++ nested s) log →
      Scheduled w c record (some p) depth chain tree
        (replaceAll tree ((sites tree).map fun s => (s, r s))) log

section Resolve

variable {c : Compiler} {record : Bool} {w : World}

/-- Resolving the directives in document order is one schedule. -/
theorem scheduled_of_eval_resolveTree :
    ∀ (fuel : Nat) (tree : Node) (path : Option String) (depth : Nat) (chain : List String)
      {t : Node} {log : List String}, maxDepth - depth < fuel →
      eval (resolveTree c record fuel tree path depth chain) w = (.ok t, log) →
      Scheduled w c record path depth chain tree t log
  | 0, _, _, _, _, _, _, hf, _ => absurd hf (Nat.not_lt_zero _)
  | fuel + 1, tree, path, depth, chain, t, log, hf, h => by
    rcases eval_resolveTree_eq_ok h with
      ⟨hs, rfl, rfl⟩ | ⟨p, rfl, hne, hd, d, r, l, hsite, rfl, rfl⟩
    · exact .plain hs
    exact .gather d r l hne hd (fun s hs => (hsite s hs).1) (fun s hs => (hsite s hs).2.1)
      (fun s hs => scheduled_of_eval_resolveTree fuel _ _ _ _ (by omega) (hsite s hs).2.2)
      (Shuffles.flatten _)

/-- Every schedule that succeeds gives what resolving in document order gives: the same tree,
and the same files recorded, perhaps in another order. -/
theorem eval_of_scheduled {path : Option String} {depth : Nat} {chain : List String}
    {tree t : Node} {log : List String} (h : Scheduled w c record path depth chain tree t log) :
    ∀ fuel, maxDepth - depth < fuel → ∃ log',
      eval (resolveTree c record fuel tree path depth chain) w = (.ok t, log') ∧ log.Perm log' := by
  induction h with
  | plain hs =>
    intro fuel hf
    obtain ⟨fuel, rfl⟩ : ∃ f, fuel = f + 1 := ⟨fuel - 1, by omega⟩
    exact ⟨[], eval_resolveTree_plain hs, .refl _⟩
  | @gather p depth chain tree log d r nested hne hd hchain hdoc _ hshuffle ih =>
    intro fuel hf
    obtain ⟨fuel, rfl⟩ : ∃ f, fuel = f + 1 := ⟨fuel - 1, by omega⟩
    -- each load, resolved in document order, records its files in some order
    have each : ∀ s, ∃ l, s ∈ sites tree →
        eval (resolveTree c record fuel (d s) (some (includedPath w.cwd p s.specifier))
          (depth + 1) (chain ++ [Path.absolute w.cwd p])) w = (.ok (r s), l) ∧
        (nested s).Perm l := by
      intro s
      by_cases hs : s ∈ sites tree
      · obtain ⟨l, hl⟩ := ih s hs fuel (by omega)
        exact ⟨l, fun _ => hl⟩
      · exact ⟨[], fun h => absurd h hs⟩
    choose l hl using each
    refine ⟨_, eval_resolveTree_of_ok hne hd fun s hs => ⟨hchain s hs, hdoc s hs, (hl s hs).1⟩, ?_⟩
    exact hshuffle.perm.trans (List.Perm.flatMap_left _ fun s hs => (hl s hs).2.append_left _)

/-- When resolving succeeds on a world, resolving in document order is one schedule, and every
schedule gives the same tree and records the same files, perhaps in another order. -/
theorem scheduled_of_resolve {tree t : Node} {path : Option String} {w' : World}
    {deps : List String}
    (h : (resolve c record tree path : StateM World _).run w = (.ok (t, deps), w')) :
    Scheduled w c record path 0 [] tree t deps ∧
      ∀ t' log, Scheduled w c record path 0 [] tree t' log → t' = t ∧ log.Perm deps := by
  obtain ⟨-, hrun⟩ := eval_of_resolve_ok h
  refine ⟨scheduled_of_eval_resolveTree _ _ _ _ _ (by omega) hrun, fun t' log hs => ?_⟩
  obtain ⟨log', hrun', hperm⟩ := eval_of_scheduled hs (maxDepth + 1) (by omega)
  rw [hrun] at hrun'
  cases hrun'
  exact ⟨rfl, hperm⟩

end Resolve

end Manuscript.Include
