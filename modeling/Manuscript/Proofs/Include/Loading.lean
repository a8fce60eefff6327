import Manuscript.Proofs.Include.Run
import Manuscript.Proofs.Document.Failures

/-!
# How loading an included document fails

Loading the document a directive names fails in one of three ways: the file cannot be read,
which is an include failure whose message starts with `Cannot read included file ` (or a bad
value of the path); its front matter is not a mapping of YAML; or its markup does not parse.
Only the first is an include failure (`load_failsWith`), so a failure of loading never reads as
a cycle or as a depth failure.
-/

namespace Manuscript.Include

variable {α β : Type} {w : World}

/-- A failure that loading the document at `target` for a directive can give: a failure to read
the file, or an error that is no include failure. -/
def LoadFailure (site : Site) (target : String) (e : Error) : Prop :=
  (∃ rest, e = failure ("Cannot read included file " ++ rest) site (some target)) ∨ ¬ e.IsInclude

/-- A bind of computations that frame the world fails only as one of them does. -/
theorem failsWith_eval_bind {P : Error → Prop} {x : Resolving (StateM World) α}
    {f : α → Resolving (StateM World) β} (hx : Frames x w) (hf : ∀ a, Frames (f a) w)
    (h₁ : FailsWith P (eval x w).1) (h₂ : ∀ a, FailsWith P (eval (f a) w).1) :
    FailsWith P (eval (x >>= f) w).1 := by
  rcases hr : eval x w with ⟨e | a, l⟩
  · rw [eval_bind_error hx hr]
    intro e' he'
    cases he'
    exact h₁ e (by rw [hr])
  · rw [eval_bind_ok hx (hf a) hr]
    exact h₂ a

theorem failsWith_eval_pure {P : Error → Prop} (a : α) :
    FailsWith P (eval (pure a : Resolving (StateM World) α) w).1 :=
  failsWith_ok a

theorem failsWith_eval_throw {P : Error → Prop} {e : Error} (h : P e) :
    FailsWith P (eval (throw e : Resolving (StateM World) α) w).1 :=
  failsWith_error h

section Load

variable (c : Compiler) (site : Site) (target : String)

/-- Reading an included file fails only with a failure that names the file, or with a bad
value for a path holding a null byte. -/
theorem readIncluded_failsWith_of {P : Error → Prop}
    (hread : ∀ rest, P (failure ("Cannot read included file " ++ rest) site (some target)))
    (hnull : P (.badValue "embedded null byte")) :
    FailsWith P (eval (readIncluded site target) w).1 := by
  unfold readIncluded
  refine failsWith_eval_bind (frames_lift (World.reads_readText target) w) (fun r => ?_)
    (by rw [eval_lift]; exact failsWith_ok _) fun r => ?_
  · split
    · exact frames_pure _ w
    all_goals exact frames_throw _ w
  · split
    · exact failsWith_eval_pure _
    · exact failsWith_eval_throw (by simpa only [String.append_assoc] using hread _)
    · exact failsWith_eval_throw (by simpa only [String.append_assoc] using hread _)
    · exact failsWith_eval_throw hnull

/-- Loading fails only as reading the file, splitting off its front matter or parsing its
markup does; a parse error then names the file. -/
theorem load_failsWith_of {P : Error → Prop}
    (hread : ∀ rest, P (failure ("Cannot read included file " ++ rest) site (some target)))
    (hnull : P (.badValue "embedded null byte"))
    (hsplit : ∀ matter e, P (FrontMatter.loadFailure matter (some target) e))
    (hmap : ∀ detail, P (.frontmatter detail (some target) none))
    (hparse : ∀ e : Error, e.IsParse → P (e.withPath target)) :
    FailsWith P (eval (load c site target : Resolving (StateM World) _) w).1 := by
  unfold load
  refine failsWith_eval_bind (frames_readIncluded site target w) (fun content => ?_)
    (readIncluded_failsWith_of site target hread hnull) fun content => ?_
  · refine (frames_ofExcept _ w).bind fun matter => ?_
    dsimp only
    split
    · exact (frames_pure _ w).bind fun _ => frames_pure _ w
    · exact (frames_throw _ w).bind fun _ => frames_pure _ w
  refine failsWith_eval_bind (frames_ofExcept _ w) (fun matter => ?_) ?_ fun matter => ?_
  · dsimp only
    split
    · exact (frames_pure _ w).bind fun _ => frames_pure _ w
    · exact (frames_throw _ w).bind fun _ => frames_pure _ w
  · rw [eval_ofExcept]
    dsimp only
    exact FrontMatter.split_failsWith_of hsplit hmap content
  · dsimp only
    split
    · exact failsWith_eval_bind (frames_pure _ w) (fun _ => frames_pure _ w)
        (failsWith_eval_pure _) fun _ => failsWith_eval_pure _
    · next e hparse' =>
      exact failsWith_eval_bind (frames_throw _ w) (fun _ => frames_pure _ w)
        (failsWith_eval_throw (hparse e (c.reader.parse_failsWith matter.content e hparse')))
        fun _ => failsWith_eval_pure _

/-- Loading fails only with a failure to read the file, or with an error that is no include
failure: front matter that is no mapping, or markup that does not parse. -/
theorem load_failsWith :
    FailsWith (LoadFailure site target)
      (eval (load c site target : Resolving (StateM World) _) w).1 :=
  load_failsWith_of c site target (fun _ => .inl ⟨_, rfl⟩) (.inr fun ⟨_, _, _, h⟩ => nomatch h)
    (fun matter e => .inr (FrontMatter.loadFailure_not_isInclude matter _ e))
    (fun _ => .inr fun ⟨_, _, _, h⟩ => nomatch h) fun _ he => .inr (he.withPath target).not_isInclude

end Load

end Manuscript.Include
