import Manuscript.Include
import Manuscript.Proofs.Except
import Mathlib.Tactic.Choose

/-!
# Resolving includes on a world

A `World` is a host held as data; reading a file does not change it (`World.Reads`), and
`World.text` is what reading a text file gives. `exec x log w` runs a resolving computation on
`w` from the record `log`, and `eval x w` gives its result and what it records from the empty
record. A computation `Frames` a world when it leaves the world as it is and only appends to the
record; then `exec` is `eval` after the record, and `eval` of a bind is the two evals one after
the other (`eval_bind_ok`, `eval_bind_error`).

Loading a directive's document, the directive step `resolveSite` and the resolution of a tree
`resolveTree` frame every world (`frames_load`, `frames_resolveSite`, `frames_resolveTree`), and
each has its `eval` equations. Loading gives `document`: the text of the file without its front
matter, parsed and marked with the file's lines. A level with one directive resolves through
it (`eval_resolveTree_single`), and one whose first directive closes a cycle fails there
(`eval_resolveTree_cycle`).
-/

namespace Manuscript

namespace World

variable {β γ : Type}

/-- The computation only reads the world. -/
def Reads (x : StateM World β) : Prop := ∀ w, (x.run w).2 = w

theorem reads_pure (b : β) : Reads (pure b : StateM World β) := fun _ => rfl

theorem reads_get : Reads (get : StateM World World) := fun _ => rfl

theorem Reads.bind {x : StateM World β} {f : β → StateM World γ} (hx : Reads x)
    (hf : ∀ b, Reads (f b)) : Reads (x >>= f) := by
  intro w
  rw [StateT.run_bind]
  have h := hx w
  rcases hr : x.run w with ⟨b, w'⟩
  rw [hr] at h
  subst h
  exact hf b w'

theorem reads_workingDir : Reads (Host.workingDir : StateM World String) := fun _ => rfl

theorem reads_readFile (p : String) : Reads (Host.readFile p : StateM World _) := by
  refine Reads.bind reads_get fun w => ?_
  dsimp only
  split
  · exact reads_pure _
  · split <;> exact reads_pure _

theorem reads_readText (p : String) : Reads (Host.readText p : StateM World _) := by
  unfold Host.readText
  split
  · exact reads_pure _
  · refine Reads.bind (reads_readFile p) fun r => ?_
    split
    · exact reads_pure _
    · split <;> exact reads_pure _

/-- The text of the file at a path, or why it cannot be read. -/
def text (w : World) (p : String) : Except Host.ReadFailure String :=
  ((Host.readText p : StateM World _).run w).1

theorem readText_run (w : World) (p : String) :
    (Host.readText p : StateM World _).run w = (w.text p, w) :=
  Prod.ext rfl (reads_readText p w)

/-- A file at a path that can be reached is read as the text its bytes decode to, with universal
line breaks. -/
theorem text_of_file {w : World} {p : String} {b : ByteArray} {s : String}
    (hnul : p.contains '\x00' = false) (hreach : w.reach (w.resolve p) = none)
    (hfile : w.find? (w.resolve p) = some (.file b)) (hdec : Text.decodeUtf8 b = .ok s) :
    w.text p = .ok (Text.universalNewlines s) := by
  simp [text, Host.readText, hnul, Host.readFile, hreach, hfile, hdec]
  rfl

end World

namespace Include

variable {α β : Type}

/-! ## Running a resolving computation -/

/-- Runs a resolving computation on a world, from a record. -/
def exec (x : Resolving (StateM World) α) (log : List String) (w : World) :
    (Except Error α × List String) × World :=
  (x.run.run log).run w

/-- The result of a resolving computation on a world, and what it records from the empty
record. -/
def eval (x : Resolving (StateM World) α) (w : World) : Except Error α × List String :=
  (exec x [] w).1

/-- The computation leaves the world as it is and only appends to the record. -/
def Frames (x : Resolving (StateM World) α) (w : World) : Prop :=
  ∀ log, exec x log w = (((eval x w).1, log ++ (eval x w).2), w)

@[simp] theorem exec_pure (a : α) (log : List String) (w : World) :
    exec (pure a : Resolving (StateM World) α) log w = ((.ok a, log), w) := rfl

@[simp] theorem exec_throw (e : Error) (log : List String) (w : World) :
    exec (throw e : Resolving (StateM World) α) log w = ((.error e, log), w) := rfl

theorem exec_bind (x : Resolving (StateM World) α) (f : α → Resolving (StateM World) β)
    (log : List String) (w : World) :
    exec (x >>= f) log w =
      match exec x log w with
      | ((.ok a, l), w') => exec (f a) l w'
      | ((.error e, l), w') => ((.error e, l), w') := by
  simp only [exec, ExceptT.run_bind, StateT.run_bind]
  rcases (x.run.run log).run w with ⟨⟨_ | a, l⟩, w'⟩ <;> rfl

theorem exec_lift (x : StateM World β) (log : List String) (w : World) :
    exec (monadLift x : Resolving (StateM World) β) log w =
      ((.ok (x.run w).1, log), (x.run w).2) := rfl

@[simp] theorem eval_pure (a : α) (w : World) :
    eval (pure a : Resolving (StateM World) α) w = (.ok a, []) := rfl

@[simp] theorem eval_throw (e : Error) (w : World) :
    eval (throw e : Resolving (StateM World) α) w = (.error e, []) := rfl

theorem frames_pure (a : α) (w : World) : Frames (pure a : Resolving (StateM World) α) w :=
  fun log => by rw [eval_pure, exec_pure, List.append_nil]

theorem frames_throw (e : Error) (w : World) : Frames (throw e : Resolving (StateM World) α) w :=
  fun log => by rw [eval_throw, exec_throw, List.append_nil]

section Bind

variable {x : Resolving (StateM World) α} {f : α → Resolving (StateM World) β} {w : World}

theorem Frames.exec_eq (hx : Frames x w) (log : List String) :
    exec x log w = (((eval x w).1, log ++ (eval x w).2), w) :=
  hx log

theorem eval_bind_ok {a : α} {l : List String} (hx : Frames x w) (hf : Frames (f a) w)
    (h : eval x w = (.ok a, l)) :
    eval (x >>= f) w = ((eval (f a) w).1, l ++ (eval (f a) w).2) := by
  show (exec (x >>= f) [] w).1 = _
  rw [exec_bind, hx.exec_eq, h]
  dsimp only
  rw [hf.exec_eq, List.nil_append]

theorem eval_bind_error {e : Error} {l : List String} (hx : Frames x w)
    (h : eval x w = (.error e, l)) : eval (x >>= f) w = (.error e, l) := by
  show (exec (x >>= f) [] w).1 = _
  rw [exec_bind, hx.exec_eq, h]
  rfl

theorem Frames.bind (hx : Frames x w) (hf : ∀ a, Frames (f a) w) : Frames (x >>= f) w := by
  intro log
  rcases h : eval x w with ⟨_ | a, l⟩
  · rw [exec_bind, hx.exec_eq, h, eval_bind_error hx h]
  · rw [exec_bind, hx.exec_eq, h, eval_bind_ok hx (hf a) h]
    dsimp only
    rw [(hf a).exec_eq, List.append_assoc]

theorem Frames.bind_ok {a : α} {l : List String} (hx : Frames x w) (h : eval x w = (.ok a, l))
    (hf : Frames (f a) w) : Frames (x >>= f) w := by
  intro log
  rw [exec_bind, hx.exec_eq, h]
  dsimp only
  rw [hf.exec_eq, eval_bind_ok hx hf h, List.append_assoc]

theorem frames_throw_bind (e : Error) (f : α → Resolving (StateM World) β) (w : World) :
    Frames (throw e >>= f) w := by
  intro log
  rw [exec_bind, exec_throw, eval_bind_error (frames_throw e w) (eval_throw e w),
    List.append_nil]

end Bind

theorem eval_lift (x : StateM World β) (w : World) :
    eval (monadLift x : Resolving (StateM World) β) w = (.ok (x.run w).1, []) := rfl

theorem frames_lift {x : StateM World β} (hx : World.Reads x) (w : World) :
    Frames (monadLift x : Resolving (StateM World) β) w := by
  intro log
  rw [exec_lift, hx w, eval_lift, List.append_nil]

theorem frames_record (target : String) (w : World) :
    Frames (modify (· ++ [target]) : Resolving (StateM World) PUnit) w := fun _ => rfl

theorem eval_record (target : String) (w : World) :
    eval (modify (· ++ [target]) : Resolving (StateM World) PUnit) w = (.ok (), [target]) := rfl

@[simp] theorem eval_ofExcept (r : Except Error α) (w : World) :
    eval (ofExcept r : Resolving (StateM World) α) w = (r, []) := by
  cases r <;> rfl

theorem frames_ofExcept (r : Except Error α) (w : World) :
    Frames (ofExcept r : Resolving (StateM World) α) w := by
  cases r
  · exact frames_throw _ w
  · exact frames_pure _ w

/-! ## Loading a directive's document -/

/-- The document a directive names, as including it gives it: the text of the file without its
front matter, parsed, with every position pointing at its line in the file. -/
def document (w : World) (c : Compiler) (target : String) : Option Node := do
  let content ← (w.text target).toOption
  let matter ← (FrontMatter.splitWith c.yaml content (some target)).toOption
  let tree ← (c.parse matter.content).toOption
  return markSource tree target ((lineFeeds content : Int) - lineFeeds matter.content)

theorem document_eq {w : World} {c : Compiler} {target content : String} {matter : FrontMatter}
    {tree : Node} (htext : w.text target = .ok content)
    (hsplit : FrontMatter.splitWith c.yaml content (some target) = .ok matter)
    (hparse : c.parse matter.content = .ok tree) :
    document w c target =
      some (markSource tree target ((lineFeeds content : Int) - lineFeeds matter.content)) := by
  simp [document, htext, hsplit, hparse, Except.toOption]

/-- A file whose front matter is empty is parsed whole, its positions left as they are. -/
theorem document_of_content {w : World} {c : Compiler} {target content : String} {tree : Node}
    (htext : w.text target = .ok content)
    (hsplit : (FrontMatter.splitWith c.yaml content (some target)).toOption.map (·.content) =
      some content)
    (hparse : c.parse content = .ok tree) :
    document w c target = some (markSource tree target 0) := by
  obtain ⟨matter, hm, hc⟩ := Option.map_eq_some_iff.1 hsplit
  rw [document_eq htext (Except.eq_ok_iff_toOption.2 hm) (hc ▸ hparse), hc, Int.sub_self]

section Load

variable (c : Compiler) (site : Site) (target : String) (w : World)

theorem frames_readIncluded : Frames (readIncluded site target : Resolving (StateM World) _) w := by
  unfold readIncluded
  refine (frames_lift (World.reads_readText target) w).bind fun r => ?_
  split
  · exact frames_pure _ w
  all_goals exact frames_throw _ w

theorem eval_readIncluded_ok {content : String} (h : w.text target = .ok content) :
    eval (readIncluded site target : Resolving (StateM World) _) w = (.ok content, []) := by
  unfold readIncluded
  rw [eval_bind_ok (frames_lift (World.reads_readText target) w) (frames_pure content w)
    (by rw [eval_lift, World.readText_run, h])]
  rfl

theorem eval_readIncluded_error {f : Host.ReadFailure} (h : w.text target = .error f) :
    ∃ e, eval (readIncluded site target : Resolving (StateM World) _) w = (.error e, []) := by
  unfold readIncluded
  have hread : eval (monadLift (Host.readText target : StateM World _) :
      Resolving (StateM World) _) w = (.ok (.error f), []) := by
    rw [eval_lift, World.readText_run, h]
  cases f with
  | os e => exact ⟨_, eval_bind_ok (frames_lift (World.reads_readText target) w)
      (frames_throw _ w) hread⟩
  | nullByte => exact ⟨_, eval_bind_ok (frames_lift (World.reads_readText target) w)
      (frames_throw _ w) hread⟩
  | undecodable f => exact ⟨_, eval_bind_ok (frames_lift (World.reads_readText target) w)
      (frames_throw _ w) hread⟩

theorem frames_load : Frames (load c site target : Resolving (StateM World) _) w := by
  unfold load
  refine (frames_readIncluded site target w).bind fun content => ?_
  refine (frames_ofExcept _ w).bind fun matter => ?_
  dsimp only
  split
  · exact (frames_pure _ w).bind fun _ => frames_pure _ w
  · exact (frames_throw _ w).bind fun _ => frames_pure _ w

/-- Loading records nothing and succeeds exactly with the document the directive names. -/
theorem eval_load : ∃ r : Except Error Node, r.toOption = document w c target ∧
    eval (load c site target : Resolving (StateM World) _) w = (r, []) := by
  unfold load
  have hread := frames_readIncluded site target w
  rcases htext : w.text target with f | content
  · obtain ⟨e, he⟩ := eval_readIncluded_error site target w htext
    exact ⟨.error e, by simp [document, htext, Except.toOption], eval_bind_error hread he⟩
  have hcontent := eval_readIncluded_ok site target w htext
  show ∃ r, _ ∧ (exec _ [] w).1 = _
  rw [exec_bind, hread.exec_eq, hcontent]
  dsimp only
  rw [exec_bind, (frames_ofExcept _ w).exec_eq, eval_ofExcept]
  rcases hsplit : FrontMatter.splitWith c.yaml content (some target) with e | matter
  · exact ⟨.error e, by simp [document, htext, hsplit, Except.toOption], rfl⟩
  dsimp only
  rcases hparse : c.parse matter.content with e | tree
  · exact ⟨.error (e.withPath target),
      by simp [document, htext, hsplit, hparse, Except.toOption], rfl⟩
  · exact ⟨.ok _, by simp [document, htext, hsplit, hparse, Except.toOption], rfl⟩

theorem eval_load_of_document {doc : Node} (h : document w c target = some doc) :
    eval (load c site target : Resolving (StateM World) _) w = (.ok doc, []) := by
  obtain ⟨r, hr, he⟩ := eval_load c site target w
  rw [he]
  rcases r with e | t
  · simp [Except.toOption, h] at hr
  · simp only [Except.toOption, h, Option.some.injEq] at hr
    rw [hr]

theorem eval_load_of_document_none (h : document w c target = none) :
    ∃ e, eval (load c site target : Resolving (StateM World) _) w = (.error e, []) := by
  obtain ⟨r, hr, he⟩ := eval_load c site target w
  rcases r with e | t
  · exact ⟨e, he⟩
  · simp [Except.toOption, h] at hr

end Load

/-! ## One directive -/

section Site

variable {resolve : Node → Option String → Nat → List String → Resolving (StateM World) Node}
  {c : Compiler} {record : Bool} {baseDir : String} {depth : Nat} {chain : List String}
  {site : Site} {w : World}

theorem eval_resolveSite_cycle (h : targetOf w.cwd baseDir site ∈ chain) :
    eval (resolveSite resolve c record w.cwd baseDir depth chain site) w =
      (.error (cycleFailure chain site (targetOf w.cwd baseDir site)), []) := by
  have hc : chain.contains (targetOf w.cwd baseDir site) = true := by simpa using h
  unfold resolveSite
  dsimp only
  rw [if_pos hc]
  exact eval_bind_error (frames_throw _ w) (eval_throw _ w)

theorem frames_resolveSite (cwd : String)
    (hres : ∀ t, Frames (resolve t (some (targetOf cwd baseDir site)) (depth + 1) chain) w) :
    Frames (resolveSite resolve c record cwd baseDir depth chain site) w := by
  unfold resolveSite
  dsimp only
  split
  · exact frames_throw_bind _ _ w
  · refine (frames_load c site _ w).bind fun parsed => ?_
    have htail := (hres parsed).bind fun r => frames_pure (site, r) w
    split
    · exact (frames_record _ w).bind fun _ => htail
    · exact htail

theorem eval_resolveSite_load_error {e : Error} (h : targetOf w.cwd baseDir site ∉ chain)
    (hl : eval (load c site (targetOf w.cwd baseDir site) : Resolving (StateM World) _) w =
      (.error e, [])) :
    eval (resolveSite resolve c record w.cwd baseDir depth chain site) w = (.error e, []) := by
  unfold resolveSite
  dsimp only
  rw [if_neg (by simpa using h)]
  exact eval_bind_error (frames_load c site _ w) hl

theorem eval_resolveSite_ok {doc : Node} (h : targetOf w.cwd baseDir site ∉ chain)
    (hl : eval (load c site (targetOf w.cwd baseDir site) : Resolving (StateM World) _) w =
      (.ok doc, []))
    (hres : Frames (resolve doc (some (targetOf w.cwd baseDir site)) (depth + 1) chain) w) :
    eval (resolveSite resolve c record w.cwd baseDir depth chain site) w =
      ((eval (resolve doc (some (targetOf w.cwd baseDir site)) (depth + 1) chain) w).1.map
          (site, ·),
        (if record then [targetOf w.cwd baseDir site] else []) ++
          (eval (resolve doc (some (targetOf w.cwd baseDir site)) (depth + 1) chain) w).2) := by
  have htail := hres.bind fun r => frames_pure (site, r) w
  have heval : eval (resolve doc (some (targetOf w.cwd baseDir site)) (depth + 1) chain >>=
      fun r => pure (site, r)) w =
      ((eval (resolve doc (some (targetOf w.cwd baseDir site)) (depth + 1) chain) w).1.map
        (site, ·),
        (eval (resolve doc (some (targetOf w.cwd baseDir site)) (depth + 1) chain) w).2) := by
    rcases hr : eval (resolve doc (some (targetOf w.cwd baseDir site)) (depth + 1) chain) w
      with ⟨e | r, l⟩
    · exact eval_bind_error hres hr
    · rw [eval_bind_ok (f := fun r => pure (site, r)) hres (frames_pure _ w) hr, eval_pure,
        List.append_nil]
      rfl
  unfold resolveSite
  dsimp only
  rw [if_neg (by simpa using h)]
  cases record
  · simp only [Bool.false_eq_true, ↓reduceIte]
    rw [eval_bind_ok (frames_load c site _ w) htail hl, heval, List.nil_append]
  · simp only [↓reduceIte]
    rw [eval_bind_ok (frames_load c site _ w) ((frames_record _ w).bind fun _ => htail) hl,
      eval_bind_ok (frames_record _ w) htail (eval_record _ w), heval, List.nil_append]

/-- A directive step succeeds only off the chain, on a document that loads, and with the
resolution of that document; it records the document before what resolving it records. -/
theorem eval_resolveSite_eq_ok {b : Site × Node} {l : List String}
    (hres : ∀ t, Frames (resolve t (some (targetOf w.cwd baseDir site)) (depth + 1) chain) w)
    (h : eval (resolveSite resolve c record w.cwd baseDir depth chain site) w = (.ok b, l)) :
    targetOf w.cwd baseDir site ∉ chain ∧ ∃ doc r lr,
      document w c (targetOf w.cwd baseDir site) = some doc ∧
      eval (resolve doc (some (targetOf w.cwd baseDir site)) (depth + 1) chain) w = (.ok r, lr) ∧
      b = (site, r) ∧ l = (if record then [targetOf w.cwd baseDir site] else []) ++ lr := by
  by_cases hc : targetOf w.cwd baseDir site ∈ chain
  · rw [eval_resolveSite_cycle hc] at h
    cases h
  refine ⟨hc, ?_⟩
  rcases hd : document w c (targetOf w.cwd baseDir site) with _ | doc
  · obtain ⟨e, he⟩ := eval_load_of_document_none c site _ w hd
    rw [eval_resolveSite_load_error hc he] at h
    cases h
  · rw [eval_resolveSite_ok hc (eval_load_of_document c site _ w hd) (hres doc)] at h
    rcases hr : eval (resolve doc (some (targetOf w.cwd baseDir site)) (depth + 1) chain) w
      with ⟨e | r, lr⟩
    · rw [hr] at h
      cases h
    · rw [hr] at h
      cases h
      exact ⟨doc, r, lr, rfl, hr, rfl, rfl⟩

end Site

/-! ## Sequences of directives -/

section MapM

variable {f : α → Resolving (StateM World) β} {w : World}

theorem frames_mapM : ∀ {as : List α}, (∀ a ∈ as, Frames (f a) w) → Frames (as.mapM f) w
  | [], _ => frames_pure [] w
  | a :: as, h => by
    rw [List.mapM_cons]
    exact (h a List.mem_cons_self).bind fun b =>
      (frames_mapM fun a' ha' => h a' (List.mem_cons_of_mem a ha')).bind fun bs =>
        frames_pure (b :: bs) w

theorem eval_mapM_cons_ok {a : α} {as : List α} {b : β} {l : List String}
    (ha : Frames (f a) w) (has : Frames (as.mapM f) w) (h : eval (f a) w = (.ok b, l)) :
    eval ((a :: as).mapM f) w =
      ((eval (as.mapM f) w).1.map (b :: ·), l ++ (eval (as.mapM f) w).2) := by
  have htail := has.bind fun bs => frames_pure (b :: bs) w
  rw [List.mapM_cons, eval_bind_ok ha htail h]
  rcases hr : eval (as.mapM f) w with ⟨e | bs, l'⟩
  · rw [eval_bind_error has hr]
    rfl
  · rw [eval_bind_ok (f := fun bs => pure (b :: bs)) has (frames_pure _ w) hr, eval_pure,
      List.append_nil]
    rfl

theorem eval_mapM_cons_error {a : α} {as : List α} {e : Error} {l : List String}
    (ha : Frames (f a) w) (h : eval (f a) w = (.error e, l)) :
    eval ((a :: as).mapM f) w = (.error e, l) := by
  rw [List.mapM_cons, eval_bind_error ha h]

/-- A map whose every element succeeds succeeds, with the results in order and the records one
after the other. -/
theorem eval_mapM_of_forall_ok {F : α → β} {L : α → List String} :
    ∀ {as : List α}, (∀ a ∈ as, Frames (f a) w) → (∀ a ∈ as, eval (f a) w = (.ok (F a), L a)) →
      eval (as.mapM f) w = (.ok (as.map F), (as.map L).flatten)
  | [], _, _ => rfl
  | a :: as, hf, h => by
    have hf' : ∀ a ∈ as, Frames (f a) w := fun a' ha' => hf a' (List.mem_cons_of_mem a ha')
    rw [eval_mapM_cons_ok (hf a List.mem_cons_self) (frames_mapM hf') (h a List.mem_cons_self),
      eval_mapM_of_forall_ok hf' fun a' ha' => h a' (List.mem_cons_of_mem a ha')]
    rfl

/-- A map that succeeds succeeds on each element. -/
theorem eval_mapM_ok_of_mem : ∀ {as : List α} {bs : List β} {l : List String} {a : α},
    (∀ a ∈ as, Frames (f a) w) → eval (as.mapM f) w = (.ok bs, l) → a ∈ as →
      ∃ b l', eval (f a) w = (.ok b, l')
  | [], _, _, _, _, _, ha => absurd ha List.not_mem_nil
  | x :: as, _, _, a, hf, h, ha => by
    have hx := hf x List.mem_cons_self
    have hf' : ∀ a ∈ as, Frames (f a) w := fun a' ha' => hf a' (List.mem_cons_of_mem x ha')
    rcases hr : eval (f x) w with ⟨e | b, lx⟩
    · rw [eval_mapM_cons_error hx hr] at h
      cases h
    · rw [eval_mapM_cons_ok hx (frames_mapM hf') hr] at h
      rcases List.mem_cons.1 ha with rfl | ha
      · exact ⟨b, lx, hr⟩
      · rcases ht : eval (as.mapM f) w with ⟨e | bs', l'⟩
        · rw [ht] at h
          cases h
        · exact eval_mapM_ok_of_mem hf' ht ha

/-- A map whose elements each succeed only with a fixed result and record gives, when it
succeeds, those results in order and those records one after the other. -/
theorem eval_mapM_eq_of_ok {F : α → β} {L : α → List String} :
    ∀ {as : List α} {bs : List β} {l : List String}, (∀ a ∈ as, Frames (f a) w) →
      (∀ a ∈ as, ∀ b l', eval (f a) w = (.ok b, l') → b = F a ∧ l' = L a) →
      eval (as.mapM f) w = (.ok bs, l) → bs = as.map F ∧ l = (as.map L).flatten
  | [], _, _, _, _, h => by
    rw [List.mapM_nil, eval_pure] at h
    cases h
    exact ⟨rfl, rfl⟩
  | x :: as, _, _, hf, hok, h => by
    have hx := hf x List.mem_cons_self
    have hf' : ∀ a ∈ as, Frames (f a) w := fun a' ha' => hf a' (List.mem_cons_of_mem x ha')
    rcases hr : eval (f x) w with ⟨e | b, lx⟩
    · rw [eval_mapM_cons_error hx hr] at h
      cases h
    · obtain ⟨rfl, rfl⟩ := hok x List.mem_cons_self b lx hr
      rw [eval_mapM_cons_ok hx (frames_mapM hf') hr] at h
      rcases ht : eval (as.mapM f) w with ⟨e | bs', l'⟩
      · rw [ht] at h
        cases h
      · rw [ht] at h
        cases h
        obtain ⟨rfl, rfl⟩ := eval_mapM_eq_of_ok hf'
          (fun a ha => hok a (List.mem_cons_of_mem x ha)) ht
        exact ⟨rfl, rfl⟩

end MapM

/-! ## A tree -/

section Tree

variable {c : Compiler} {record : Bool} {w : World}

theorem eval_workingDir (w : World) :
    eval (liftM (Host.workingDir : StateM World String) : Resolving (StateM World) _) w =
      (.ok w.cwd, []) := rfl

theorem frames_workingDir (w : World) :
    Frames (liftM (Host.workingDir : StateM World String) : Resolving (StateM World) _) w :=
  frames_lift World.reads_workingDir w

theorem frames_resolveTree :
    ∀ (fuel : Nat) (tree : Node) (path : Option String) (depth : Nat) (chain : List String),
      Frames (resolveTree c record fuel tree path depth chain) w
  | 0, tree, _, _, _ => frames_pure tree w
  | fuel + 1, tree, path, depth, chain => by
    rw [resolveTree]
    split
    · exact frames_pure tree w
    split
    · dsimp only
      split
      · exact frames_throw_bind _ _ w
      · refine (frames_workingDir w).bind_ok (eval_workingDir w) ?_
        refine (frames_mapM fun site _ => ?_).bind fun rs => frames_pure _ w
        exact frames_resolveSite _ fun t => frames_resolveTree fuel t _ _ _
    · exact frames_throw _ w

theorem frames_resolveSites (fuel : Nat) (cwd baseDir : String) (depth : Nat)
    (chain : List String) (ss : List Site) :
    Frames (ss.mapM (resolveSite (resolveTree c record fuel) c record cwd baseDir depth chain))
      w :=
  frames_mapM fun _ _ => frames_resolveSite cwd fun t => frames_resolveTree fuel t _ _ _

theorem eval_resolveTree_plain {fuel : Nat} {tree : Node} {path : Option String} {depth : Nat}
    {chain : List String} (h : sites tree = []) :
    eval (resolveTree c record (fuel + 1) tree path depth chain) w = (.ok tree, []) := by
  rw [resolveTree]
  split
  · rfl
  · next heq => simp [h] at heq

theorem eval_resolveTree_noPath {fuel : Nat} {tree : Node} {depth : Nat} {chain : List String}
    {site : Site} {rest : List Site} (h : sites tree = site :: rest) :
    eval (resolveTree c record (fuel + 1) tree none depth chain) w =
      (.error (noPathFailure site), []) := by
  rw [resolveTree]
  split
  · next heq => simp [h] at heq
  · next first tail heq =>
    rw [h, List.cons.injEq] at heq
    rw [heq.1]
    rfl

theorem eval_resolveTree_deep {fuel : Nat} {tree : Node} {p : String} {depth : Nat}
    {chain : List String} {site : Site} {rest : List Site} (h : sites tree = site :: rest)
    (hd : maxDepth ≤ depth) :
    eval (resolveTree c record (fuel + 1) tree (some p) depth chain) w =
      (.error (depthFailure site p), []) := by
  rw [resolveTree]
  split
  · next heq => simp [h] at heq
  · next first tail heq =>
    rw [h, List.cons.injEq] at heq
    rw [heq.1]
    dsimp only
    rw [if_pos hd]
    exact eval_bind_error (frames_throw _ w) (eval_throw _ w)

/-- A level with directives, a path and room to nest resolves its directives in order and
splices what they give into the tree. -/
theorem eval_resolveTree_sites {fuel : Nat} {tree : Node} {p : String} {depth : Nat}
    {chain : List String} (h : sites tree ≠ []) (hd : depth < maxDepth) :
    eval (resolveTree c record (fuel + 1) tree (some p) depth chain) w =
      let run := (sites tree).mapM (resolveSite (resolveTree c record fuel) c record w.cwd
        (Path.dirname (Path.absolute w.cwd p)) depth (chain ++ [Path.absolute w.cwd p]))
      ((eval run w).1.map (replaceAll tree), (eval run w).2) := by
  have hrun : Frames ((sites tree).mapM (resolveSite (resolveTree c record fuel) c record w.cwd
      (Path.dirname (Path.absolute w.cwd p)) depth (chain ++ [Path.absolute w.cwd p]))) w :=
    frames_resolveSites fuel _ _ _ _ _
  rw [resolveTree]
  split
  · contradiction
  · dsimp only
    rw [if_neg (by omega), eval_bind_ok (frames_workingDir w)
      (hrun.bind fun rs => frames_pure _ w) (eval_workingDir w), List.nil_append]
    rcases hr : eval ((sites tree).mapM (resolveSite (resolveTree c record fuel) c record w.cwd
        (Path.dirname (Path.absolute w.cwd p)) depth (chain ++ [Path.absolute w.cwd p]))) w
      with ⟨e | rs, l⟩
    · rw [eval_bind_error hrun hr]
      rfl
    · rw [eval_bind_ok (f := fun rs => pure (replaceAll tree rs)) hrun (frames_pure _ w) hr,
        eval_pure, List.append_nil]
      rfl

/-- The directive steps of a level succeed exactly when each loads its document off the chain
and resolves it; then they give each directive with its resolution and record, one directive
after the other, its file and what resolving it recorded. -/
theorem eval_resolveSites_of_ok {fuel : Nat} {baseDir : String} {depth : Nat}
    {chain : List String} {ss : List Site} {d r : Site → Node} {l : Site → List String}
    (h : ∀ s ∈ ss, targetOf w.cwd baseDir s ∉ chain ∧
      document w c (targetOf w.cwd baseDir s) = some (d s) ∧
      eval (resolveTree c record fuel (d s) (some (targetOf w.cwd baseDir s)) (depth + 1) chain) w =
        (.ok (r s), l s)) :
    eval (ss.mapM (resolveSite (resolveTree c record fuel) c record w.cwd baseDir depth chain)) w =
      (.ok (ss.map fun s => (s, r s)),
        (ss.map fun s => (if record then [targetOf w.cwd baseDir s] else []) ++ l s).flatten) := by
  refine eval_mapM_of_forall_ok
    (fun _ _ => frames_resolveSite w.cwd fun doc => frames_resolveTree fuel doc _ _ _)
    fun s hs => ?_
  obtain ⟨hc, hdoc, hr⟩ := h s hs
  rw [eval_resolveSite_ok hc (eval_load_of_document c s _ w hdoc)
    (frames_resolveTree fuel _ _ _ _), hr]
  rfl

theorem eval_resolveSites_eq_ok {fuel : Nat} {baseDir : String} {depth : Nat}
    {chain : List String} {ss : List Site} {rs : List (Site × Node)} {log : List String}
    (h : eval (ss.mapM (resolveSite (resolveTree c record fuel) c record w.cwd baseDir depth
      chain)) w = (.ok rs, log)) :
    ∃ (d r : Site → Node) (l : Site → List String),
      (∀ s ∈ ss, targetOf w.cwd baseDir s ∉ chain ∧
        document w c (targetOf w.cwd baseDir s) = some (d s) ∧
        eval (resolveTree c record fuel (d s) (some (targetOf w.cwd baseDir s)) (depth + 1)
          chain) w = (.ok (r s), l s)) ∧
      rs = ss.map (fun s => (s, r s)) ∧
      log = (ss.map fun s =>
        (if record then [targetOf w.cwd baseDir s] else []) ++ l s).flatten := by
  have hres : ∀ doc path, Frames (resolveTree c record fuel doc path (depth + 1) chain) w :=
    fun doc path => frames_resolveTree fuel doc path _ _
  have frames : ∀ s ∈ ss, Frames (resolveSite (resolveTree c record fuel) c record w.cwd baseDir
      depth chain s) w :=
    fun _ _ => frames_resolveSite w.cwd fun doc => hres doc _
  have each : ∀ s, ∃ (doc r : Node) (l : List String), s ∈ ss →
      targetOf w.cwd baseDir s ∉ chain ∧ document w c (targetOf w.cwd baseDir s) = some doc ∧
      eval (resolveTree c record fuel doc (some (targetOf w.cwd baseDir s)) (depth + 1) chain) w =
        (.ok r, l) := by
    intro s
    by_cases hs : s ∈ ss
    · obtain ⟨b, l, hb⟩ := eval_mapM_ok_of_mem frames h hs
      obtain ⟨hc, doc, r, lr, hdoc, hr, -, -⟩ := eval_resolveSite_eq_ok (fun doc => hres doc _) hb
      exact ⟨doc, r, lr, fun _ => ⟨hc, hdoc, hr⟩⟩
    · exact ⟨default, default, [], fun h => absurd h hs⟩
  choose d r l hdrl using each
  refine ⟨d, r, l, hdrl, eval_mapM_eq_of_ok frames (fun s hs b l' hb => ?_) h⟩
  obtain ⟨-, doc, r', lr, hdoc, hr, rfl, rfl⟩ := eval_resolveSite_eq_ok (fun doc => hres doc _) hb
  obtain ⟨-, hdoc', hr'⟩ := hdrl s hs
  obtain rfl : doc = d s := Option.some.inj (hdoc.symm.trans hdoc')
  rw [hr] at hr'
  cases hr'
  exact ⟨rfl, rfl⟩

/-- What a resolution step that succeeds did: it left a tree without directives as it is, or the
tree had a path and room to nest, and each directive loaded its document off the chain and
resolved it one level down. -/
theorem eval_resolveTree_eq_ok {fuel : Nat} {tree t : Node} {path : Option String} {depth : Nat}
    {chain log : List String}
    (h : eval (resolveTree c record (fuel + 1) tree path depth chain) w = (.ok t, log)) :
    (sites tree = [] ∧ t = tree ∧ log = []) ∨
    ∃ p, path = some p ∧ sites tree ≠ [] ∧ depth < maxDepth ∧
      ∃ (d r : Site → Node) (l : Site → List String),
        (∀ s ∈ sites tree,
          targetOf w.cwd (Path.dirname (Path.absolute w.cwd p)) s ∉
            chain ++ [Path.absolute w.cwd p] ∧
          document w c (targetOf w.cwd (Path.dirname (Path.absolute w.cwd p)) s) = some (d s) ∧
          eval (resolveTree c record fuel (d s)
            (some (targetOf w.cwd (Path.dirname (Path.absolute w.cwd p)) s)) (depth + 1)
            (chain ++ [Path.absolute w.cwd p])) w = (.ok (r s), l s)) ∧
        t = replaceAll tree ((sites tree).map fun s => (s, r s)) ∧
        log = ((sites tree).map fun s => (if record then
          [targetOf w.cwd (Path.dirname (Path.absolute w.cwd p)) s] else []) ++ l s).flatten := by
  by_cases hs : sites tree = []
  · rw [eval_resolveTree_plain hs] at h
    cases h
    exact .inl ⟨hs, rfl, rfl⟩
  obtain ⟨first, rest, hfirst⟩ := List.exists_cons_of_ne_nil hs
  cases path with
  | none =>
    rw [eval_resolveTree_noPath hfirst] at h
    cases h
  | some p =>
    by_cases hd : maxDepth ≤ depth
    · rw [eval_resolveTree_deep hfirst hd] at h
      cases h
    rw [eval_resolveTree_sites hs (by omega)] at h
    dsimp only at h
    rcases hrun : eval ((sites tree).mapM (resolveSite (resolveTree c record fuel) c record w.cwd
        (Path.dirname (Path.absolute w.cwd p)) depth (chain ++ [Path.absolute w.cwd p]))) w
      with ⟨e | rs, l⟩
    · rw [hrun] at h
      cases h
    rw [hrun] at h
    cases h
    obtain ⟨d, r, l, hsite, rfl, rfl⟩ := eval_resolveSites_eq_ok hrun
    exact .inr ⟨p, rfl, hs, by omega, d, r, l, hsite, rfl, rfl⟩

/-- A level whose directives each load their document off the chain and resolve it one level
down resolves, splicing those resolutions and recording one directive after the other. -/
theorem eval_resolveTree_of_ok {fuel : Nat} {tree : Node} {p : String} {depth : Nat}
    {chain : List String} {d r : Site → Node} {l : Site → List String} (hne : sites tree ≠ [])
    (hd : depth < maxDepth)
    (h : ∀ s ∈ sites tree,
      targetOf w.cwd (Path.dirname (Path.absolute w.cwd p)) s ∉ chain ++ [Path.absolute w.cwd p] ∧
      document w c (targetOf w.cwd (Path.dirname (Path.absolute w.cwd p)) s) = some (d s) ∧
      eval (resolveTree c record fuel (d s)
        (some (targetOf w.cwd (Path.dirname (Path.absolute w.cwd p)) s)) (depth + 1)
        (chain ++ [Path.absolute w.cwd p])) w = (.ok (r s), l s)) :
    eval (resolveTree c record (fuel + 1) tree (some p) depth chain) w =
      (.ok (replaceAll tree ((sites tree).map fun s => (s, r s))),
        ((sites tree).map fun s => (if record then
          [targetOf w.cwd (Path.dirname (Path.absolute w.cwd p)) s] else []) ++ l s).flatten) := by
  rw [eval_resolveTree_sites hne hd]
  dsimp only
  rw [eval_resolveSites_of_ok h]
  rfl

/-- A level with one directive, whose file `target` is off the chain and holds a document that
resolves one level down, resolves to that resolution spliced in. -/
theorem eval_resolveTree_single {fuel : Nat} {tree : Node} {p here target : String}
    {depth : Nat} {chain : List String} {s : Site} {d r : Node} {l : List String}
    (hs : sites tree = [s]) (hd : depth < maxDepth) (hhere : Path.absolute w.cwd p = here)
    (ht : targetOf w.cwd (Path.dirname here) s = target) (hoff : target ∉ chain ++ [here])
    (hdoc : document w c target = some d)
    (hrun : eval (resolveTree c record fuel d (some target) (depth + 1) (chain ++ [here])) w =
      (.ok r, l)) :
    eval (resolveTree c record (fuel + 1) tree (some p) depth chain) w =
      (.ok (replaceAll tree [(s, r)]), (if record then [target] else []) ++ l) := by
  subst hhere ht
  rw [eval_resolveTree_of_ok (d := fun _ => d) (r := fun _ => r) (l := fun _ => l)
    (by simp [hs]) hd fun s' hs' => by
      rw [hs, List.mem_singleton] at hs'
      subst hs'
      exact ⟨hoff, hdoc, hrun⟩, hs]
  simp

/-- A level whose first directive names a file on the chain fails there, with the cycle. -/
theorem eval_resolveTree_cycle {fuel : Nat} {tree : Node} {p : String} {depth : Nat}
    {chain : List String} {s : Site} {rest : List Site} (hs : sites tree = s :: rest)
    (hd : depth < maxDepth)
    (hmem : targetOf w.cwd (Path.dirname (Path.absolute w.cwd p)) s ∈
      chain ++ [Path.absolute w.cwd p]) :
    eval (resolveTree c record (fuel + 1) tree (some p) depth chain) w =
      (.error (cycleFailure (chain ++ [Path.absolute w.cwd p]) s
        (targetOf w.cwd (Path.dirname (Path.absolute w.cwd p)) s)), []) := by
  rw [eval_resolveTree_sites (by simp [hs]) hd]
  dsimp only
  rw [hs, eval_mapM_cons_error (frames_resolveSite _ fun t => frames_resolveTree _ t _ _ _)
    (eval_resolveSite_cycle hmem)]
  rfl

end Tree

/-- Resolving a tree on a world leaves the world as it is; it gives the tree of the
resolution and what it records. -/
theorem resolve_run (c : Compiler) (record : Bool) (tree : Node) (path : Option String)
    (w : World) :
    (resolve c record tree path : StateM World _).run w =
      ((eval (resolveTree c record (maxDepth + 1) tree path 0 []) w).1.map
        (·, (eval (resolveTree c record (maxDepth + 1) tree path 0 []) w).2), w) := by
  have hframes : Frames (resolveTree c record (maxDepth + 1) tree path 0 []) w :=
    frames_resolveTree _ _ _ _ _
  have h := hframes.exec_eq []
  unfold exec at h
  unfold resolve
  rw [StateT.run_bind, h]
  rfl

/-- Resolving succeeds exactly when the resolution of the host level does, leaving the world as
it is. -/
theorem eval_of_resolve_ok {c : Compiler} {record : Bool} {tree t : Node} {path : Option String}
    {w w' : World} {deps : List String}
    (h : (resolve c record tree path : StateM World _).run w = (.ok (t, deps), w')) :
    w' = w ∧ eval (resolveTree c record (maxDepth + 1) tree path 0 []) w = (.ok t, deps) := by
  rw [resolve_run] at h
  revert h
  rcases eval (resolveTree c record (maxDepth + 1) tree path 0 []) w with ⟨e | r, l⟩
  · intro h
    cases h
  · intro h
    cases h
    exact ⟨rfl, rfl⟩

/-- Resolving fails exactly when the resolution of the host level does, leaving the world as it
is. -/
theorem eval_of_resolve_error {c : Compiler} {record : Bool} {tree : Node} {path : Option String}
    {w w' : World} {e : Error}
    (h : (resolve c record tree path : StateM World _).run w = (.error e, w')) :
    w' = w ∧ ∃ l, eval (resolveTree c record (maxDepth + 1) tree path 0 []) w = (.error e, l) := by
  rw [resolve_run] at h
  revert h
  rcases eval (resolveTree c record (maxDepth + 1) tree path 0 []) w with ⟨e' | r, l⟩
  · intro h
    cases h
    exact ⟨rfl, l, rfl⟩
  · intro h
    cases h

/-! ## Fuel -/

section Fuel

variable {m : Type → Type} [Monad m] [LawfulMonad m] [Host m]

/-- The fuel of `resolveTree` is never what stops it: past the depth left before `maxDepth`,
more fuel gives the same computation, so resolving is the unbounded recursion, which goes at
most `maxDepth` levels below the document it starts from. -/
theorem resolveTree_fuel (c : Compiler) (record : Bool) :
    ∀ (fuel fuel' : Nat) (tree : Node) (path : Option String) (depth : Nat)
      (chain : List String), maxDepth - depth < fuel → maxDepth - depth < fuel' →
      resolveTree (m := m) c record fuel tree path depth chain =
        resolveTree c record fuel' tree path depth chain
  | 0, _, _, _, _, _, h, _ => absurd h (Nat.not_lt_zero _)
  | _, 0, _, _, _, _, _, h' => absurd h' (Nat.not_lt_zero _)
  | fuel + 1, fuel' + 1, tree, path, depth, chain, h, h' => by
    rw [resolveTree, resolveTree]
    split
    · rfl
    · split
      · dsimp only
        split
        · rw [ExceptT.bind_throw, ExceptT.bind_throw]
        · -- below a level with room to nest, both fuels still exceed the depth left
          have ih : ∀ t p ch, resolveTree (m := m) c record fuel t p (depth + 1) ch =
              resolveTree c record fuel' t p (depth + 1) ch := fun t p ch =>
            resolveTree_fuel c record fuel fuel' t p (depth + 1) ch (by omega) (by omega)
          have hsite : ∀ cwd baseDir ch,
              resolveSite (resolveTree (m := m) c record fuel) c record cwd baseDir depth ch =
                resolveSite (resolveTree c record fuel') c record cwd baseDir depth ch := by
            intro cwd baseDir ch
            funext site
            simp only [resolveSite, ih]
          simp only [hsite]
      · rfl

end Fuel

end Include

end Manuscript
