import Manuscript.Proofs.Document.Vocabulary
import Manuscript.Proofs.Compiler.Transform
import Manuscript.Proofs.Include.Cycles
import Manuscript.Proofs.Include.Loading

/-!
# Read trees always compile

The generator handles every kind with a name of its own, so on a named tree (`Node.Named`) it
never fails with a compile error: each step of `Program.expression` succeeds from every state
(`Program.expression_runs`), and generating a whole program fails only in writing the front
matter of the file as data (`Program.generate_error`).

Read trees are named (`Reader.parse_named`), and so are the expansions of their include
directives: an included document is a read tree with its positions moved (`document_named`),
and splicing named trees into a named tree keeps it named (`substitute_named`,
`Expanded.named`). No other step raises a compile error either: resolving fails only with
the failures of its directives (`Raises.not_isCompile`), so processing a document raises no
compile error on any input (`Compiler.process_not_isCompile`).
-/

namespace Manuscript

open Manuscript.Node

/-- A compile error: a tree the generator cannot turn into a program. -/
def Error.IsCompile (e : Error) : Prop := ∃ message, e = .compile message

theorem Error.IsParse.not_isCompile {e : Error} (h : e.IsParse) : ¬ e.IsCompile := by
  obtain ⟨detail, path, line, rfl⟩ := h
  rintro ⟨_, h⟩
  cases h

theorem FailsWith.imp {α : Type} {P Q : Error → Prop} {x : Except Error α} (h : FailsWith P x)
    (hPQ : ∀ e, P e → Q e) : FailsWith Q x :=
  fun e he => hPQ e (h e he)

theorem FrontMatter.loadFailure_not_isCompile (matter : String) (path : Option String)
    (e : Yaml.LoadError) : ¬ (FrontMatter.loadFailure matter path e).IsCompile := by
  rintro ⟨_, h⟩
  cases e <;> cases h

/-! ## Splicing keeps trees named -/

theorem mapPositions_named (f : Position → Position) {n : Node} (hn : n.Named) :
    (n.mapPositions f).Named := by
  induction n using Node.childrenInduction with
  | node n ih =>
    rw [Node.mapPositions]
    refine Named.of_children hn.kind fun _ hm => ?_
    obtain ⟨c, hc, rfl⟩ := List.mem_map.1 hm
    exact ih c hc (hn.children c hc)

namespace Include

/-- Substituting named trees for the directives of a named tree keeps it named. -/
theorem substitute_named (f : String → Node) {n : Node} (hn : n.Named)
    (hf : ∀ p ∈ specifiers n, (f p).Named) : (substitute f n).Named := by
  induction n using Node.childrenInduction with
  | node n ih =>
    cases hd : isDirective n
    · rw [specifiers_of_not_directive hd] at hf
      rw [substitute_of_not_directive f hd]
      refine Named.of_children hn.kind fun _ hm => ?_
      obtain ⟨c, hc, rfl⟩ := List.mem_map.1 hm
      exact ih c hc (hn.children c hc) fun p hp =>
        hf p (List.mem_flatten.2 ⟨_, List.mem_map_of_mem hc, hp⟩)
    · rw [specifiers_of_directive hd] at hf
      rw [substitute_of_directive f hd]
      cases hnm : named n with
      | none => exact hn
      | some p => exact hf p (by simp [hnm])

/-- An included document is a read tree with its positions moved. -/
theorem document_named {w : World} {c : Compiler} {target : String} {doc : Node}
    (h : document w c target = some doc) : doc.Named := by
  simp only [document, Option.bind_eq_bind, Option.bind_eq_some_iff, Option.pure_def,
    Option.some.injEq] at h
  obtain ⟨content, -, matter, -, tree, htree, rfl⟩ := h
  cases hp : c.parse matter.content with
  | error e => rw [hp] at htree; cases htree
  | ok t =>
    rw [hp] at htree
    obtain rfl : t = tree := Option.some.inj htree
    exact mapPositions_named _ (c.reader.parse_named _ t hp)

/-- The expansion of a named tree is named. -/
theorem Expanded.named {w : World} {c : Compiler} {path : Option String} {tree t : Node}
    {ts : List String} (h : Expanded w c path tree t ts) (ht : tree.Named) : t.Named := by
  induction h with
  | plain _ => exact ht
  | expand d f g _ hd _ ih =>
    exact substitute_named f ht fun q hq => ih q hq (document_named (hd q hq))

end Include

/-! ## Generating a named tree -/

namespace Program

variable {α β : Type}

/-- A generation step that succeeds from every state. -/
def Runs (x : Gen α) : Prop := ∀ s, ∃ a s', x.run s = .ok (a, s')

theorem runs_pure (a : α) : Runs (pure a : Gen α) := fun s => ⟨a, s, rfl⟩

theorem Runs.bind {x : Gen α} {f : α → Gen β} (hx : Runs x) (hf : ∀ a, Runs (f a)) :
    Runs (x >>= f) := by
  intro s
  obtain ⟨a, s', h⟩ := hx s
  obtain ⟨b, s'', h'⟩ := hf a s'
  exact ⟨b, s'', by rw [StateT.run_bind, h]; exact h'⟩

theorem runs_modify (g : State → State) : Runs (modify g : Gen Unit) := fun s => ⟨(), g s, rfl⟩

theorem runs_tagRef (name : String) : Runs (tagRef name) :=
  (runs_modify _).bind fun _ => runs_pure _

theorem runs_builtin (tag : String) : Runs (builtin tag) :=
  (runs_tagRef tag).bind fun _ => runs_pure _

theorem runs_componentRef (name : String) : Runs (componentRef name) := by
  unfold componentRef
  split
  · split
    · exact runs_tagRef name
    · exact runs_pure _
  · exact runs_pure _

theorem runs_mapM {f : α → Gen β} : ∀ {as : List α}, (∀ a ∈ as, Runs (f a)) → Runs (as.mapM f)
  | [], _ => runs_pure []
  | a :: as, h => by
    rw [List.mapM_cons]
    exact (h a List.mem_cons_self).bind fun b =>
      (runs_mapM fun a' ha' => h a' (List.mem_cons_of_mem a ha')).bind fun bs => runs_pure _

/-- Every kind with a name of its own has a shape: only a kind kept from outside is refused. -/
theorem shapeOf_runs (o : Options) {n : Node} (hk : ∀ s, n.kind ≠ .other s) (depth : Nat) :
    Runs (shapeOf o n depth) := by
  unfold shapeOf
  split
  · exact runs_pure _
  · exact runs_pure _
  · split
    · exact runs_pure _
    · exact runs_builtin _
  · exact runs_builtin _
  · exact (runs_tagRef _).bind fun _ => runs_pure _
  · exact (runs_tagRef _).bind fun _ => runs_pure _
  · exact (runs_tagRef _).bind fun _ => (runs_tagRef _).bind fun _ => runs_pure _
  · exact (runs_tagRef _).bind fun _ => runs_pure _
  · exact (runs_tagRef _).bind fun _ => runs_pure _
  · exact (runs_tagRef _).bind fun _ => runs_pure _
  · exact (runs_modify _).bind fun _ => (runs_tagRef _).bind fun _ => runs_pure _
  · exact (runs_componentRef _).bind fun _ => runs_pure _
  · exact (runs_componentRef _).bind fun _ => runs_pure _
  · exact runs_pure _
  · exact runs_pure _
  · exact runs_pure _
  · exact runs_builtin _
  · exact runs_builtin _
  · exact runs_builtin _
  · exact runs_builtin _
  · exact runs_builtin _
  · exact runs_builtin _
  · exact runs_builtin _
  · exact runs_builtin _
  · exact runs_builtin _
  · next name hother => exact absurd hother (hk name)

/-- A named tree has a program expression from every state. -/
theorem expression_runs (o : Options) {n : Node} (hn : n.Named) (depth : Nat) :
    Runs (expression o n depth) := by
  induction n using Node.childrenInduction generalizing depth with
  | node n ih =>
    rw [expression]
    refine (shapeOf_runs o hn.kind depth).bind fun shape => ?_
    cases shape with
    | element tag props =>
      exact (runs_mapM fun c _ => ih c.1 c.2 (hn.children c.1 c.2) (depth + 1)).bind fun _ =>
        runs_pure _
    | call tag props children => exact runs_pure _
    | code text => exact runs_pure _
    | nothing => exact runs_pure _

theorem Json.intText_failsWith (n : Int) :
    FailsWith (fun e => ∃ m, e = .badArguments m ∨ e = .badValue m) (Json.intText n) := by
  unfold Json.intText
  split
  · exact failsWith_error ⟨_, .inr rfl⟩
  · exact failsWith_ok _

theorem Json.keyText_failsWith (k : Value) :
    FailsWith (fun e => ∃ m, e = .badArguments m ∨ e = .badValue m) (Json.keyText k) := by
  cases k with
  | int n => exact Json.intText_failsWith n
  | str _ | float _ | bool _ | null => exact failsWith_ok _
  | bytes _ | date _ | timestamp _ | list _ | set _ | dict _ | callable _ =>
    exact failsWith_error ⟨_, .inl rfl⟩

/-- Writing JSON fails only on a key of a kind JSON has no key for, or on an integer too long to
write. -/
theorem Json.write_failsWith (st : Json.Style) :
    ∀ v : Value, FailsWith (fun e => ∃ m, e = .badArguments m ∨ e = .badValue m) (Json.write st v)
  | .int n => by
    rw [Json.write]
    exact Json.intText_failsWith n
  | .list xs => by
    rw [Json.write]
    exact (failsWith_mapM fun x _ => Json.write_failsWith st x).bind fun _ => failsWith_ok _
  | .dict kvs => by
    rw [Json.write]
    refine (failsWith_mapM fun entry _ => ?_).bind fun _ => failsWith_ok _
    exact (Json.keyText_failsWith entry.1.1).bind fun _ =>
      (Json.write_failsWith st entry.1.2).bind fun _ => failsWith_ok _
  | .null | .bool _ | .float _ | .str _ | .bytes _ | .date _ | .timestamp _ | .set _
  | .callable _ => by
    simp only [Json.write]
    exact failsWith_ok _
termination_by v => sizeOf v
decreasing_by
  · exact Value.sizeOf_lt_list ‹_›
  · exact Value.sizeOf_snd_lt_dict (Json.mem_orderedEntries entry.2)

/-- Writing data as a program literal fails only on a value that JSON cannot hold, or on text
that does not read back. -/
theorem dataLiteral_failsWith (v : Value) :
    FailsWith (fun e => ∃ m, e = .badArguments m ∨ e = .badValue m) (dataLiteral v) := by
  unfold dataLiteral
  split
  · next e hwrite => exact failsWith_error (Json.write_failsWith _ v e hwrite)
  · split
    · exact failsWith_ok _
    · exact failsWith_error ⟨_, .inr rfl⟩

/-- Generating the program of a named tree fails only in writing the front matter of the file
as data. -/
theorem generate_error (o : Options) {tree : Node} (h : tree.Named) (file : SourceFile) :
    FailsWith (fun e => ∃ m, e = .badArguments m ∨ e = .badValue m) (generate o tree file) := by
  obtain ⟨body, st, hrun⟩ := expression_runs o h 1 {}
  unfold generate
  dsimp only
  rw [hrun]
  exact (dataLiteral_failsWith _).bind fun _ => failsWith_ok _

end Program

/-! ## Nothing else raises a compile error -/

namespace Include

variable {w : World} {c : Compiler}

theorem load_not_isCompile (site : Site) (target : String) :
    FailsWith (fun e => ¬ e.IsCompile) (eval (load c site target : Resolving (StateM World) _) w).1 :=
  load_failsWith_of c site target (fun _ ⟨_, h⟩ => by cases h) (fun ⟨_, h⟩ => by cases h)
    (fun matter e => FrontMatter.loadFailure_not_isCompile matter _ e)
    (fun _ ⟨_, h⟩ => by cases h) fun _ he => (he.withPath target).not_isCompile

/-- Every failure of a directive is an include failure or a failure of loading, never a compile
error. -/
theorem Raises.not_isCompile {host : Option String} {root : Node} {e : Error}
    (h : Raises w c host root e) : ¬ e.IsCompile := by
  cases h with
  | noPath s _ _ _ => rintro ⟨_, h⟩; cases h
  | deep s _ _ _ _ => rintro ⟨_, h⟩; cases h
  | cycle s _ _ _ _ => rintro ⟨_, h⟩; cases h
  | load s _ _ _ _ _ hl => exact load_not_isCompile s _ e (by rw [hl])

/-- Resolving the directives of a tree never fails with a compile error. -/
theorem resolve_not_isCompile (record : Bool) (tree : Node) (path : Option String) :
    FailsWith (fun e => ¬ e.IsCompile) ((resolve c record tree path : StateM World _).run w).1 := by
  intro e he
  have htraced := traced_resolveTree record (maxDepth + 1)
    (Reaches.host : Reaches w c path tree [] path tree)
  rw [List.length_nil] at htraced
  obtain ⟨R, hR⟩ : ∃ R, (resolve c record tree path : StateM World _).run w = (R, w) :=
    ⟨_, resolve_run c record tree path w⟩
  rw [hR] at he
  subst he
  obtain ⟨-, l, hrun⟩ := eval_of_resolve_error hR
  rw [hrun] at htraced
  exact (htraced.1 e rfl).not_isCompile

end Include

namespace Compiler

open Include

/-- Processing a document raises no compile error, whatever its text, its compiler and the
files it includes. -/
theorem process_not_isCompile (c : Compiler) (file : SourceFile) (record : Bool) (w : World) :
    FailsWith (fun e => ¬ e.IsCompile) ((c.process file record : StateM World _).run w).1 := by
  unfold process
  split
  · next e hparse => exact failsWith_error (c.reader.parse_failsWith _ e hparse).not_isCompile
  · next tree hparse =>
    have htree := c.reader.parse_named _ tree hparse
    rw [StateT.run_bind, transform_run]
    split
    · obtain ⟨R, hR⟩ : ∃ R, (resolve c record tree file.path : StateM World _).run w = (R, w) :=
        ⟨_, resolve_run c record tree file.path w⟩
      rw [hR]
      rcases R with e | ⟨t, deps⟩
      · exact failsWith_error (resolve_not_isCompile record tree file.path e (by rw [hR]))
      · -- the program is generated from the expansion, a named tree
        obtain ⟨-, ts, hx, -⟩ := expanded_of_resolve hR
        exact ((Program.generate_error _ (hx.named htree) file).map _).imp
          fun e ⟨m, hm⟩ ⟨_, hc⟩ => by rcases hm with rfl | rfl <;> cases hc
    · exact ((Program.generate_error _ htree file).map _).imp
        fun e ⟨m, hm⟩ ⟨_, hc⟩ => by rcases hm with rfl | rfl <;> cases hc

end Compiler

open Include in
/-- The trees the reader builds are in the vocabulary of the generator, before and after their
includes are resolved, so generating their program raises no compile error. -/
theorem generator_accepts_read_trees :
    (∀ (r : Document.Reader) (text : String) (tree : Node), r.parse text = .ok tree →
      tree.Named) ∧
    (∀ (o : Program.Options) (n : Node) (depth : Nat) (s : Program.State), n.Named →
      ∃ code s', (Program.expression o n depth).run s = .ok (code, s')) ∧
    (∀ (c : Compiler) (text : String) (tree t : Node) (record : Bool) (path : Option String)
        (w w' : World) (deps : List String), c.parse text = .ok tree →
      (resolve c record tree path : StateM World _).run w = (.ok (t, deps), w') →
      ∀ (o : Program.Options) (file : SourceFile) (message : String),
        Program.generate o t file ≠ .error (.compile message)) ∧
    (∀ (c : Compiler) (file : SourceFile) (record : Bool) (w : World) (message : String),
      ((c.process file record : StateM World _).run w).1 ≠ .error (.compile message)) := by
  refine ⟨fun r text tree h => r.parse_named text tree h,
    fun o n depth s hn => Program.expression_runs o hn depth s, ?_,
    fun c file record w message h => c.process_not_isCompile file record w _ h ⟨message, rfl⟩⟩
  intro c text tree t record path w w' deps hparse hres o file message hgen
  obtain ⟨-, ts, hx, -⟩ := expanded_of_resolve hres
  obtain ⟨m, hm⟩ := Program.generate_error o (hx.named (c.reader.parse_named text tree hparse))
    file _ hgen
  rcases hm with h | h <;> cases h

open Include in
theorem generator_accepts_book :
    commonmarkCompiler.parse "<include>sub/b.mdx</include>" = .ok (directiveLine "sub/b.mdx") ∧
    ∃ t, (resolve commonmarkCompiler true (directiveLine "sub/b.mdx") (some "a.mdx") :
        StateM World _).run bookWorld = (.ok (t, ["/vfs/sub/b.mdx", "/vfs/sub/c.mdx"]), bookWorld) ∧
      ∀ (o : Program.Options) (file : SourceFile) (message : String),
        Program.generate o t file ≠ .error (.compile message) := by
  have hparse : commonmarkCompiler.parse "<include>sub/b.mdx</include>" =
      .ok (directiveLine "sub/b.mdx") :=
    commonmarkCompiler_parse_directive (by decide) (by decide) (List.all_eq_true.1 rfl)
      (by decide)
  exact ⟨hparse, _, resolve_book,
    generator_accepts_read_trees.2.2.1 _ _ _ _ _ _ _ _ _ hparse resolve_book⟩

end Manuscript
