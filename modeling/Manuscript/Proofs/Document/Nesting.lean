import Manuscript.Document.Reader
import Manuscript.Proofs.Except

/-!
# Component tags nest as brackets

With components, a run of blocks is folded with a stack of open elements (`Reader.blockFold`).
Read without the stack, the run is a list of events (`Reader.blockEvents`). A block other than
raw HTML is one converted node. A raw HTML block is read tag by tag from the head of what is left
of it: an element that the block does not close opens, a closing tag closes, and the rest gives
converted nodes (an element closed in its own block, with its inner markup read again, and the
text after the last tag, read again as blocks).

The fold returns a forest exactly when every event is read and the events nest as brackets with
equal names (`Nests`), and the forest is then the one the brackets describe: each node stands,
in order, among the children of the innermost element open where it is read, and each element
holds exactly what lies between its opening tag and its matching closing tag. When every event
is read, the names alone decide: the fold fails at a closing tag with nothing open, at one that
names another element than the innermost open one, and when an element is still open at the end
(`openAfter`). Both are `Reader.blocks_nest_by_their_tags`.

That every event is read is part of the condition: a converted node can fail on its own, so a
closing tag inside a paragraph fails a run that holds no raw HTML block at all
(`Reader.stray_closing_tag_fails`).
-/

namespace Manuscript

/-- The element `e` closed in the block at `pos`, holding `cs`: it ends where that block ends. -/
def Node.closedAt (e : Node) (cs : List Node) (pos : Position) : Node :=
  { e with children := cs, position := e.position.map fun p => { p with endLine := pos.endLine } }

namespace Document

open Manuscript.Text Manuscript.Markdown

/-- What a run of blocks says to the fold of its elements, read without the stack. -/
inductive Event where
  /-- A converted node, placed where it is read. -/
  | node (n : Node)
  /-- An element whose closing tag comes in a later block. -/
  | enter (e : Node)
  /-- A closing tag at the head of what is left of the raw HTML block at `pos`. -/
  | leave (name : String) (pos : Position)

/-- The events `ps` nest as brackets with equal names into the forest `ns`: a node stands where
it is read, and an element holds what lies between its opening tag and its matching closing
tag. -/
inductive Nests : List Event → List Node → Prop
  | nil : Nests [] []
  | node (n : Node) {ps : List Event} {ns : List Node} :
      Nests ps ns → Nests (.node n :: ps) (n :: ns)
  | element (e : Node) (name : String) (pos : Position) {inner rest : List Event}
      {cs ns : List Node} :
      e.name = some name → Nests inner cs → Nests rest ns →
      Nests (.enter e :: (inner ++ .leave name pos :: rest)) (e.closedAt cs pos :: ns)

/-- The names of the elements open after the events, innermost first, when `stack` is open
before them; `none` at a closing tag with nothing open, or naming another element than the
innermost open one. -/
def openAfter : List (Option String) → List Event → Option (List (Option String))
  | stack, [] => some stack
  | stack, .node _ :: ps => openAfter stack ps
  | stack, .enter e :: ps => openAfter (e.name :: stack) ps
  | [], .leave _ _ :: _ => none
  | top :: stack, .leave name _ :: ps => if top = some name then openAfter stack ps else none

namespace Fold

/-- The fold with `e` open innermost, holding `cs` so far. -/
def push (f : Fold) (e : Node) (cs : Array Node) : Fold :=
  { f with opened := (e, cs) :: f.opened }

/-- One event read by the fold: a node is added, an element opened, and a closing tag closes
the innermost open element when it names it. -/
def step (f : Fold) : Event → Except Error Fold
  | .node n => .ok (f.add n)
  | .enter e => .ok (f.enter e)
  | .leave name pos =>
    match f.innermost? with
    | none => .error (unexpectedClose name (some pos.startLine))
    | some e =>
      if e.name != some name then
        .error (mismatchedClose name (e.name.getD "None") (some pos.startLine))
      else .ok (f.leave id (some pos.endLine))

/-- The names of the open elements, innermost first. -/
def openNames (f : Fold) : List (Option String) :=
  f.opened.map (·.1.name)

section Lemmas

variable (f : Fold) (e n : Node) (cs : Array Node)

@[simp] theorem enter_eq_push : f.enter e = f.push e #[] := rfl

@[simp] theorem push_add : (f.push e cs).add n = f.push e (cs.push n) := rfl

@[simp] theorem innermost_push : (f.push e cs).innermost? = some e := rfl

@[simp] theorem openNames_push : (f.push e cs).openNames = e.name :: f.openNames := rfl

theorem addAll_cons (ns : List Node) : f.addAll (n :: ns) = (f.add n).addAll ns := rfl

theorem push_addAll (ns : List Node) :
    (f.push e cs).addAll ns = f.push e (cs ++ ns.toArray) := by
  induction ns generalizing cs with
  | nil => simp [addAll]
  | cons m ns ih =>
    rw [addAll_cons, push_add, ih]
    simp

theorem push_leave (pos : Position) :
    (f.push e cs).leave id (some pos.endLine) = f.add (e.closedAt cs.toList pos) := by
  unfold leave Node.closedAt push
  dsimp only
  cases e.position <;> rfl

@[simp] theorem openNames_add : (f.add n).openNames = f.openNames := by
  unfold add openNames
  split <;> simp_all

theorem openNames_eq_nil_iff : f.openNames = [] ↔ f.opened = [] := by
  simp [openNames]

/-- With nothing open, added nodes are finished nodes. -/
theorem addAll_of_opened_nil {f : Fold} (h : f.opened = []) (ns : List Node) :
    f.addAll ns = { done := f.done ++ ns.toArray, opened := [] } := by
  induction ns generalizing f with
  | nil => cases f; simp_all [addAll]
  | cons m ns ih =>
    have hadd : (f.add m).opened = [] := by simp [add, h]
    rw [addAll_cons, ih hadd]
    simp [add, h]

end Lemmas

theorem step_node (f : Fold) (n : Node) : f.step (.node n) = .ok (f.add n) := rfl

theorem step_enter (f : Fold) (e : Node) : f.step (.enter e) = .ok (f.push e #[]) := rfl

theorem step_leave_push (f : Fold) {e : Node} (cs : Array Node) {name : String} (pos : Position)
    (hname : e.name = some name) :
    (f.push e cs).step (.leave name pos) = .ok (f.add (e.closedAt cs.toList pos)) := by
  simp [step, hname, push_leave]

/-- Reading converted nodes adds them. -/
theorem foldlM_step_nodes (ns : List Node) (f : Fold) :
    (ns.map Event.node).foldlM step f = .ok (f.addAll ns) := by
  induction ns generalizing f with
  | nil => rfl
  | cons n ns ih => exact ih (f.add n)

end Fold

/-! ## Brackets and the stack -/

/-- Events that nest are read by the fold as their forest, added where the fold stands. -/
theorem Nests.foldlM_step {ps : List Event} {ns : List Node} (h : Nests ps ns) :
    ∀ f : Fold, ps.foldlM Fold.step f = .ok (f.addAll ns) := by
  induction h with
  | nil => intro f; rfl
  | node n _ ih => intro f; exact ih (f.add n)
  | element e name pos hname _ _ ihInner ihRest =>
    intro f
    rw [List.foldlM_cons, Fold.step_enter, Except.ok_bind, List.foldlM_append, ihInner,
      Except.ok_bind, Fold.push_addAll, List.foldlM_cons,
      Fold.step_leave_push f _ pos hname, Except.ok_bind, ihRest]
    simp [Fold.addAll_cons]

/-- Events read from a fold with `e` open, that leave no more open than were open under `e`,
close `e` at a closing tag after a run that nests. -/
theorem foldlM_step_push_closes :
    ∀ (ps : List Event) {f g : Fold} {e : Node} {cs : Array Node},
      ps.foldlM Fold.step (f.push e cs) = .ok g → g.opened.length ≤ f.opened.length →
      ∃ inner name pos rest ms, ps = inner ++ .leave name pos :: rest ∧ Nests inner ms ∧
        e.name = some name ∧
        rest.foldlM Fold.step (f.add (e.closedAt (cs.toList ++ ms) pos)) = .ok g
  | [], f, g, e, cs, h, hdepth => by
    cases h
    simp only [Fold.push, List.length_cons] at hdepth
    omega
  | .node n :: ps, f, g, e, cs, h, hdepth => by
    obtain ⟨inner, name, pos, rest, ms, rfl, hinner, hname, hrest⟩ :=
      foldlM_step_push_closes ps h hdepth
    refine ⟨.node n :: inner, name, pos, rest, n :: ms, rfl, .node n hinner, hname, ?_⟩
    simpa using hrest
  | .enter e' :: ps, f, g, e, cs, h, hdepth => by
    rw [List.foldlM_cons, Fold.step_enter, Except.ok_bind] at h
    obtain ⟨inner₁, name₁, pos₁, rest₁, ms₁, hps, hinner₁, hname₁, hrest₁⟩ :=
      foldlM_step_push_closes ps h (by simp [Fold.push]; omega)
    have hshorter : rest₁.length < ps.length := by
      rw [hps]
      simp only [List.length_append, List.length_cons]
      omega
    rw [Fold.push_add] at hrest₁
    obtain ⟨inner₂, name, pos, rest, ms₂, rfl, hinner₂, hname, hrest⟩ :=
      foldlM_step_push_closes rest₁ hrest₁ hdepth
    subst hps
    refine ⟨.enter e' :: (inner₁ ++ .leave name₁ pos₁ :: inner₂), name, pos, rest,
      e'.closedAt ms₁ pos₁ :: ms₂, by simp, .element e' name₁ pos₁ hname₁ hinner₁ hinner₂,
      hname, ?_⟩
    simpa using hrest
  | .leave name pos :: ps, f, g, e, cs, h, _ => by
    by_cases hname : e.name = some name
    · rw [List.foldlM_cons, Fold.step_leave_push f cs pos hname, Except.ok_bind] at h
      exact ⟨[], name, pos, ps, [], rfl, .nil, hname, by simpa using h⟩
    · have herr : (f.push e cs).step (.leave name pos) =
          .error (mismatchedClose name (e.name.getD "None") (some pos.startLine)) := by
        simp [Fold.step, hname]
      rw [List.foldlM_cons, herr, Except.error_bind] at h
      cases h
termination_by ps => ps.length
decreasing_by all_goals (simp only [List.length_cons]; omega)

/-- Events read from a fold with nothing open, that leave nothing open, nest. -/
theorem foldlM_step_nests :
    ∀ (ps : List Event) {f g : Fold}, f.opened = [] →
      ps.foldlM Fold.step f = .ok g → g.opened = [] → ∃ ns, Nests ps ns ∧ g = f.addAll ns
  | [], f, g, _, h, _ => by
    cases h
    exact ⟨[], .nil, rfl⟩
  | .node n :: ps, f, g, hf, h, hg => by
    have hadd : (f.add n).opened = [] := by simp [Fold.add, hf]
    obtain ⟨ns, hns, rfl⟩ := foldlM_step_nests ps hadd h hg
    exact ⟨n :: ns, .node n hns, rfl⟩
  | .enter e :: ps, f, g, hf, h, hg => by
    rw [List.foldlM_cons, Fold.step_enter, Except.ok_bind] at h
    obtain ⟨inner, name, pos, rest, ms, hps, hinner, hname, hrest⟩ :=
      foldlM_step_push_closes ps h (by simp [hg])
    have hshorter : rest.length < ps.length := by
      rw [hps]
      simp only [List.length_append, List.length_cons]
      omega
    have hadd : (f.add (e.closedAt ms pos)).opened = [] := by simp [Fold.add, hf]
    obtain ⟨ns, hns, rfl⟩ := foldlM_step_nests rest hadd (by simpa using hrest) hg
    subst hps
    exact ⟨e.closedAt ms pos :: ns, .element e name pos hname hinner hns, rfl⟩
  | .leave name pos :: ps, f, g, hf, h, _ => by
    have herr : f.step (.leave name pos) = .error (unexpectedClose name (some pos.startLine)) := by
      simp [Fold.step, Fold.innermost?, hf]
    rw [List.foldlM_cons, herr, Except.error_bind] at h
    cases h
termination_by ps => ps.length
decreasing_by all_goals (simp only [List.length_cons]; omega)

/-- Events read from nothing open nest exactly when the fold of them, closed, gives a forest,
and that forest is theirs. -/
theorem foldlM_step_closeBlocks_eq_ok_iff {ps : List Event} {ns : List Node} :
    (ps.foldlM Fold.step {} >>= Reader.closeBlocks) = .ok ns ↔ Nests ps ns := by
  have hclose : ∀ g : Fold, g.opened = [] → Reader.closeBlocks g = .ok g.done.toList := by
    intro g hg
    simp [Reader.closeBlocks, Fold.innermost?, hg]
  constructor
  · intro h
    obtain ⟨g, hg, hdone⟩ := Except.bind_eq_ok.1 h
    have hopen : g.opened = [] := by
      unfold Reader.closeBlocks Fold.innermost? at hdone
      cases hopened : g.opened with
      | nil => rfl
      | cons top rest => simp [hopened] at hdone
    obtain ⟨ms, hms, rfl⟩ := foldlM_step_nests ps rfl hg hopen
    rw [hclose _ hopen, Fold.addAll_of_opened_nil rfl] at hdone
    cases hdone
    simpa using hms
  · intro h
    rw [h.foldlM_step {}, Except.ok_bind, Fold.addAll_of_opened_nil rfl, hclose _ rfl]
    simp

/-- The fold of events keeps the names of the open elements as `openAfter` does. -/
theorem openAfter_foldlM_step :
    ∀ (ps : List Event) (f : Fold),
      (ps.foldlM Fold.step f).toOption.map Fold.openNames = openAfter f.openNames ps
  | [], _ => rfl
  | .node n :: ps, f => by
    rw [List.foldlM_cons, Fold.step_node, Except.ok_bind, openAfter_foldlM_step ps (f.add n),
      Fold.openNames_add]
    rfl
  | .enter e :: ps, f => by
    rw [List.foldlM_cons, Fold.step_enter, Except.ok_bind, openAfter_foldlM_step ps]
    rfl
  | .leave name pos :: ps, ⟨done, opened⟩ => by
    cases opened with
    | nil => rfl
    | cons top rest =>
      obtain ⟨e, cs⟩ := top
      have hpush : (⟨done, (e, cs) :: rest⟩ : Fold) = Fold.push ⟨done, rest⟩ e cs := rfl
      rw [hpush, Fold.openNames_push]
      by_cases hname : e.name = some name
      · rw [List.foldlM_cons, Fold.step_leave_push _ cs pos hname, Except.ok_bind,
          openAfter_foldlM_step ps, Fold.openNames_add]
        simp [openAfter, hname]
      · have herr : (Fold.push ⟨done, rest⟩ e cs).step (.leave name pos) =
            .error (mismatchedClose name (e.name.getD "None") (some pos.startLine)) := by
          simp [Fold.step, hname]
        rw [List.foldlM_cons, herr, Except.error_bind]
        simp [openAfter, hname]
        rfl

/-- Events nest exactly when, read by names alone, every closing tag closes the innermost open
element and nothing is left open. -/
theorem nests_iff_openAfter (ps : List Event) : (∃ ns, Nests ps ns) ↔ openAfter [] ps = some [] := by
  have hnames : openAfter [] ps = (ps.foldlM Fold.step {}).toOption.map Fold.openNames :=
    (openAfter_foldlM_step ps {}).symm
  rw [hnames]
  constructor
  · rintro ⟨ns, hns⟩
    rw [hns.foldlM_step {}, Fold.addAll_of_opened_nil rfl]
    rfl
  · intro h
    obtain ⟨g, hg, hnames⟩ := Option.map_eq_some_iff.1 h
    have hopen : g.opened = [] := (Fold.openNames_eq_nil_iff g).1 hnames
    obtain ⟨ns, hns, -⟩ := foldlM_step_nests ps rfl (Except.eq_ok_iff_toOption.2 hg) hopen
    exact ⟨ns, hns⟩

/-! ## The events of a run of blocks -/

namespace Reader

/-- The events of a raw HTML block, read tag by tag as `htmlBlock` reads them, without the
stack. -/
def htmlEvents (nested : Nested) (content : String) (pos : Position) :
    Except Error (List Event) :=
  let s := (trimBlank content).toList.toArray
  let lineOffset := pos.startLine - 1
  let rec loop : Nat → Nat → Bool → Except Error (List Event)
    | 0, _, _ => .ok []
    | fuel + 1, i, consumed =>
      if i < s.size then
        match closeTagAt s i with
        | some (name, stop) =>
          (Event.leave name pos :: ·) <$> loop fuel (skipWhile s isBlank stop) true
        | none =>
          match openTagAt s i with
          | none =>
            if !consumed then
              .ok [.node { kind := .html, value := some (trimCharsRight content ['\n']),
                           position := some pos }]
            else (·.map Event.node) <$> nested (sliceText s i s.size) true lineOffset
          | some tag =>
            let e := { elementOf .flowElement tag with
                       position := some ⟨pos.startLine, pos.endLine, none⟩ }
            if tag.selfClosing then
              (Event.node e :: ·) <$> loop fuel (skipWhile s isBlank tag.stop) true
            else
              let rest := s.extract tag.stop s.size
              match closingSpan rest tag.name with
              | none => (Event.enter e :: ·) <$> loop fuel (skipWhile s isBlank tag.stop) true
              | some (a, b) => do
                let inner := sliceText rest 0 a
                let children ← nested inner ((trimBlank inner).contains '\n') lineOffset
                (Event.node { e with children } :: ·) <$>
                  loop fuel (skipWhile s isBlank (tag.stop + b)) true
      else .ok []
  loop (s.size + 1) 0 false

/-- The events of one block, as `blockFold` reads it. -/
def blockEventsOf (r : Reader) (nested : Nested) (lines : Array String) (offset : Int)
    (topLevel : Bool) (b : BlockNode) : Except Error (List Event) :=
  match b with
  | .html ls content =>
    if r.components then htmlEvents nested content (positionOf ls offset)
    else (fun n => [Event.node n]) <$> r.blockNode nested lines offset b
  | .paragraph ls _ _ =>
    let raw := trimBlank ("\n".intercalate ((lines.extract ls.1 ls.2).toList))
    if topLevel && r.components && isModuleStatement raw then
      .ok [.node { kind := .esm, value := some raw, position := some (positionOf ls offset) }]
    else (fun n => [Event.node n]) <$> r.blockNode nested lines offset b
  | _ => (fun n => [Event.node n]) <$> r.blockNode nested lines offset b

/-- The events of a run of blocks, block after block. -/
def blockEvents (r : Reader) (nested : Nested) (lines : Array String) (offset : Int)
    (topLevel : Bool) (bs : List BlockNode) : Except Error (List Event) :=
  List.flatten <$> bs.mapM (r.blockEventsOf nested lines offset topLevel)

/-! ## The fold reads the events -/

section Agreement

variable {p : Event} {f g : Fold}

/-- An event read first, after a step that succeeds. -/
theorem toOption_cons_of_step (h : f.step p = .ok g) (L : Except Error (List Event)) :
    ((p :: ·) <$> L >>= fun ps => ps.foldlM Fold.step f).toOption =
      (L >>= fun ps => ps.foldlM Fold.step g).toOption := by
  cases L with
  | error e => rfl
  | ok ps => simp only [Except.map_ok, Except.ok_bind, List.foldlM_cons, h]

/-- An event read first, after a step that fails. -/
theorem toOption_cons_of_step_error {e : Error} (h : f.step p = .error e)
    (L : Except Error (List Event)) :
    ((p :: ·) <$> L >>= fun ps => ps.foldlM Fold.step f).toOption = none := by
  cases L with
  | error e => rfl
  | ok ps => simp only [Except.map_ok, Except.ok_bind, List.foldlM_cons, h]; rfl

/-- A converted node is one event. -/
theorem toOption_node (x : Except Error Node) (f : Fold) :
    (f.add <$> x).toOption =
      ((fun n => [Event.node n]) <$> x >>= fun ps => ps.foldlM Fold.step f).toOption := by
  cases x <;> rfl

end Agreement

/-- Reading a raw HTML block with the stack agrees, up to the error it reports, with reading its
events without the stack and then folding them. -/
theorem htmlBlock_loop_toOption (nested : Nested) (content : String) (pos : Position)
    (s : Array Char) (lineOffset : Int) (line : Option Int) :
    ∀ (fuel i : Nat) (consumed : Bool) (f : Fold),
      (htmlBlock.loop nested content pos s lineOffset line fuel i consumed f).toOption =
        (htmlEvents.loop nested content pos s lineOffset fuel i consumed >>= fun ps =>
          ps.foldlM Fold.step f).toOption
  | 0, _, _, _ => rfl
  | fuel + 1, i, consumed, f => by
    have ih := htmlBlock_loop_toOption nested content pos s lineOffset line fuel
    unfold htmlBlock.loop htmlEvents.loop
    by_cases hi : i < s.size
    · rw [if_pos hi, if_pos hi]
      rcases hclose : closeTagAt s i with _ | ⟨name, stop⟩
      · rcases hopen : openTagAt s i with _ | tag
        · -- no tag at the head: the block is one node, or its rest is read again
          cases consumed with
          | false => rfl
          | true =>
            simp only [Bool.not_true, Bool.false_eq_true, if_false]
            cases nested (sliceText s i s.size) true lineOffset with
            | error e => rfl
            | ok ns =>
              simp only [Except.map_ok, Except.ok_bind, Fold.foldlM_step_nodes]
              rfl
        · dsimp only
          by_cases hself : tag.selfClosing
          · rw [if_pos hself, if_pos hself, toOption_cons_of_step (Fold.step_node _ _)]
            exact ih _ _ _
          · rw [if_neg hself, if_neg hself]
            rcases hspan : closingSpan (s.extract tag.stop s.size) tag.name with _ | ⟨a, b⟩
            · rw [toOption_cons_of_step (Fold.step_enter _ _)]
              exact ih _ _ _
            · dsimp only
              cases nested (sliceText (s.extract tag.stop s.size) 0 a)
                  ((trimBlank (sliceText (s.extract tag.stop s.size) 0 a)).contains '\n')
                  lineOffset with
              | error e => rfl
              | ok children =>
                simp only [Except.ok_bind]
                rw [toOption_cons_of_step (Fold.step_node _ _)]
                exact ih _ _ _
      · -- a closing tag closes the innermost element when it names it
        dsimp only
        rcases hin : f.innermost? with _ | e
        · have hstep : f.step (.leave name pos) =
              .error (unexpectedClose name (some pos.startLine)) := by
            simp [Fold.step, hin]
          rw [toOption_cons_of_step_error hstep]
          rfl
        · dsimp only
          by_cases hne : (e.name != some name) = true
          · have hstep : f.step (.leave name pos) =
                .error (mismatchedClose name (e.name.getD "None") (some pos.startLine)) := by
              simp [Fold.step, hin, hne]
            rw [if_pos hne, toOption_cons_of_step_error hstep]
            rfl
          · have hstep : f.step (.leave name pos) = .ok (f.leave id (some pos.endLine)) := by
              simp [Fold.step, hin, hne]
            rw [if_neg hne, toOption_cons_of_step hstep]
            exact ih _ _ _
    · rw [if_neg hi, if_neg hi]
      rfl

theorem htmlBlock_toOption (nested : Nested) (content : String) (pos : Position) (f : Fold) :
    (htmlBlock nested content pos f).toOption =
      (htmlEvents nested content pos >>= fun ps => ps.foldlM Fold.step f).toOption :=
  htmlBlock_loop_toOption _ _ _ _ _ _ _ _ _ _

theorem blockEvents_cons (r : Reader) (nested : Nested) (lines : Array String) (offset : Int)
    (topLevel : Bool) (b : BlockNode) (rest : List BlockNode) :
    r.blockEvents nested lines offset topLevel (b :: rest) = (do
      let p ← r.blockEventsOf nested lines offset topLevel b
      let ps ← r.blockEvents nested lines offset topLevel rest
      return p ++ ps) := by
  unfold blockEvents
  rw [List.mapM_cons]
  cases r.blockEventsOf nested lines offset topLevel b with
  | error e => rfl
  | ok p =>
    cases rest.mapM (r.blockEventsOf nested lines offset topLevel) with
    | error e => rfl
    | ok ps => rfl

/-- A fold step followed by the fold of the rest agrees with reading both runs of events and
folding them. -/
theorem toOption_bind_seq {A : Except Error Fold} {B : Fold → Except Error Fold}
    {P Q : Except Error (List Event)} {f : Fold}
    (hA : A.toOption = (P >>= fun ps => ps.foldlM Fold.step f).toOption)
    (hB : ∀ g, (B g).toOption = (Q >>= fun qs => qs.foldlM Fold.step g).toOption) :
    (A >>= B).toOption =
      ((do let p ← P; let q ← Q; return p ++ q) >>= fun ps => ps.foldlM Fold.step f).toOption := by
  rw [Except.toOption_bind, hA]
  cases P with
  | error e => rfl
  | ok p =>
    simp only [Except.ok_bind]
    cases hp : p.foldlM Fold.step f with
    | error e =>
      cases Q with
      | error e' => rfl
      | ok q =>
        simp only [Except.ok_bind, pure, Except.pure, List.foldlM_append, hp]
        rfl
    | ok g =>
      change (B g).toOption = _
      rw [hB g]
      cases Q with
      | error e' => rfl
      | ok q =>
        simp only [Except.ok_bind, pure, Except.pure, List.foldlM_append, hp]

/-- Folding a run of blocks with the stack agrees, up to the error it reports, with reading its
events without the stack and then folding them. -/
theorem blockFold_toOption (r : Reader) (nested : Nested) (lines : Array String) (offset : Int)
    (topLevel : Bool) :
    ∀ (bs : List BlockNode) (f : Fold),
      (r.blockFold nested lines offset topLevel bs f).toOption =
        (r.blockEvents nested lines offset topLevel bs >>= fun ps =>
          ps.foldlM Fold.step f).toOption
  | [], _ => rfl
  | b :: rest, f => by
    have ih := blockFold_toOption r nested lines offset topLevel rest
    unfold blockFold
    rw [blockEvents_cons]
    unfold blockEventsOf
    cases b
    case html ls content =>
      dsimp only
      by_cases hc : r.components
      · simp only [hc, ↓reduceIte]
        exact toOption_bind_seq (htmlBlock_toOption _ _ _ _) ih
      · simp only [hc, Bool.false_eq_true, ↓reduceIte]
        exact toOption_bind_seq (toOption_node _ _) ih
    case paragraph ls tight content =>
      dsimp only
      split
      · exact toOption_bind_seq rfl ih
      · exact toOption_bind_seq (toOption_node _ _) ih
    all_goals exact toOption_bind_seq (toOption_node _ _) ih

/-- Folding a run of blocks and closing it agrees, up to the error it reports, with reading its
events and nesting them. -/
theorem blockFold_closeBlocks_toOption (r : Reader) (nested : Nested) (lines : Array String)
    (offset : Int) (topLevel : Bool) (bs : List BlockNode) :
    (r.blockFold nested lines offset topLevel bs {} >>= closeBlocks).toOption =
      (r.blockEvents nested lines offset topLevel bs >>= fun ps =>
        ps.foldlM Fold.step {} >>= closeBlocks).toOption := by
  simp only [Except.toOption_bind, blockFold_toOption, Option.bind_assoc]

/-- With components, the fold of a run of blocks gives a forest exactly when its events are read
and nest as brackets with equal names. -/
theorem blocks_nest_by_their_tags (r : Reader) (nested : Nested) (lines : Array String)
    (offset : Int) (topLevel : Bool) (bs : List BlockNode) :
    (∀ ns, (r.blockFold nested lines offset topLevel bs {} >>= closeBlocks) = .ok ns ↔
      ∃ ps, r.blockEvents nested lines offset topLevel bs = .ok ps ∧ Nests ps ns) ∧
    ∀ ps, r.blockEvents nested lines offset topLevel bs = .ok ps →
      ((∃ ns, (r.blockFold nested lines offset topLevel bs {} >>= closeBlocks) = .ok ns) ↔
        openAfter [] ps = some []) := by
  have hfold : ∀ ns, (r.blockFold nested lines offset topLevel bs {} >>= closeBlocks) = .ok ns ↔
      ∃ ps, r.blockEvents nested lines offset topLevel bs = .ok ps ∧ Nests ps ns := by
    intro ns
    rw [Except.eq_ok_iff_toOption, blockFold_closeBlocks_toOption, ← Except.eq_ok_iff_toOption,
      Except.bind_eq_ok]
    simp only [foldlM_step_closeBlocks_eq_ok_iff]
  refine ⟨hfold, fun ps hps => ?_⟩
  rw [← nests_iff_openAfter]
  constructor
  · rintro ⟨ns, hns⟩
    obtain ⟨ps', hps', hnest⟩ := (hfold ns).1 hns
    rw [hps] at hps'
    cases hps'
    exact ⟨ns, hnest⟩
  · rintro ⟨ns, hnest⟩
    exact ⟨ns, (hfold ns).2 ⟨ps, hps, hnest⟩⟩

/-- A closing tag inside a paragraph fails the fold of a run that holds no raw HTML block, and so
no tag of its own: the tags of raw HTML blocks alone do not decide whether the fold fails. -/
theorem stray_closing_tag_fails :
    (Reader.blockFold ⟨(Dialect.ofPreset .commonmark).markup, true⟩
      (Reader.nestedAt ⟨(Dialect.ofPreset .commonmark).markup, true⟩ 8) #["a </B>"] 0 false
      [.paragraph (0, 1) false [.text "a ", .html "</B>"]] {} >>= closeBlocks).toOption = none := by
  have hclose : (closeTagWhole? "</B>").isSome = true := by
    have hchars : "</B>".toList = ['<', '/', 'B', '>'] := rfl
    unfold closeTagWhole? closeTagAt
    rw [hchars]
    simp [skipWhile, isNameChar, isWordChar, isAsciiLetter, isBlank]
  obtain ⟨name, hname⟩ := Option.isSome_iff_exists.1 hclose
  simp [blockFold, blockNode, inline, inlineFold, inlineNode, hname, Fold.innermost?, Fold.add]
  rfl

end Reader

end Document

end Manuscript
