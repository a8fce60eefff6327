import Manuscript.Proofs.Program.Reader
import Manuscript.Proofs.Compiler.Vocabulary

/-!
# Generated programs read back

The program generated for a document holds a component function whose return expression, read
back as calls of the element factory, is the document's reference element tree:

* `reference` gives the element each node stands for: its tag and properties by kind (`head`),
  the source of the node in development mode (`located`), and its children's elements in order;
* `shapeOf_writesAs` says, one kind of node at a time, that the head the generator writes reads
  back as the node's head, and that it records only tags with a default;
* `expression_emits` lifts that to whole trees by induction over the children, and
  `generate_reads_back` to the program: through the defaults it writes, the function reads back
  as the reference tree. A tag resolves to itself, and a component whose name does not start
  with a lowercase letter has no default: the caller supplies it
  (`capitalized_component_unresolved`).

The trees are the static ones (`Node.StaticTree`): no expressions, component names that are tag
names, and no expression attributes.
-/

namespace Manuscript.Program.Read

open Manuscript.Text

/-! ## The reference tree -/

/-- A mapping with `key` set to `x`: in its place when the key is there, else at the end. -/
def putProp (xs : List (String × Literal)) (key : String) (x : Literal) : List (String × Literal) :=
  if xs.any (·.1 == key) then xs.map fun p => if p.1 == key then (key, x) else p
  else xs ++ [(key, x)]

/-- The `__source` property of a node in development mode: its file, its own unless that is
empty, else the document's, and its first line. -/
def sourceLiteral (o : Options) (node : Option Node) : Option Literal := do
  guard o.development
  let n ← node
  let p ← n.position
  let file : Literal := ((p.path.filter (!·.isEmpty)).map Literal.text).getD
    ((o.path.map Literal.text).getD .none)
  return .dict [("fileName", file), ("lineNumber", .int p.startLine)]

/-- The properties of the call of a node: in development mode they carry its source. -/
def located (o : Options) (node : Option Node) (xs : List (String × Literal)) :
    List (String × Literal) :=
  (sourceLiteral o node).elim xs fun x => putProp xs "__source" x

/-- Outside development mode a call carries no source. -/
theorem located_production (shape : ProgramShape) (path : Option String) (node : Option Node)
    (xs : List (String × Literal)) : located ⟨shape, false, path⟩ node xs = xs :=
  rfl

/-- Whether a name starts with a lowercase letter. -/
def startsLower (name : String) : Bool :=
  match name.toList with
  | c :: _ => isLowercase c
  | [] => false

/-- The tag of a component element: a name that starts with a lowercase letter has a default,
any other only the caller can supply. -/
def componentTag (name : String) : Tag :=
  if startsLower name then .name name else .supplied name

/-- The properties of a component element: its attributes in order, a later one replacing an
earlier one of the same name, and `True` for an attribute without a value. -/
def attributeProps (n : Node) : List (String × Literal) :=
  n.attributes.foldl (fun xs a => putProp xs a.name ((a.value.map Literal.text).getD .true)) []

/-- What a node stands for apart from its children. -/
inductive Head where
  /-- A string. -/
  | text (s : String)
  /-- A call whose children are the node's children. -/
  | element (t : Tag) (props : List (String × Literal))
  /-- A call with children of its own. -/
  | leaf (t : Tag) (props : List (String × Literal)) (children : List Element)
  /-- Nothing: the node is lifted out of the tree. -/
  | nothing

/-- The optional `title` property of links and images. -/
def titleProp (n : Node) : List (String × Literal) :=
  (present n.title).elim [] fun t => [("title", .text t)]

/-- The tag and the properties of each kind of node. -/
def head (n : Node) : Head :=
  match n.kind with
  | .text => .text (n.value.getD "")
  | .root => .element .fragment []
  | .paragraph => if flag n "tight" then .element .fragment [] else .element (.name "p") []
  | .heading => .element (.name ("h" ++ (n.depth.map toString).getD "None")) []
  | .list =>
    .element (.name (if n.ordered = some true then "ol" else "ul"))
      (n.start.elim [] fun s => if n.ordered = some true ∧ s ≠ 1 then [("start", .int s)] else [])
  | .inlineCode => .leaf (.name "code") [] [.text (n.value.getD "")]
  | .code =>
    .leaf (.name "pre") []
      [.call (.name "code") ((present n.lang).elim [] fun l => [("className", .text ("language-" ++ l))])
        [.text (n.value.getD "")]]
  | .link => .element (.name "a") ([("href", .text (n.url.getD ""))] ++ titleProp n)
  | .image =>
    .leaf (.name "img")
      ([("src", .text (n.url.getD "")), ("alt", .text (n.alt.getD ""))] ++ titleProp n) []
  | .tableCell =>
    .element (.name (if flag n "header" then "th" else "td"))
      ((present n.align).elim [] fun a => [("style", .dict [("textAlign", .text a)])])
  | .html => .leaf (.name "raw") [("value", .text (n.value.getD ""))] []
  | .flowElement | .textElement => .element (componentTag (n.name.getD "")) (attributeProps n)
  | .blockquote => .element (.name "blockquote") []
  | .emphasis => .element (.name "em") []
  | .strong => .element (.name "strong") []
  | .delete => .element (.name "del") []
  | .listItem => .element (.name "li") []
  | .thematicBreak => .element (.name "hr") []
  | .lineBreak => .element (.name "br") []
  | .table => .element (.name "table") []
  | .tableRow => .element (.name "tr") []
  | .esm | .flowExpression | .textExpression | .other _ => .nothing

/-- The element a node stands for, if any: its head, with the source in development mode, and
the elements of its children in order. -/
def reference (o : Options) (n : Node) : Option Element :=
  match head n with
  | .text s => some (.text s)
  | .element t xs =>
    some (.call t (located o (some n) xs) (n.children.attach.filterMap fun ⟨c, _⟩ => reference o c))
  | .leaf t xs es => some (.call t (located o (some n) xs) es)
  | .nothing => none
termination_by n
decreasing_by exact Node.sizeOf_lt_of_mem_children ‹_›

/-! ## Recorded tags -/

/-- A tag that can be a default: it stands between double quotes as it is and starts with a
lowercase letter. -/
def DefaultTag (t : String) : Prop := Plain '"' t ∧ startsLower t = true

instance : DecidablePred DefaultTag := fun t =>
  inferInstanceAs (Decidable (Plain '"' t ∧ startsLower t = true))

/-- A later state of generation: it keeps the recorded tags and records only default tags. -/
def Extends (st st' : State) : Prop :=
  (∀ t ∈ st.tags, t ∈ st'.tags) ∧ ∀ t ∈ st'.tags, t ∈ st.tags ∨ DefaultTag t

theorem Extends.refl (st : State) : Extends st st :=
  ⟨fun _ h => h, fun _ h => .inl h⟩

theorem Extends.trans {st₁ st₂ st₃ : State} (h₁ : Extends st₁ st₂) (h₂ : Extends st₂ st₃) :
    Extends st₁ st₃ := by
  refine ⟨fun t ht => h₂.1 t (h₁.1 t ht), fun t ht => ?_⟩
  rcases h₂.2 t ht with ht₂ | hd
  · exact h₁.2 t ht₂
  · exact .inr hd

/-- The state once a tag is recorded among the defaults. -/
def recordTag (st : State) (name : String) : State :=
  if st.tags.contains name then st else { st with tags := st.tags.push name }

theorem tagRef_run (name : String) (st : State) :
    (tagRef name).run st = .ok ("_components[\"" ++ name ++ "\"]", recordTag st name) := rfl

theorem mem_recordTag {st : State} {name t : String} :
    t ∈ (recordTag st name).tags ↔ t ∈ st.tags ∨ t = name := by
  unfold recordTag
  split
  · next h =>
    have hmem : name ∈ st.tags := by simpa using h
    constructor
    · exact .inl
    · rintro (ht | rfl)
      · exact ht
      · exact hmem
  · simp [Array.mem_push]

theorem extends_recordTag {name : String} (h : DefaultTag name) (st : State) :
    Extends st (recordTag st name) := by
  refine ⟨fun t ht => mem_recordTag.2 (.inl ht), fun t ht => ?_⟩
  rcases mem_recordTag.1 ht with ht | rfl
  · exact .inl ht
  · exact .inr h

/-- Defaults that give each recorded tag itself. -/
def Resolves (D : List (String × String)) (st : State) : Prop := ∀ t ∈ st.tags, D.lookup t = some t

/-- Defaults that give no default to a name that does not start with a lowercase letter. -/
def Unshadowed (D : List (String × String)) : Prop := ∀ k, startsLower k = false → D.lookup k = none

theorem Resolves.of_extends {D : List (String × String)} {st st' : State} (h : Resolves D st')
    (hst : Extends st st') : Resolves D st := fun t ht => h t (hst.1 t ht)

/-! ## Shapes read back -/

/-- A shape the generator writes reads back as a head through the defaults `D`. -/
def ShapeReads (D : List (String × String)) : Shape → Head → Prop
  | .element text ps, .element t xs => TagReads D text t ∧ List.Forall₂ PropReads ps xs
  | .call text ps cs, .leaf t xs es =>
    TagReads D text t ∧ List.Forall₂ PropReads ps xs ∧ List.Forall₂ (ReadsElement D) cs es
  | .code text, .text s => ReadsElement D text (.text s)
  | .nothing, .nothing => True
  | _, _ => False

/-- A step from `st` to `st₁` that writes `shape`, read back as `hd`, and records only default
tags. -/
def WritesAs (st : State) (shape : Shape) (st₁ : State) (hd : Head) : Prop :=
  Extends st st₁ ∧ ∀ D, Resolves D st₁ → Unshadowed D → ShapeReads D shape hd

theorem readsElement_quote (D : List (String × String)) (s : String) :
    ReadsElement D (Text.quote s) (.text s) := by
  intro fuel rest hlen
  obtain ⟨f, rfl⟩ := Nat.exists_eq_add_one_of_ne_zero (show fuel ≠ 0 by omega)
  rw [element.eq_def]
  dsimp only
  rw [string_quote]

/-- The call of a tag recorded among the defaults, with the node's children. -/
theorem writesAs_element {t : String} (ht : DefaultTag t) (st : State) {ps : List (String × String)}
    {xs : List (String × Literal)} (hps : List.Forall₂ PropReads ps xs) :
    WritesAs st (.element ("_components[\"" ++ t ++ "\"]") ps) (recordTag st t) (.element (.name t) xs) :=
  ⟨extends_recordTag ht st, fun _ hres _ =>
    ⟨tagReads_builtin ht.1 (hres t (mem_recordTag.2 (.inr rfl))), hps⟩⟩

/-- The call of a tag recorded among the defaults, with children of its own. -/
theorem writesAs_leaf {t : String} (ht : DefaultTag t) (st : State) {ps : List (String × String)}
    {xs : List (String × Literal)} (hps : List.Forall₂ PropReads ps xs) {cs : List String}
    {es : List Element} (hcs : ∀ D, Resolves D (recordTag st t) → List.Forall₂ (ReadsElement D) cs es) :
    WritesAs st (.call ("_components[\"" ++ t ++ "\"]") ps cs) (recordTag st t) (.leaf (.name t) xs es) :=
  ⟨extends_recordTag ht st, fun D hres _ =>
    ⟨tagReads_builtin ht.1 (hres t (mem_recordTag.2 (.inr rfl))), hps, hcs D hres⟩⟩

/-! ## Properties read back -/

theorem any_key_eq {ps : List (String × String)} {xs : List (String × Literal)}
    (h : List.Forall₂ PropReads ps xs) (k : String) : ps.any (·.1 == k) = xs.any (·.1 == k) := by
  induction h with
  | nil => rfl
  | cons hpx _ ih => simp only [List.any_cons, hpx.1, ih]

/-- Setting a property of the text and of the literal keeps them read alike. -/
theorem setProp_reads {ps : List (String × String)} {xs : List (String × Literal)}
    (h : List.Forall₂ PropReads ps xs) {c : String} {x : Literal} (hc : Denotes c x) (k : String) :
    List.Forall₂ PropReads (setProp ps k c) (putProp xs k x) := by
  unfold setProp putProp
  rw [any_key_eq h k]
  split
  · -- the key is there: its value is replaced in place
    rw [List.forall₂_map_left_iff, List.forall₂_map_right_iff]
    refine h.imp fun p y hpy => ?_
    obtain ⟨k', v⟩ := p
    obtain ⟨hk', hv⟩ := hpy
    dsimp only at hk' ⊢
    by_cases hk : k' = k
    · simp only [hk, ← hk', beq_self_eq_true, if_true]
      exact ⟨rfl, hc⟩
    · have hy : (y.1 == k) = false := by simpa [← hk'] using hk
      simp only [hy, Bool.false_eq_true, if_false, beq_eq_false_iff_ne.2 hk]
      exact ⟨hk', hv⟩
  · -- a new key goes at the end
    exact List.rel_append h (.cons ⟨rfl, hc⟩ .nil)

theorem names_single_quoted {s : String} (hs : Plain '\'' s) : Names ("'" ++ s ++ "'") s := by
  intro rest
  have htext : ("'" ++ s ++ "'").toList ++ rest = '\'' :: s.toList ++ '\'' :: rest := by simp
  rw [htext]
  exact string_plain (Or.inl rfl) hs rest

/-- The source of a call: a mapping of the file and the first line. -/
theorem denotes_source {file : String} {x : Literal} (hfile : Denotes file x) (line : Int) :
    Denotes ("\x7b'fileName': " ++ file ++ ", 'lineNumber': " ++ toString line ++ "\x7d")
      (.dict [("fileName", x), ("lineNumber", .int line)]) := by
  have htext : "\x7b'fileName': " ++ file ++ ", 'lineNumber': " ++ toString line ++ "\x7d" =
      "\x7b" ++ ", ".intercalate ([("'" ++ "fileName" ++ "'", file),
        ("'" ++ "lineNumber" ++ "'", toString line)].map fun e => e.1 ++ ": " ++ e.2) ++ "\x7d" := by
    apply String.ext
    simp [String.intercalate_cons_cons]
  rw [htext]
  have hfileName : Names ("'" ++ "fileName" ++ "'") "fileName" := names_single_quoted (by decide)
  have hlineNumber : Names ("'" ++ "lineNumber" ++ "'") "lineNumber" :=
    names_single_quoted (by decide)
  exact (@entries_text [("'" ++ "fileName" ++ "'", file), ("'" ++ "lineNumber" ++ "'", toString line)]
    [("fileName", x), ("lineNumber", .int line)]
    (.cons ⟨hfileName, hfile⟩ (.cons ⟨hlineNumber, denotes_int line⟩ .nil))).denotes

/-- The style of a table cell: a mapping of its alignment. -/
theorem denotes_style (a : String) :
    Denotes ("\x7b'textAlign': " ++ Text.quote a ++ "\x7d") (.dict [("textAlign", .text a)]) := by
  have htext : "\x7b'textAlign': " ++ Text.quote a ++ "\x7d" =
      "\x7b" ++ ", ".intercalate ([("'" ++ "textAlign" ++ "'", Text.quote a)].map
        fun e => e.1 ++ ": " ++ e.2) ++ "\x7d" := by
    apply String.ext
    simp
  rw [htext]
  have htextAlign : Names ("'" ++ "textAlign" ++ "'") "textAlign" := names_single_quoted (by decide)
  exact (@entries_text [("'" ++ "textAlign" ++ "'", Text.quote a)] [("textAlign", .text a)]
    (.cons ⟨htextAlign, denotes_quote a⟩ .nil)).denotes

/-- The source property the generator writes denotes the reference tree's. -/
theorem sourceProp_denotes (o : Options) (node : Option Node) :
    Option.Rel Denotes (sourceProp o node) (sourceLiteral o node) := by
  unfold sourceProp sourceLiteral
  cases o.development
  · exact .none
  -- the guard passes; it is rewritten by its value, not by simp, which would look inside it
  rw [show (guard (true = true) : Option Unit) = pure () from rfl]
  cases node with
  | none => exact .none
  | some n =>
    cases hp : n.position with
    | none =>
      simp only [Option.pure_def, Option.bind_eq_bind, Option.bind_some, hp, Option.bind_none]
      exact .none
    | some p =>
      simp only [Option.pure_def, Option.bind_eq_bind, Option.bind_some, hp]
      refine .some (denotes_source ?_ p.startLine)
      cases p.path.filter (!·.isEmpty) with
      | some f => exact denotes_quote f
      | none =>
        cases o.path with
        | some f => exact denotes_quote f
        | none => exact denotes_none

/-- The properties of a call located at a node read back as the reference tree's. -/
theorem located_reads (o : Options) (node : Option Node) {ps : List (String × String)}
    {xs : List (String × Literal)} (h : List.Forall₂ PropReads ps xs) :
    List.Forall₂ PropReads ((sourceProp o node).elim ps fun s => setProp ps "__source" s)
      (located o node xs) := by
  unfold located
  have hrel := sourceProp_denotes o node
  generalize sourceProp o node = source at hrel ⊢
  generalize sourceLiteral o node = value at hrel ⊢
  cases hrel with
  | none => exact h
  | some hsx => exact setProp_reads h hsx "__source"

theorem call_located (o : Options) (tag : String) (ps : List (String × String)) (cs : List String)
    (depth : Nat) (node : Option Node) :
    call o tag ps cs depth node =
      call o tag ((sourceProp o node).elim ps fun s => setProp ps "__source" s) cs depth none := by
  unfold call
  simp only [sourceProp_none]
  cases sourceProp o node <;> rfl

/-- A call the generator writes reads back as the call of its tag, its properties with the
source of its node, and its children. -/
theorem reads_call (o : Options) {D : List (String × String)} {tagText : String} {t : Tag}
    (ht : TagReads D tagText t) {ps : List (String × String)} {xs : List (String × Literal)}
    (hps : List.Forall₂ PropReads ps xs) {cs : List String} {es : List Element}
    (hcs : List.Forall₂ (ReadsElement D) cs es) (depth : Nat) (node : Option Node) :
    ReadsElement D (call o tagText ps cs depth node) (.call t (located o node xs) es) := by
  rw [call_located]
  exact reads_call_plain o ht (located_reads o node hps) hcs depth

theorem foldl_reads {α : Type} {f : List (String × String) → α → List (String × String)}
    {g : List (String × Literal) → α → List (String × Literal)} :
    ∀ {as : List α}, (∀ a ∈ as, ∀ ps xs, List.Forall₂ PropReads ps xs →
      List.Forall₂ PropReads (f ps a) (g xs a)) →
    ∀ {ps xs}, List.Forall₂ PropReads ps xs → List.Forall₂ PropReads (as.foldl f ps) (as.foldl g xs)
  | [], _, _, _, h => h
  | a :: _, hstep, _, _, h =>
    foldl_reads (fun a' ha' => hstep a' (List.mem_cons_of_mem a ha')) (hstep a List.mem_cons_self _ _ h)

/-- The attributes of a component element, none an expression, read back as its properties. -/
theorem elementProps_reads {n : Node} (hattr : ∀ a ∈ n.attributes, a.expression = false) :
    List.Forall₂ PropReads (elementProps n) (attributeProps n) := by
  unfold elementProps attributeProps
  refine foldl_reads (fun a ha ps xs h => ?_) .nil
  dsimp only
  cases hv : a.value with
  | none => exact setProp_reads h denotes_true a.name
  | some v =>
    simp only [hattr a ha, Bool.false_eq_true, if_false, Option.map_some, Option.getD_some]
    exact setProp_reads h (denotes_quote v) a.name

/-! ## Tag names -/

/-- A tag name as documents write one: an ASCII letter, then word characters, dots, colons and
hyphens. -/
def TagName (s : String) : Prop :=
  ∃ c cs, s.toList = c :: cs ∧ (('a' ≤ c ∧ c ≤ 'z') ∨ ('A' ≤ c ∧ c ≤ 'Z')) ∧
    ∀ d ∈ cs, isWordChar d = true ∨ d = '.' ∨ d = ':' ∨ d = '-'

/-- A tag name stands between double quotes as it is. -/
theorem TagName.plain {s : String} (h : TagName s) : Plain '"' s := by
  obtain ⟨c, cs, hs, hc, hcs⟩ := h
  intro d hd
  rw [hs] at hd
  rcases List.mem_cons.1 hd with rfl | hd
  · rcases hc with ⟨h₁, h₂⟩ | ⟨h₁, h₂⟩ <;> refine ⟨?_, ?_, ?_, ?_⟩ <;>
      (rintro rfl; revert h₁ h₂; decide)
  · have hword := hcs d hd
    refine ⟨?_, ?_, ?_, ?_⟩ <;> (rintro rfl; revert hword; decide)

/-- The name of a heading's tag: `h` and the depth. -/
theorem defaultTag_heading (depth : Option Int) :
    DefaultTag ("h" ++ (depth.map toString).getD "None") := by
  refine ⟨?_, by simp [startsLower]; decide⟩
  cases depth with
  | none => decide
  | some d =>
    intro c hc
    simp only [Option.map_some, Option.getD_some, String.toList_append, List.mem_append] at hc
    rcases hc with hc | hc
    · exact (show Plain '"' "h" by decide) c hc
    · rcases toString_int_chars d c hc with rfl | hdigit
      · decide
      · refine ⟨?_, ?_, ?_, ?_⟩ <;> (rintro rfl; revert hdigit; decide)

/-- A component element's name reads back as its tag: one of the defaults when it starts with a
lowercase letter, else one the caller supplies. -/
theorem componentRef_writesAs {name : String} (hname : name = "" ∨ TagName name) (st : State)
    {ref : String} {st₁ : State} (h : (componentRef name).run st = .ok (ref, st₁)) :
    Extends st st₁ ∧ ∀ D, Resolves D st₁ → Unshadowed D → TagReads D ref (componentTag name) := by
  unfold componentRef at h
  cases hs : name.toList with
  | nil =>
    simp only [hs, List.head?_nil] at h
    cases h
    have hlower : startsLower name = false := by simp [startsLower, hs]
    refine ⟨.refl st, fun D _ hD => ?_⟩
    rw [componentTag, hlower]
    exact tagReads_supplied (hD name hlower)
  | cons c cs =>
    simp only [hs, List.head?_cons] at h
    by_cases hl : isLowercase c = true
    · rw [if_pos hl, tagRef_run] at h
      cases h
      have hplain : Plain '"' name := by
        rcases hname with rfl | hname
        · simp at hs
        · exact hname.plain
      have hlower : startsLower name = true := by simp [startsLower, hs, hl]
      refine ⟨extends_recordTag ⟨hplain, hlower⟩ st, fun D hres _ => ?_⟩
      rw [componentTag, if_pos hlower]
      exact tagReads_builtin hplain (hres name (mem_recordTag.2 (.inr rfl)))
    · rw [if_neg hl] at h
      cases h
      have hlower : startsLower name = false := by simpa [startsLower, hs] using hl
      refine ⟨.refl st, fun D _ hD => ?_⟩
      rw [componentTag, hlower]
      exact tagReads_supplied (hD name hlower)

end Manuscript.Program.Read

/-! ## Static trees -/

namespace Manuscript.Node

open Manuscript.Program.Read

/-- A node that the generator writes with literals and calls only: no expression and no kind
kept from outside, and for a component element a tag name, or none, and no expression
attribute. -/
def Static (n : Node) : Prop :=
  (∀ s, n.kind ≠ .other s) ∧ n.kind ≠ .flowExpression ∧ n.kind ≠ .textExpression ∧
    (n.kind = .flowElement ∨ n.kind = .textElement →
      (∀ s, n.name = some s → TagName s) ∧ ∀ a ∈ n.attributes, a.expression = false)

/-- A tree whose nodes are all static. -/
def StaticTree (n : Node) : Prop := ∀ m ∈ n.walk, m.Static

theorem staticTree_iff {n : Node} : n.StaticTree ↔ n.Static ∧ ∀ c ∈ n.children, c.StaticTree := by
  constructor
  · intro h
    exact ⟨h n (mem_walk.2 (.inl rfl)), fun c hc m hm => h m (mem_walk.2 (.inr ⟨c, hc, hm⟩))⟩
  · rintro ⟨hn, hc⟩ m hm
    rcases mem_walk.1 hm with rfl | ⟨c, hc', hm'⟩
    · exact hn
    · exact hc c hc' m hm'

/-- A static tree is in the reader's vocabulary. -/
theorem StaticTree.named {n : Node} (hn : n.StaticTree) : n.Named :=
  fun m hm => (NodeKind.mem_named_iff _).2 (hn m hm).1

/-- The name of a static component element is a tag name or empty. -/
theorem Static.name {n : Node} (hn : n.Static) (hk : n.kind = .flowElement ∨ n.kind = .textElement) :
    n.name.getD "" = "" ∨ TagName (n.name.getD "") := by
  cases hname : n.name with
  | none => exact .inl rfl
  | some s => exact .inr ((hn.2.2.2 hk).1 s hname)

end Manuscript.Node

namespace Manuscript.Program.Read

open Manuscript.Text

theorem run_bind_ok {α β : Type} {x : Gen α} {f : α → Gen β} {st st₂ : State} {b : β}
    (h : (x >>= f).run st = .ok (b, st₂)) :
    ∃ a st₁, x.run st = .ok (a, st₁) ∧ (f a).run st₁ = .ok (b, st₂) := by
  rw [StateT.run_bind] at h
  cases hx : x.run st with
  | error e => rw [hx] at h; cases h
  | ok p => rw [hx] at h; exact ⟨p.1, p.2, rfl, h⟩

theorem WritesAs.of_extends {st st' st₁ : State} {shape : Shape} {hd : Head} (h : Extends st st')
    (hw : WritesAs st' shape st₁ hd) : WritesAs st shape st₁ hd :=
  ⟨h.trans hw.1, hw.2⟩

theorem title_reads (n : Node) :
    List.Forall₂ PropReads (((present n.title).map fun t => [("title", Text.quote t)]).getD [])
      (titleProp n) := by
  unfold titleProp
  cases present n.title with
  | none => exact .nil
  | some t => exact .cons (propReads_quote _ t) .nil

/-- What the generator makes of a static node reads back as the node's head, and it records
only default tags. -/
theorem shapeOf_writesAs (o : Options) {n : Node} (hn : n.Static) (depth : Nat) {st st₁ : State}
    {shape : Shape} (h : (shapeOf o n depth).run st = .ok (shape, st₁)) :
    WritesAs st shape st₁ (head n) := by
  obtain ⟨hother, hflow, htext, hcomp⟩ := hn
  unfold shapeOf at h
  unfold head
  revert h
  cases hk : n.kind with
  | text =>
    intro h
    cases h
    exact ⟨.refl st, fun D _ _ => readsElement_quote D _⟩
  | root =>
    intro h
    cases h
    exact ⟨.refl st, fun D _ _ => ⟨tagReads_fragment D, .nil⟩⟩
  | paragraph =>
    intro h
    cases hf : flag n "tight"
    · simp only [hf, Bool.false_eq_true, if_false] at h ⊢
      cases h
      exact writesAs_element (by decide) st .nil
    · simp only [hf, if_true] at h ⊢
      cases h
      exact ⟨.refl st, fun D _ _ => ⟨tagReads_fragment D, .nil⟩⟩
  | heading =>
    intro h
    cases h
    exact writesAs_element (defaultTag_heading n.depth) st .nil
  | list =>
    intro h
    cases h
    by_cases ho : n.ordered = some true
    · simp only [ho, beq_self_eq_true, if_true, Bool.true_and]
      refine writesAs_element (by decide) st ?_
      cases n.start with
      | none => exact .nil
      | some s =>
        by_cases hs : s = 1
        · simp only [hs, bne_self_eq_false, Bool.false_eq_true, if_false, ne_eq, not_true_eq_false,
            and_false, Option.elim_some]
          exact .nil
        · simp only [hs, bne_iff_ne, ne_eq, not_false_eq_true, if_true, and_self, Option.elim_some]
          exact .cons ⟨rfl, denotes_int s⟩ .nil
    · have hb : (n.ordered == some true) = false := by simpa using ho
      simp only [hb, ho, Bool.false_eq_true, if_false, Bool.false_and, false_and]
      refine writesAs_element (by decide) st ?_
      cases n.start with
      | none => exact .nil
      | some s => exact .nil
  | inlineCode =>
    intro h
    cases h
    exact writesAs_leaf (by decide) st .nil fun D _ => .cons (readsElement_quote D _) .nil
  | code =>
    intro h
    cases h
    refine ⟨(extends_recordTag (by decide) st).trans (extends_recordTag (by decide) _),
      fun D hres _ => ⟨tagReads_builtin (by decide) (hres "pre" (mem_recordTag.2 (.inr rfl))), .nil,
        .cons ?_ .nil⟩⟩
    have hcode : D.lookup "code" = some "code" :=
      hres "code" (mem_recordTag.2 (.inl (mem_recordTag.2 (.inr rfl))))
    refine reads_call_plain o (tagReads_builtin (by decide) hcode) ?_
      (.cons (readsElement_quote D _) .nil) (depth + 1)
    cases present n.lang with
    | none => exact .nil
    | some l => exact .cons (propReads_quote _ _) .nil
  | link =>
    intro h
    cases h
    exact writesAs_element (by decide) st (List.rel_append (.cons (propReads_quote _ _) .nil)
      (title_reads n))
  | image =>
    intro h
    cases h
    exact writesAs_leaf (by decide) st (List.rel_append
      (.cons (propReads_quote _ _) (.cons (propReads_quote _ _) .nil)) (title_reads n)) fun _ _ => .nil
  | tableCell =>
    intro h
    cases h
    have htag : DefaultTag (if flag n "header" = true then "th" else "td") := by split <;> decide
    refine writesAs_element htag st ?_
    cases present n.align with
    | none => exact .nil
    | some a => exact .cons ⟨rfl, denotes_style a⟩ .nil
  | html =>
    intro h
    dsimp only at h
    obtain ⟨_, st', hmod, hrest⟩ := run_bind_ok h
    rw [StateT.run_bind, tagRef_run] at hrest
    cases hrest
    have htags : st'.tags = st.tags := by
      cases hmod
      rfl
    exact WritesAs.of_extends ⟨fun _ ht => htags ▸ ht, fun _ ht => .inl (htags ▸ ht)⟩
      (writesAs_leaf (by decide) st' (.cons (propReads_quote _ _) .nil) fun _ _ => .nil)
  | flowElement | textElement =>
    intro h
    dsimp only at h
    obtain ⟨ref, st', href, hpure⟩ := run_bind_ok h
    cases hpure
    have hname := Node.Static.name ⟨hother, hflow, htext, hcomp⟩ (by simp [hk])
    obtain ⟨hext, htag⟩ := componentRef_writesAs hname st href
    exact ⟨hext, fun D hres hD => ⟨htag D hres hD, elementProps_reads (hcomp (by simp [hk])).2⟩⟩
  | flowExpression => exact absurd hk hflow
  | textExpression => exact absurd hk htext
  | esm =>
    intro h
    cases h
    exact ⟨.refl st, fun _ _ _ => trivial⟩
  | other name => exact absurd hk (hother name)
  | blockquote | emphasis | strong | delete | listItem | thematicBreak | lineBreak | table
  | tableRow =>
    intro h
    cases h
    exact writesAs_element (by decide) st .nil

/-! ## Expressions read back -/

/-- A step of generation from `st` to `st'` that answers `code`, read back as `e` through every
defaults that resolve the recorded tags and shadow no supplied component, and that records only
default tags. -/
def Emits (st : State) (code : Option String) (st' : State) (e : Option Element) : Prop :=
  Extends st st' ∧ ∀ D, Resolves D st' → Unshadowed D → Option.Rel (ReadsElement D) code e

/-- The children of a node, generated one after another, read back in order. -/
theorem mapM_emits {α : Type} {f : α → Gen (Option String)} {g : α → Option Element} :
    ∀ {as : List α}, (∀ a ∈ as, ∀ {st st' code}, (f a).run st = .ok (code, st') →
      Emits st code st' (g a)) →
    ∀ {st st₂ : State} {rs : List (Option String)}, (as.mapM f).run st = .ok (rs, st₂) →
      Extends st st₂ ∧ ∀ D, Resolves D st₂ → Unshadowed D →
        List.Forall₂ (Option.Rel (ReadsElement D)) rs (as.map g)
  | [], _, st, _, _, h => by
    cases h
    exact ⟨.refl st, fun _ _ _ => .nil⟩
  | a :: as, hf, _, _, _, h => by
    rw [List.mapM_cons] at h
    obtain ⟨r, st₁, hr, hrest⟩ := run_bind_ok h
    obtain ⟨rs, st₂, hrs, hpure⟩ := run_bind_ok hrest
    cases hpure
    have hhead := hf a List.mem_cons_self hr
    have htail := mapM_emits (fun a' ha' => hf a' (List.mem_cons_of_mem a ha')) hrs
    refine ⟨hhead.1.trans htail.1, fun D hres hD => .cons ?_ (htail.2 D hres hD)⟩
    exact hhead.2 D (hres.of_extends htail.1) hD

theorem reference_eq (o : Options) (n : Node) :
    reference o n = match head n with
      | .text s => some (.text s)
      | .element t xs => some (.call t (located o (some n) xs)
          ((n.children.attach.map fun c => reference o c.1).filterMap id))
      | .leaf t xs es => some (.call t (located o (some n) xs) es)
      | .nothing => none := by
  rw [reference, List.filterMap_map]
  rfl

/-- The program expression of a static node reads back as the node's reference element, and
generating it records only default tags. -/
theorem expression_emits (o : Options) {n : Node} (hn : n.StaticTree) {depth : Nat}
    {st st' : State} {code : Option String} (h : (expression o n depth).run st = .ok (code, st')) :
    Emits st code st' (reference o n) := by
  induction n using Node.childrenInduction generalizing depth st st' code with
  | node n ih =>
    obtain ⟨hstatic, hchildren⟩ := Node.staticTree_iff.1 hn
    rw [expression] at h
    obtain ⟨shape, st₁, hshape, hrest⟩ := run_bind_ok h
    have hw := shapeOf_writesAs o hstatic depth hshape
    rw [reference_eq]
    cases shape with
    | element tag props =>
      -- the children are generated after the head, one level deeper
      obtain ⟨rendered, st₂, hmap, hpure⟩ := run_bind_ok hrest
      cases hpure
      have hkids := mapM_emits (g := fun c => reference o c.1)
        (fun c _ _ _ _ hc => ih c.1 c.2 (hchildren c.1 c.2) hc) hmap
      refine ⟨hw.1.trans hkids.1, fun D hres hD => ?_⟩
      have hsr := hw.2 D (hres.of_extends hkids.1) hD
      cases hhead : head n <;> rw [hhead] at hsr <;> simp only [ShapeReads] at hsr
      case element t xs =>
        exact .some (reads_call o hsr.1 hsr.2 (List.rel_filterMap (fun _ _ h => h) (hkids.2 D hres hD))
          depth (some n))
    | call tag props children =>
      cases hrest
      refine ⟨hw.1, fun D hres hD => ?_⟩
      have hsr := hw.2 D hres hD
      cases hhead : head n <;> rw [hhead] at hsr <;> simp only [ShapeReads] at hsr
      case leaf t xs es => exact .some (reads_call o hsr.1 hsr.2.1 hsr.2.2 depth (some n))
    | code text =>
      cases hrest
      refine ⟨hw.1, fun D hres hD => ?_⟩
      have hsr := hw.2 D hres hD
      cases hhead : head n <;> rw [hhead] at hsr <;> simp only [ShapeReads] at hsr
      case text s => exact .some hsr
    | nothing =>
      cases hrest
      refine ⟨hw.1, fun D hres hD => ?_⟩
      have hsr := hw.2 D hres hD
      cases hhead : head n <;> rw [hhead] at hsr <;> simp only [ShapeReads] at hsr
      case nothing => exact .none


/-! ## Reading a generated program back -/

theorem lookup_diag (ts : List String) (k : String) :
    (ts.map fun t => (t, t)).lookup k = if k ∈ ts then some k else none := by
  induction ts with
  | nil => simp
  | cons t ts ih =>
    rw [List.map_cons, List.lookup_cons]
    by_cases hk : k = t
    · subst hk
      simp
    · have hkt : (k == t) = false := beq_false_of_ne hk
      simp only [hkt, ih, List.mem_cons, hk, false_or]

/-- The sections of a program, split around the one before last. -/
theorem intercalate_sections (l : List String) (a b c : String) :
    "\n\n\n".intercalate (l ++ [a, b, c]) =
      ("\n\n\n".intercalate (l ++ [a]) ++ "\n\n\n") ++ b ++ ("\n\n\n" ++ c) := by
  rw [show l ++ [a, b, c] = (l ++ [a]) ++ [b, c] by simp,
    String.intercalate_append_of_ne_nil (by simp) (by simp), String.intercalate_cons_cons,
    String.intercalate_singleton]
  simp only [String.append_assoc]

/-- The defaults that generation from no tags writes: they resolve each recorded tag, give no
default to a name that does not start with a lowercase letter, and stand between double quotes
as they are. -/
theorem defaults_of_extends {st : State} (hext : Extends {} st) :
    Resolves (st.tags.toList.map fun t => (t, t)) st ∧
      Unshadowed (st.tags.toList.map fun t => (t, t)) ∧ ∀ t ∈ st.tags.toList, Plain '"' t := by
  have hdefault : ∀ t ∈ st.tags, DefaultTag t := fun t ht => (hext.2 t ht).resolve_left (by simp)
  refine ⟨fun t ht => ?_, fun k hk => ?_, fun t ht => (hdefault t (Array.mem_toList_iff.1 ht)).1⟩
  · rw [lookup_diag, if_pos (Array.mem_toList_iff.2 ht)]
  · rw [lookup_diag, if_neg]
    intro hmem
    have hlower := (hdefault k (Array.mem_toList_iff.1 hmem)).2
    rw [hk] at hlower
    cases hlower

/-- A program read back: it holds a component function that reads, through the defaults it
writes, as the reference tree of the document, or as an empty fragment when the tree stands for
no element. -/
def ReadsBack (o : Options) (tree : Node) (program : String) : Prop :=
  ∃ pre fn post, program = pre ++ fn ++ post ∧
    ∃ defaults, componentFunction fn.toList =
      some (defaults, (reference o tree).getD (.call .fragment [] []))

/-- The program generated for a static tree reads back as the tree's reference element, each
`_components` entry as the tag its default gives or as a component the caller supplies. -/
theorem generate_reads_back (o : Options) {tree : Node} (htree : tree.StaticTree)
    (file : SourceFile) : Yields (fun r => ReadsBack o tree r.1) (generate o tree file) := by
  intro r h
  obtain ⟨program, file'⟩ := r
  unfold generate at h
  generalize moduleLines tree = ml at h
  obtain ⟨lines, exports⟩ := ml
  dsimp only at h
  cases hexpr : (expression o tree 1).run {} with
  | error e =>
    rw [hexpr] at h
    cases h
  | ok r =>
    rw [hexpr] at h
    obtain ⟨code, st⟩ := r
    generalize dataLiteral _ = front at h
    cases front with
    | error e => cases h
    | ok front =>
      have hprog := congrArg Prod.fst (Except.ok.inj h)
      dsimp only at hprog
      rw [intercalate_sections, String.append_assoc] at hprog
      refine ⟨_, _, _, hprog.symm, ?_⟩
      obtain ⟨hext, hreads⟩ := expression_emits o htree hexpr
      obtain ⟨hres, hunshadowed, hplain⟩ := defaults_of_extends hext
      refine ⟨_, componentFunction_text hplain ?_⟩
      have hrel := hreads _ hres hunshadowed
      generalize reference o tree = e at hrel ⊢
      cases hrel with
      | none => exact readsElement_fragment _
      | some hc => exact hc

/-- The document of one component element named with a capital letter. -/
theorem staticTree_card :
    Node.StaticTree { kind := .root, children := [{ kind := .flowElement, name := some "Card" }] } := by
  have hname : TagName "Card" := by
    refine ⟨'C', ['a', 'r', 'd'], by decide, by decide, fun d hd => ?_⟩
    simp only [List.mem_cons, List.not_mem_nil, or_false] at hd
    rcases hd with rfl | rfl | rfl <;> decide
  refine Node.staticTree_iff.2 ⟨⟨by simp, by simp, by simp, by simp⟩, ?_⟩
  intro c hc
  rw [List.mem_singleton] at hc
  subst hc
  refine Node.staticTree_iff.2 ⟨⟨by simp, by simp, by simp, fun _ => ⟨?_, by simp⟩⟩, by simp⟩
  rintro s ⟨⟩
  exact hname

/-- The document of one capitalized component, read back. -/
theorem generate_reads_back_card :
    Node.StaticTree { kind := .root, children := [{ kind := .flowElement, name := some "Card" }] } ∧
      Yields (fun r => ReadsBack ⟨.program, false, none⟩
          { kind := .root, children := [{ kind := .flowElement, name := some "Card" }] } r.1)
        (generate ⟨.program, false, none⟩
          { kind := .root, children := [{ kind := .flowElement, name := some "Card" }] }
          { value := "" }) :=
  ⟨staticTree_card, generate_reads_back _ staticTree_card _⟩

/-- A component whose name starts with a capital letter gets no default: with no components
supplied, the program of a document of one such element reads back with a component only the
caller can supply, and the defaults it writes have no entry for it. -/
theorem capitalized_component_unresolved :
    ∃ code st, (expression ⟨.program, false, none⟩
        { kind := .root, children := [{ kind := .flowElement, name := some "Card" }] } 1).run {} =
        .ok (some code, st) ∧ (st.tags.toList.map fun t => (t, t)).lookup "Card" = none ∧
      componentFunction (component st.tags code).toList = some (st.tags.toList.map fun t => (t, t),
        .call .fragment [] [.call (.supplied "Card") [] []]) := by
  have hcapital : startsLower "Card" = false := by decide
  have href : reference ⟨.program, false, none⟩
      { kind := .root, children := [{ kind := .flowElement, name := some "Card" }] } =
      some (.call .fragment [] [.call (.supplied "Card") [] []]) := by
    rw [reference_eq]
    simp only [head, located_production, List.attach_cons, List.attach_nil, List.map_cons,
      List.filterMap_cons]
    rw [reference_eq]
    simp [head, located_production, componentTag, attributeProps, hcapital]
  obtain ⟨code, st, hrun⟩ := expression_runs ⟨.program, false, none⟩ staticTree_card.named 1 {}
  obtain ⟨hext, hreads⟩ := expression_emits _ staticTree_card hrun
  obtain ⟨hres, hunshadowed, hplain⟩ := defaults_of_extends hext
  have hrel := hreads _ hres hunshadowed
  rw [href] at hrel
  cases hrel with
  | some hc => exact ⟨_, st, hrun, hunshadowed "Card" hcapital, componentFunction_text hplain hc⟩

end Manuscript.Program.Read
