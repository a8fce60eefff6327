import Manuscript.Proofs.Program.Literal
import Manuscript.Program.Generate

/-!
# Reading the component function of a program

A program's component function returns nested calls `h(tag, {props}, *children)` of the element
factory, after a `_components` mapping of defaults that the caller's components override. This
file reads such a function back as an element tree:

* `element` reads a string literal as a text, and a call as its tag, its properties and its
  children; a tag is `Fragment`, or `_components[...]` resolved through the defaults, or, for a
  key with no default, a component only the caller can supply;
* `componentFunction` reads the function's header, its defaults and the element it returns;
* `ReadsElement D code e` says that `code` reads as `e` through the defaults `D`, with any text
  after it; `reads_call_plain` says it of each call the generator writes from parts that read
  back, and `componentFunction_text` of the function the generator writes around a body.
-/

namespace Manuscript.Program.Read

open Manuscript.Text

/-! ## Calls of the element factory -/

/-- The tag of an element as a call names it. -/
inductive Tag where
  /-- The fragment, which groups its children without an element of its own. -/
  | fragment
  /-- A tag that the defaults of the component function give. -/
  | name (s : String)
  /-- A component that only the caller can supply: its name has no default. -/
  | supplied (s : String)
  deriving DecidableEq, Repr

/-- An element tree, as nested calls of the element factory build it. -/
inductive Element where
  | text (s : String)
  | call (tag : Tag) (props : List (String × Literal)) (children : List Element)
  deriving Inhabited, Repr

/-- Reads a word that must come next. -/
def keyword (w : String) (cs : List Char) : Option (List Char) :=
  if w.toList.isPrefixOf cs then some (cs.drop w.toList.length) else none

/-- The tag a key of `_components` resolves to: its default, or one the caller must supply. -/
def resolve (defaults : List (String × String)) (key : String) : Tag :=
  match defaults.lookup key with
  | some t => .name t
  | none => .supplied key

/-- Reads the tag of a call: `Fragment`, or an entry of `_components`. -/
def tag (defaults : List (String × String)) (cs : List Char) : Option (Tag × List Char) :=
  match keyword "Fragment" cs with
  | some rest => some (.fragment, rest)
  | none => do
    let cs ← keyword "_components[" cs
    let (key, cs) ← string cs
    let cs ← expect ']' cs
    return (resolve defaults key, cs)

mutual
/-- Reads an element: a string, or a call `h(tag, {props}, children...)`. -/
def element (defaults : List (String × String)) : Nat → List Char → Option (Element × List Char)
  | 0, _ => none
  | fuel + 1, cs =>
    match string cs with
    | some (s, rest) => some (.text s, rest)
    | none => do
      let cs ← keyword "h(" cs
      let (t, cs) ← tag defaults (skipGap cs)
      let cs ← expect ',' (skipGap cs)
      let cs ← expect '{' (skipGap cs)
      let (props, cs) ← entries fuel (skipGap cs)
      let (children, cs) ← elements defaults fuel (skipGap cs)
      return (.call t props children, cs)

/-- Reads the children of a call up to and past its closing parenthesis, each after a comma. -/
def elements (defaults : List (String × String)) : Nat → List Char →
    Option (List Element × List Char)
  | 0, _ => none
  | _ + 1, ')' :: cs => some ([], cs)
  | fuel + 1, ',' :: cs =>
    match skipGap cs with
    | ')' :: cs => some ([], cs)
    | cs => do
      let (e, cs) ← element defaults fuel cs
      let (es, cs) ← elements defaults fuel (skipGap cs)
      return (e :: es, cs)
  | _ + 1, _ => none
end

/-- Reads the defaults of `_components`, each `"key": "tag",`, up to the entry that spreads the
caller's components. -/
def defaults : Nat → List Char → Option (List (String × String) × List Char)
  | 0, _ => none
  | fuel + 1, cs =>
    match keyword "**(components or \x7b\x7d)" cs with
    | some rest => some ([], rest)
    | none => do
      let (k, cs) ← string cs
      let cs ← expect ':' (skipGap cs)
      let (v, cs) ← string (skipGap cs)
      let cs ← expect ',' (skipGap cs)
      let (ds, cs) ← defaults fuel (skipGap cs)
      return ((k, v) :: ds, cs)

/-- Reads a component function: the defaults of its components, and the element its `return`
builds with them when the caller supplies no components. -/
def componentFunction (cs : List Char) : Option (List (String × String) × Element) := do
  let cs ← keyword "def MDXContent(h, Fragment, components=None, **props):" cs
  let cs ← keyword "_components" (skipGap cs)
  let cs ← expect '=' (skipGap cs)
  let cs ← expect '{' (skipGap cs)
  let (ds, cs) ← defaults (cs.length + 1) (skipGap cs)
  let cs ← expect ',' (skipGap cs)
  let cs ← expect '}' (skipGap cs)
  let cs ← keyword "return" (skipGap cs)
  let (e, cs) ← element ds (cs.length + 1) (skipGap cs)
  if skipGap cs = [] then some (ds, e) else none

/-! ## Reading words and tags -/

theorem keyword_append (w : String) (rest : List Char) : keyword w (w.toList ++ rest) = some rest := by
  simp [keyword, List.isPrefixOf_iff_prefix, List.prefix_append]

theorem keyword_of_ne {w : String} {c d : Char} {ws : List Char} (hw : w.toList = c :: ws)
    (hd : d ≠ c) (cs : List Char) : keyword w (d :: cs) = none := by
  simp [keyword, hw, List.isPrefixOf, Ne.symm hd]

/-- The text `text` is read as the tag `t` through the defaults `D`, whatever follows. -/
def TagReads (D : List (String × String)) (text : String) (t : Tag) : Prop :=
  ∀ rest, tag D (skipGap (text.toList ++ rest)) = some (t, rest)

theorem tagReads_fragment (D : List (String × String)) : TagReads D "Fragment" .fragment := by
  intro rest
  have htext : "Fragment".toList ++ rest = 'F' :: ("ragment".toList ++ rest) := by simp
  rw [htext, skipGap_of_not (by decide), ← htext, tag, keyword_append]

theorem tag_components {D : List (String × String)} {cs : List Char} :
    tag D (skipGap ("_components[".toList ++ cs)) =
      (string cs).bind fun r => (expect ']' r.2).bind fun rest => some (resolve D r.1, rest) := by
  have htext : "_components[".toList ++ cs = '_' :: ("components[".toList ++ cs) := by simp
  rw [htext, skipGap_of_not (by decide), tag,
    keyword_of_ne (show "Fragment".toList = 'F' :: "ragment".toList by simp) (by decide), ← htext, keyword_append]
  rfl

/-- A built-in tag, written between double quotes, reads as the tag its default gives. -/
theorem tagReads_builtin {D : List (String × String)} {t : String} (hp : Plain '"' t)
    (hD : D.lookup t = some t) : TagReads D ("_components[\"" ++ t ++ "\"]") (.name t) := by
  intro rest
  have htext : ("_components[\"" ++ t ++ "\"]").toList ++ rest =
      "_components[".toList ++ ('"' :: t.toList ++ '"' :: ']' :: rest) := by simp
  rw [htext, tag_components, string_plain (Or.inr rfl) hp]
  simp [expect, resolve, hD]

/-- A component's quoted name reads as the component the caller supplies, when no default has it. -/
theorem tagReads_supplied {D : List (String × String)} {k : String} (hD : D.lookup k = none) :
    TagReads D ("_components[" ++ Text.quote k ++ "]") (.supplied k) := by
  intro rest
  have htext : ("_components[" ++ Text.quote k ++ "]").toList ++ rest =
      "_components[".toList ++ ((Text.quote k).toList ++ ']' :: rest) := by simp
  rw [htext, tag_components, string_quote]
  simp [expect, resolve, hD]

/-! ## Reading calls -/

theorem skipGap_indent (depth : Nat) (cs : List Char) :
    skipGap ((indent depth).toList ++ cs) = skipGap cs := by
  induction depth with
  | zero => simp [indent]
  | succ d ih =>
    rw [← ih]
    simp [indent, List.replicate_succ, indentUnit, skipGap, isGap]

/-- Only a string or a call starts an element. -/
theorem element_of_head {D : List (String × String)} {c : Char} (hc : c ≠ '\'' ∧ c ≠ '"' ∧ c ≠ 'h')
    (fuel : Nat) (cs : List Char) : element D fuel (c :: cs) = none := by
  cases fuel with
  | zero => rfl
  | succ f =>
    rw [element.eq_def]
    dsimp only
    rw [string_of_not_quote ⟨hc.1, hc.2.1⟩]
    dsimp only
    rw [keyword_of_ne (show "h(".toList = ['h', '('] by simp) hc.2.2]
    rfl

/-- The text `code` is read as the element `e` through the defaults `D`, whatever follows,
with fuel beyond its length. -/
def ReadsElement (D : List (String × String)) (code : String) (e : Element) : Prop :=
  ∀ fuel rest, (code.toList ++ rest).length < fuel → element D fuel (code.toList ++ rest) = some (e, rest)

/-- An element's text starts with a quote or with the call of the factory. -/
theorem ReadsElement.head {D : List (String × String)} {code : String} {e : Element}
    (h : ReadsElement D code e) : ∃ c t, code.toList = c :: t ∧ (c = '\'' ∨ c = '"' ∨ c = 'h') := by
  have hread := h (code.toList.length + 1) [] (by simp)
  cases hcs : code.toList with
  | nil =>
    rw [hcs] at hread
    cases hread
  | cons c t =>
    refine ⟨c, t, rfl, ?_⟩
    by_contra hc
    simp only [not_or] at hc
    rw [hcs, List.cons_append, element_of_head hc] at hread
    cases hread

theorem skipGap_word {w : String} {c : Char} {t : List Char} (hw : w.toList = c :: t)
    (hc : isGap c = false) (rest : List Char) : skipGap (w.toList ++ rest) = w.toList ++ rest := by
  rw [hw, List.cons_append, skipGap_of_not hc]

/-- An element's text starts with no gap. -/
theorem ReadsElement.skipGap {D : List (String × String)} {code : String} {e : Element}
    (h : ReadsElement D code e) (rest : List Char) :
    skipGap (code.toList ++ rest) = code.toList ++ rest := by
  obtain ⟨c, t, hct, hc⟩ := h.head
  exact skipGap_word hct (by rcases hc with rfl | rfl | rfl <;> rfl) rest

/-- The children of a call, each on a line of its own after a comma, up to the closing
parenthesis. -/
theorem elements_text {D : List (String × String)} {cs : List String} {es : List Element}
    (h : List.Forall₂ (ReadsElement D) cs es) (depth : Nat) :
    ∀ fuel rest, (',' :: '\n' :: ((String.join (cs.map fun c => indent (depth + 1) ++ c ++ ",\n")).toList ++
        (indent depth).toList ++ ')' :: rest)).length < fuel →
      elements D fuel (',' :: '\n' :: ((String.join (cs.map fun c => indent (depth + 1) ++ c ++ ",\n")).toList ++
        (indent depth).toList ++ ')' :: rest)) = some (es, rest) := by
  induction h with
  | nil =>
    intro fuel rest hlen
    obtain ⟨f, rfl⟩ := Nat.exists_eq_add_one_of_ne_zero (show fuel ≠ 0 by simp at hlen; omega)
    rw [elements]
    simp only [List.map_nil, String.join_nil, String.toList_empty, List.nil_append]
    rw [skipGap_gap (by decide), skipGap_indent, skipGap_of_not (by decide)]
    rfl
  | @cons c e cs es hce htail ih =>
    intro fuel rest hlen
    obtain ⟨f, rfl⟩ := Nat.exists_eq_add_one_of_ne_zero (show fuel ≠ 0 by simp at hlen; omega)
    obtain ⟨x, t, hct, hx⟩ := hce.head
    have htext : (String.join ((c :: cs).map fun c => indent (depth + 1) ++ c ++ ",\n")).toList ++
        (indent depth).toList ++ ')' :: rest = (indent (depth + 1)).toList ++ (c.toList ++
          (',' :: '\n' :: ((String.join (cs.map fun c => indent (depth + 1) ++ c ++ ",\n")).toList ++
            (indent depth).toList ++ ')' :: rest))) := by simp
    rw [htext] at hlen ⊢
    have hskip : skipGap ('\n' :: ((indent (depth + 1)).toList ++ (c.toList ++
        (',' :: '\n' :: ((String.join (cs.map fun c => indent (depth + 1) ++ c ++ ",\n")).toList ++
          (indent depth).toList ++ ')' :: rest))))) = c.toList ++
        (',' :: '\n' :: ((String.join (cs.map fun c => indent (depth + 1) ++ c ++ ",\n")).toList ++
          (indent depth).toList ++ ')' :: rest)) := by
      rw [skipGap_gap (by decide), skipGap_indent, hce.skipGap]
    rw [elements, hskip]
    split
    · -- no child starts with a closing parenthesis
      next r hr =>
      rw [hct] at hr
      obtain ⟨rfl, -⟩ := List.cons.inj hr
      rcases hx with h | h | h <;> exact absurd h (by decide)
    · rw [Option.bind_eq_bind,
        hce f _ (by simp only [List.length_append, List.length_cons] at hlen ⊢; omega)]
      simp only [Option.bind_some]
      rw [skipGap_of_not (by decide),
        ih f rest (by simp only [List.length_append, List.length_cons] at hlen ⊢; omega)]
      rfl

/-- A call: `h(`, the tag, a comma, the properties between braces, then the children. -/
theorem element_call {D : List (String × String)} {tagText body : String} {t : Tag}
    {xs : List (String × Literal)} (ht : TagReads D tagText t) (hbody : EntriesRead body xs)
    {fuel : Nat} {after : List Char}
    (hlen : ('h' :: '(' :: (tagText.toList ++ ',' :: ' ' :: '{' :: (body.toList ++ '}' :: after))).length <
      fuel + 1) :
    element D (fuel + 1) ('h' :: '(' :: (tagText.toList ++ ',' :: ' ' :: '{' ::
      (body.toList ++ '}' :: after))) =
      (elements D fuel (skipGap after)).map fun r => (.call t xs r.1, r.2) := by
  rw [element.eq_def]
  dsimp only
  rw [string_of_not_quote (by decide)]
  dsimp only
  rw [show ∀ cs : List Char, 'h' :: '(' :: cs = "h(".toList ++ cs from fun _ => rfl, keyword_append]
  simp only [Option.bind_eq_bind, Option.bind_some]
  rw [ht]
  simp only [Option.bind_some]
  rw [expect_skipGap (c := ',') (by decide)]
  simp only [Option.bind_some]
  rw [skipGap_gap (c := ' ') (by decide), expect_skipGap (c := '{') (by decide)]
  simp only [Option.bind_some]
  rw [hbody fuel after (by simp only [List.length_append, List.length_cons] at hlen ⊢; omega)]
  simp only [Option.bind_some]
  cases elements D fuel (skipGap after) <;> rfl

/-! ## The calls the generator writes -/

/-- A property written as `key: code`, with the key quoted, reads as the literal property `x`. -/
def PropReads (p : String × String) (x : String × Literal) : Prop := p.1 = x.1 ∧ Denotes p.2 x.2

theorem propReads_quote (k v : String) : PropReads (k, Text.quote v) (k, .text v) :=
  ⟨rfl, denotes_quote v⟩

theorem entriesRead_props {ps : List (String × String)} {xs : List (String × Literal)}
    (h : List.Forall₂ PropReads ps xs) :
    EntriesRead (", ".intercalate (ps.map fun p => Text.quote p.1 ++ ": " ++ p.2)) xs := by
  have hes : List.Forall₂ (fun e x => Names e.1 x.1 ∧ Denotes e.2 x.2)
      (ps.map fun p => (Text.quote p.1, p.2)) xs := by
    rw [List.forall₂_map_left_iff]
    exact h.imp fun p x hpx => ⟨hpx.1 ▸ names_quote p.1, hpx.2⟩
  have hread := entries_text hes
  rwa [List.map_map] at hread

theorem sourceProp_none (o : Options) : sourceProp o none = none := by
  unfold sourceProp
  cases o.development <;> rfl

/-- A call that locates no node reads as the call of its tag, properties and children. -/
theorem reads_call_plain (o : Options) {D : List (String × String)} {tagText : String} {t : Tag}
    (ht : TagReads D tagText t) {ps : List (String × String)} {xs : List (String × Literal)}
    (hps : List.Forall₂ PropReads ps xs) {cs : List String} {es : List Element}
    (hcs : List.Forall₂ (ReadsElement D) cs es) (depth : Nat) :
    ReadsElement D (call o tagText ps cs depth none) (.call t xs es) := by
  intro fuel rest hlen
  obtain ⟨f, rfl⟩ := Nat.exists_eq_add_one_of_ne_zero (show fuel ≠ 0 by omega)
  unfold call at hlen ⊢
  simp only [sourceProp_none] at hlen ⊢
  generalize hbody : ", ".intercalate _ = body at hlen ⊢
  have hread : EntriesRead body xs := by
    rw [← hbody]
    exact entriesRead_props hps
  by_cases hempty : cs.isEmpty
  · -- without children the call closes after its properties
    rw [if_pos hempty] at hlen ⊢
    obtain rfl : cs = [] := List.isEmpty_iff.1 hempty
    obtain rfl : es = [] := List.forall₂_nil_left_iff.1 hcs
    have htext : ("h(" ++ tagText ++ ", " ++ ("\x7b" ++ body ++ "\x7d") ++ ")").toList ++ rest =
        'h' :: '(' :: (tagText.toList ++ ',' :: ' ' :: '{' :: (body.toList ++ '}' :: ')' :: rest)) := by
      simp
    rw [htext] at hlen ⊢
    obtain ⟨g, rfl⟩ := Nat.exists_eq_add_one_of_ne_zero
      (show f ≠ 0 by simp only [List.length_append, List.length_cons] at hlen; omega)
    rw [element_call ht hread hlen, skipGap_of_not (by decide)]
    rfl
  · -- each child on a line of its own, the closing parenthesis on the last line
    rw [if_neg hempty] at hlen ⊢
    have htext : ("h(" ++ tagText ++ ", " ++ ("\x7b" ++ body ++ "\x7d") ++ ",\n" ++
        String.join (cs.map fun c => indent (depth + 1) ++ c ++ ",\n") ++ indent depth ++ ")").toList ++
          rest = 'h' :: '(' :: (tagText.toList ++ ',' :: ' ' :: '{' :: (body.toList ++ '}' ::
            (',' :: '\n' :: ((String.join (cs.map fun c => indent (depth + 1) ++ c ++ ",\n")).toList ++
              (indent depth).toList ++ ')' :: rest)))) := by
      simp
    rw [htext] at hlen ⊢
    rw [element_call ht hread hlen, skipGap_of_not (by decide),
      elements_text hcs depth f rest (by simp only [List.length_append, List.length_cons] at hlen ⊢; omega)]
    rfl

/-! ## Reading the component function -/

/-- The default lines of the component function, each `"tag": "tag",` on a line of its own, up to
the entry that spreads the caller's components. -/
theorem defaults_text {ts : List String} (hts : ∀ t ∈ ts, Plain '"' t) :
    ∀ fuel rest, ((String.join (ts.map fun t => indent 2 ++ "\"" ++ t ++ "\": \"" ++ t ++ "\",\n")).toList ++
        ((indent 2).toList ++ ("**(components or \x7b\x7d)".toList ++ rest))).length < fuel →
      defaults fuel (skipGap ((String.join (ts.map fun t =>
        indent 2 ++ "\"" ++ t ++ "\": \"" ++ t ++ "\",\n")).toList ++
          ((indent 2).toList ++ ("**(components or \x7b\x7d)".toList ++ rest)))) =
        some (ts.map fun t => (t, t), rest) := by
  induction ts with
  | nil =>
    intro fuel rest hlen
    obtain ⟨f, rfl⟩ := Nat.exists_eq_add_one_of_ne_zero (show fuel ≠ 0 by omega)
    have htext : "**(components or \x7b\x7d)".toList ++ rest =
        '*' :: ("*(components or \x7b\x7d)".toList ++ rest) := by
      simp
    simp only [List.map_nil, String.join_nil, String.toList_empty, List.nil_append]
    rw [skipGap_indent, htext, skipGap_of_not (by decide), ← htext, defaults, keyword_append]
  | cons t ts ih =>
    intro fuel rest hlen
    obtain ⟨f, rfl⟩ := Nat.exists_eq_add_one_of_ne_zero (show fuel ≠ 0 by omega)
    have hplain := hts t List.mem_cons_self
    have htext : (String.join ((t :: ts).map fun t =>
        indent 2 ++ "\"" ++ t ++ "\": \"" ++ t ++ "\",\n")).toList ++
          ((indent 2).toList ++ ("**(components or \x7b\x7d)".toList ++ rest)) = (indent 2).toList ++
          (('"' :: t.toList) ++ ('"' :: ':' :: ' ' :: (('"' :: t.toList) ++ ('"' :: ',' :: '\n' ::
            ((String.join (ts.map fun t => indent 2 ++ "\"" ++ t ++ "\": \"" ++ t ++ "\",\n")).toList ++
              ((indent 2).toList ++ ("**(components or \x7b\x7d)".toList ++ rest))))))) := by
      simp
    rw [htext] at hlen ⊢
    rw [skipGap_indent, List.cons_append, skipGap_of_not (by decide), defaults.eq_def]
    dsimp only
    rw [keyword_of_ne (show "**(components or \x7b\x7d)".toList = '*' :: "*(components or \x7b\x7d)".toList by simp)
      (by decide), ← List.cons_append]
    dsimp only
    simp only [Option.bind_eq_bind]
    rw [string_plain (Or.inr rfl) hplain]
    simp only [Option.bind_some]
    rw [expect_skipGap (c := ':') (by decide)]
    simp only [Option.bind_some]
    rw [skipGap_gap (c := ' ') (by decide), List.cons_append, skipGap_of_not (c := '"') (by decide),
      ← List.cons_append, string_plain (Or.inr rfl) hplain]
    simp only [Option.bind_some]
    rw [expect_skipGap (c := ',') (by decide)]
    simp only [Option.bind_some]
    rw [skipGap_gap (c := '\n') (by decide),
      ih (fun t ht => hts t (List.mem_cons_of_mem _ ht)) f rest
        (by simp only [List.length_append, List.length_cons] at hlen ⊢; omega)]
    rfl

/-- The component function around a body reads back as its defaults, each recorded tag mapped to
itself, and the element that the body reads as through them. -/
theorem componentFunction_text {tags : Array String} (htags : ∀ t ∈ tags.toList, Plain '"' t)
    {body : String} {e : Element} (hbody : ReadsElement (tags.toList.map fun t => (t, t)) body e) :
    componentFunction (component tags body).toList = some (tags.toList.map fun t => (t, t), e) := by
  have htext : (component tags body).toList =
      "def MDXContent(h, Fragment, components=None, **props):".toList ++ ('\n' ::
        ((indent 1).toList ++ ("_components".toList ++ (' ' :: '=' :: ' ' :: '{' :: '\n' ::
          ((String.join (tags.toList.map fun t =>
            indent 2 ++ "\"" ++ t ++ "\": \"" ++ t ++ "\",\n")).toList ++
          ((indent 2).toList ++ ("**(components or \x7b\x7d)".toList ++ (',' :: '\n' ::
          ((indent 1).toList ++ ('}' :: '\n' ::
          ((indent 1).toList ++ ("return".toList ++ (' ' :: body.toList))))))))))))) := by
    have h₁ : "def MDXContent(h, Fragment, components=None, **props):\n" =
        "def MDXContent(h, Fragment, components=None, **props):" ++ "\n" := by decide
    have h₂ : "_components = \x7b\n" = "_components" ++ " = \x7b\n" := by decide
    have h₃ : "**(components or \x7b\x7d),\n" = "**(components or \x7b\x7d)" ++ ",\n" := by decide
    have h₄ : "return " = "return" ++ " " := by decide
    have hunit : indentUnit = indent 1 := by decide
    unfold component
    rw [h₁, h₂, h₃, h₄, hunit]
    simp only [String.toList_append, List.append_assoc, show "\n".toList = ['\n'] by decide,
      show " = \x7b\n".toList = [' ', '=', ' ', '{', '\n'] by decide,
      show ",\n".toList = [',', '\n'] by decide, show "\x7d\n".toList = ['}', '\n'] by decide,
      show " ".toList = [' '] by decide, List.cons_append, List.nil_append]
  rw [htext, componentFunction]
  simp only [Option.bind_eq_bind]
  rw [keyword_append]
  simp only [Option.bind_some]
  rw [skipGap_gap (by decide), skipGap_indent,
    skipGap_word (show "_components".toList = '_' :: "components".toList by simp) (by decide),
    keyword_append]
  simp only [Option.bind_some]
  rw [skipGap_gap (c := ' ') (by decide), expect_skipGap (c := '=') (by decide)]
  simp only [Option.bind_some]
  rw [skipGap_gap (c := ' ') (by decide), expect_skipGap (c := '{') (by decide)]
  simp only [Option.bind_some]
  rw [skipGap_gap (c := '\n') (by decide), defaults_text (fun t ht => htags t ht) _ _
    (by simp only [List.length_cons]; omega)]
  simp only [Option.bind_some]
  rw [expect_skipGap (c := ',') (by decide)]
  simp only [Option.bind_some]
  rw [skipGap_gap (c := '\n') (by decide), skipGap_indent, expect_skipGap (c := '}') (by decide)]
  simp only [Option.bind_some]
  rw [skipGap_gap (c := '\n') (by decide), skipGap_indent,
    skipGap_word (show "return".toList = 'r' :: "eturn".toList by simp) (by decide), keyword_append]
  simp only [Option.bind_some]
  rw [skipGap_gap (c := ' ') (by decide), ← List.append_nil body.toList, hbody.skipGap,
    hbody _ [] (by simp only [List.append_nil, List.length_cons]; omega)]
  simp only [Option.bind_some]
  rfl

/-- An empty fragment, written when the tree stands for no element. -/
theorem readsElement_fragment (D : List (String × String)) :
    ReadsElement D "h(Fragment, \x7b\x7d)" (.call .fragment [] []) := by
  have htext : "h(Fragment, \x7b\x7d)" = call ⟨.program, false, none⟩ "Fragment" [] [] 0 none := by
    unfold call
    simp only [sourceProp_none]
    decide
  rw [htext]
  exact reads_call_plain _ (tagReads_fragment D) .nil .nil 0

end Manuscript.Program.Read
