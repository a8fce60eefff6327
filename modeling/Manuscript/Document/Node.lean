import Manuscript.Data.Value

/-!
# Document trees

A document is a tree of nodes in the vocabulary of the Markdown abstract syntax tree (`root`,
`paragraph`, `text`, …) extended by component elements, embedded expressions and module
statements. A node carries only the fields that matter for its kind: `value` for literals,
`name` and `attributes` for elements, `depth` for headings, `url`, `title` and `alt` for links
and images, and the 1-based, inclusive line span it came from.

Trees also come from outside, so the kind is open: `NodeKind.ofName` keeps every name, and
`NodeKind.name` gives it back.

`Node.walk` lists a tree in document order; `Node.textContent` joins its text.
-/

namespace Manuscript

/-- The 1-based, inclusive line span of a node; `path` names the file the lines belong to when
it is not the document being compiled. -/
structure Position where
  startLine : Int
  endLine : Int
  path : Option String := none
  deriving Inhabited, Repr, DecidableEq

/-- An attribute of a component element: boolean without a value, an expression when the
value was written in braces. -/
structure Attribute where
  name : String
  value : Option String := none
  expression : Bool := false
  deriving Inhabited, Repr, DecidableEq

/-- The kinds of node. -/
inductive NodeKind where
  | root | paragraph | heading | text | emphasis | strong | delete | inlineCode | lineBreak
  | link | image | html | blockquote | list | listItem | code | thematicBreak
  | table | tableRow | tableCell
  | flowElement | textElement | flowExpression | textExpression | esm
  | other (name : String)
  deriving Inhabited, Repr, DecidableEq

namespace NodeKind

/-- The kinds with a name of their own. -/
def named : List NodeKind :=
  [.root, .paragraph, .heading, .text, .emphasis, .strong, .delete, .inlineCode, .lineBreak,
   .link, .image, .html, .blockquote, .list, .listItem, .code, .thematicBreak,
   .table, .tableRow, .tableCell,
   .flowElement, .textElement, .flowExpression, .textExpression, .esm]

/-- The name of a kind in the tree vocabulary. -/
def name : NodeKind → String
  | .root => "root" | .paragraph => "paragraph" | .heading => "heading" | .text => "text"
  | .emphasis => "emphasis" | .strong => "strong" | .delete => "delete"
  | .inlineCode => "inlineCode" | .lineBreak => "break" | .link => "link"
  | .image => "image" | .html => "html" | .blockquote => "blockquote" | .list => "list"
  | .listItem => "listItem" | .code => "code" | .thematicBreak => "thematicBreak"
  | .table => "table" | .tableRow => "tableRow" | .tableCell => "tableCell"
  | .flowElement => "mdxJsxFlowElement" | .textElement => "mdxJsxTextElement"
  | .flowExpression => "mdxFlowExpression" | .textExpression => "mdxTextExpression"
  | .esm => "mdxjsEsm"
  | .other n => n

/-- The kind of a name; a name outside the vocabulary is kept as it is. -/
def ofName (s : String) : NodeKind :=
  (named.find? (·.name == s)).getD (.other s)

/-- Whether the kind is a component element. -/
def isElement : NodeKind → Bool
  | .flowElement | .textElement => true
  | _ => false

end NodeKind

/-- A node of a document tree. -/
structure Node where
  kind : NodeKind
  children : List Node := []
  value : Option String := none
  name : Option String := none
  attributes : List Attribute := []
  depth : Option Int := none
  ordered : Option Bool := none
  start : Option Int := none
  lang : Option String := none
  url : Option String := none
  title : Option String := none
  alt : Option String := none
  align : Option String := none
  position : Option Position := none
  data : List (String × Value) := []
  deriving Inhabited, Repr

namespace Node

theorem sizeOf_lt_of_mem_children {n c : Node} (h : c ∈ n.children) : sizeOf c < sizeOf n := by
  obtain ⟨k, cs, v, nm, a, d, o, s, l, u, t, al, ag, p, dt⟩ := n
  have := List.sizeOf_lt_of_mem h
  simp only [Node.mk.sizeOf_spec] at this ⊢
  omega

/-- A text node. -/
def text (s : String) : Node :=
  { kind := .text, value := some s }

/-- A component element with text attributes; a flow element stands as a block, a text
element inside running text. -/
def element (name : String) (children : List Node) (flow : Bool)
    (attributes : List (String × String)) : Node :=
  { kind := if flow then .flowElement else .textElement, name := some name, children,
    attributes := attributes.map fun (k, v) => { name := k, value := some v } }

/-- Whether the node holds a value and no children. -/
def isLiteral (n : Node) : Bool :=
  n.value.isSome && n.children.isEmpty

/-- The node and all its descendants, depth first in document order. -/
def walk (n : Node) : List Node :=
  n :: (n.children.map walk).flatten
termination_by n
decreasing_by exact sizeOf_lt_of_mem_children ‹_›

/-- The values of the text and inline code below the node, joined. -/
def textContent (n : Node) : String :=
  match n.kind with
  | .text | .inlineCode => n.value.getD ""
  | _ => String.join (n.children.map textContent)
termination_by n
decreasing_by all_goals exact sizeOf_lt_of_mem_children ‹_›

/-- The first attribute of a name. -/
def attribute? (n : Node) (name : String) : Option Attribute :=
  n.attributes.find? (·.name == name)

/-- Applies a change to the position of every positioned node of a tree. -/
def mapPositions (f : Position → Position) (n : Node) : Node :=
  { n with position := n.position.map f, children := n.children.map (mapPositions f) }
termination_by n
decreasing_by exact sizeOf_lt_of_mem_children ‹_›

end Node

end Manuscript
