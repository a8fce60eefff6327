import Manuscript.Data.Value
import Manuscript.Data.Literal
import Manuscript.Data.Json
import Manuscript.Text.Blank
import Manuscript.Text.Quoted
import Manuscript.Text.WordChar
import Manuscript.Text.Lowercase
import Manuscript.Document.Node
import Manuscript.Compiler.Options
import Manuscript.Compiler.SourceFile
import Manuscript.Error

/-!
# Generating programs

A document tree becomes the text of a Python program that defines a component function:

```
def MDXContent(h, Fragment, components=None, **props):
    _components = {
        "h1": "h1",
        **(components or {}),
    }
    return h(Fragment, {}, h(_components["h1"], {}, 'Title'), ...)
```

Every node is a call of the element factory `h` with a tag, a mapping of properties and its
children, each child on a line of its own, indented one level deeper than its parent. Tags
resolve through `_components`, whose defaults list the built-in tags in the order of their
first use. Text becomes a string literal, expressions are written in parentheses, and module
statements are lifted to the top of the program; `export name = …` statements also name an
export. In development mode every call of a positioned node carries a `__source` property with
the file and the first line: the node's own file unless it is empty, else the program's.

A program is a module that ends by naming its default export, or the body of a function that
returns its namespace. Raw HTML is kept as an opaque `raw` element and reported in a warning.
-/

namespace Manuscript.Program

open Manuscript.Text

/-- How a program is generated: its shape, whether calls carry their source location, and the
path of the document. -/
structure Options where
  shape : ProgramShape
  development : Bool
  path : Option String
  deriving Inhabited, Repr

/-- The state of generation: the built-in tags in order of first use, and the diagnostics. -/
structure State where
  tags : Array String := #[]
  messages : Array Diagnostic := #[]
  deriving Inhabited

/-- Generation, which records tags and diagnostics and may fail. -/
abbrev Gen := StateT State (Except Error)

/-- One level of indentation. -/
def indentUnit : String := "    "

/-- Indentation to a depth. -/
def indent (depth : Nat) : String := String.join (List.replicate depth indentUnit)

/-- The reference to a built-in tag, which is recorded among the defaults. -/
def tagRef (name : String) : Gen String := do
  modify fun s => if s.tags.contains name then s else { s with tags := s.tags.push name }
  return "_components[\"" ++ name ++ "\"]"

/-- The reference to a component: a name that starts with a lowercase character is a tag like
the built-in ones, any other name is looked up by its quoted name. -/
def componentRef (name : String) : Gen String :=
  match name.toList.head? with
  | some c => if isLowercase c then tagRef name else pure ("_components[" ++ quote name ++ "]")
  | none => pure ("_components[" ++ quote name ++ "]")

/-- Sets a property, keeping the place of a property that is already there. -/
def setProp (props : List (String × String)) (key code : String) : List (String × String) :=
  if props.any (·.1 == key) then props.map fun (k, v) => if k == key then (k, code) else (k, v)
  else props ++ [(key, code)]

/-- The `__source` property of a positioned node in development mode. -/
def sourceProp (o : Options) (node : Option Node) : Option String := do
  guard o.development
  let n ← node
  let p ← n.position
  let file := match p.path.filter (!·.isEmpty) with
    | some f => quote f
    | none => (o.path.map quote).getD "None"
  return "\x7b'fileName': " ++ file ++ ", 'lineNumber': " ++ toString p.startLine ++ "\x7d"

/-- A call of the element factory: the tag, the properties, and the children one per line at
the given depth. -/
def call (o : Options) (tag : String) (props : List (String × String)) (children : List String)
    (depth : Nat) (node : Option Node) : String :=
  let props := match sourceProp o node with
    | some s => setProp props "__source" s
    | none => props
  let propsCode := "\x7b" ++ ", ".intercalate (props.map fun (k, v) => quote k ++ ": " ++ v) ++ "\x7d"
  if children.isEmpty then "h(" ++ tag ++ ", " ++ propsCode ++ ")"
  else
    "h(" ++ tag ++ ", " ++ propsCode ++ ",\n" ++
      String.join (children.map fun c => indent (depth + 1) ++ c ++ ",\n") ++ indent depth ++ ")"

/-- The properties of a component element: a boolean attribute is `True`, an expression is
written in parentheses, and any other value is quoted. -/
def elementProps (n : Node) : List (String × String) :=
  n.attributes.foldl (fun props a =>
    let code := match a.value with
      | none => "True"
      | some v => if a.expression then "(" ++ trimBlank v ++ ")" else quote v
    setProp props a.name code) []

/-- Whether a data key of a node holds a true value. -/
def flag (n : Node) (key : String) : Bool :=
  ((n.data.find? (·.1 == key)).map (·.2.truthy)).getD false

/-- A text that is present and not empty. -/
def present : Option String → Option String
  | some s => if s.isEmpty then none else some s
  | none => none

/-- What a node becomes. -/
inductive Shape where
  /-- A call whose children are the node's own children. -/
  | element (tag : String) (props : List (String × String))
  /-- A call with the given children. -/
  | call (tag : String) (props : List (String × String)) (children : List String)
  /-- A piece of program text. -/
  | code (text : String)
  /-- Nothing at all. -/
  | nothing
  deriving Inhabited

/-- The element call of a built-in tag. -/
def builtin (tag : String) : Gen Shape := do
  return .element (← tagRef tag) []

/-- Decides what a node becomes, recording the tags it uses and the warnings it raises. -/
def shapeOf (o : Options) (n : Node) (depth : Nat) : Gen Shape := do
  match n.kind with
  | .text => return .code (quote (n.value.getD ""))
  | .root => return .element "Fragment" []
  | .paragraph => if flag n "tight" then return .element "Fragment" [] else builtin "p"
  | .heading => builtin ("h" ++ ((n.depth.map toString).getD "None"))
  | .list =>
    let ordered := n.ordered == some true
    let props := match n.start with
      | some s => if ordered && s != 1 then [("start", toString s)] else []
      | none => []
    return .element (← tagRef (if ordered then "ol" else "ul")) props
  | .inlineCode => return .call (← tagRef "code") [] [quote (n.value.getD "")]
  | .code =>
    let props := match present n.lang with
      | some l => [("className", quote ("language-" ++ l))]
      | none => []
    let inner := call o (← tagRef "code") props [quote (n.value.getD "")] (depth + 1) none
    return .call (← tagRef "pre") [] [inner]
  | .link =>
    let props := [("href", quote (n.url.getD ""))] ++
      ((present n.title).map fun t => [("title", quote t)]).getD []
    return .element (← tagRef "a") props
  | .image =>
    let props := [("src", quote (n.url.getD "")), ("alt", quote (n.alt.getD ""))] ++
      ((present n.title).map fun t => [("title", quote t)]).getD []
    return .call (← tagRef "img") props []
  | .tableCell =>
    let tag ← tagRef (if flag n "header" then "th" else "td")
    let props := match present n.align with
      | some a => [("style", "\x7b'textAlign': " ++ quote a ++ "\x7d")]
      | none => []
    return .element tag props
  | .html =>
    let d := Diagnostic.at? "Raw HTML is emitted as an opaque `raw` element" (some n) .warning
      (some "codegen")
    modify fun s => { s with messages := s.messages.push d }
    return .call (← tagRef "raw") [("value", quote (n.value.getD ""))] []
  | .flowElement | .textElement =>
    let ref ← componentRef (n.name.getD "")
    return .element ref (elementProps n)
  | .flowExpression | .textExpression =>
    let e := trimBlank (n.value.getD "")
    return if e.isEmpty then .nothing else .code ("(" ++ e ++ ")")
  | .esm => return .nothing
  | .blockquote => builtin "blockquote"
  | .emphasis => builtin "em"
  | .strong => builtin "strong"
  | .delete => builtin "del"
  | .listItem => builtin "li"
  | .thematicBreak => builtin "hr"
  | .lineBreak => builtin "br"
  | .table => builtin "table"
  | .tableRow => builtin "tr"
  | .other name => throw (.compile ("Cannot compile node of type `" ++ name ++ "`"))

/-- The program expression of a node at a depth, if it has one. -/
def expression (o : Options) (n : Node) (depth : Nat) : Gen (Option String) := do
  match ← shapeOf o n depth with
  | .element tag props =>
    let rendered ← n.children.attach.mapM fun ⟨c, _⟩ => expression o c (depth + 1)
    return some (call o tag props (rendered.filterMap id) depth (some n))
  | .call tag props children => return some (call o tag props children depth (some n))
  | .code text => return some text
  | .nothing => return none
termination_by n
decreasing_by exact Node.sizeOf_lt_of_mem_children ‹_›

/-- Whether `c` is a word character of a name. -/
def isNameChar (c : Char) : Bool := isWordChar c

/-- The name exported by a line `export name = …`. -/
def exportName? (line : String) : Option String :=
  let cs := line.toList
  if (cs.take 6) != "export".toList then none
  else
    let rest := cs.drop 6
    let afterBlank := rest.dropWhile isBlank
    if afterBlank.length == rest.length then none
    else
      let name := afterBlank.takeWhile isNameChar
      let after := (afterBlank.drop name.length).dropWhile isBlank
      if !name.isEmpty && after.head? == some '=' then some (String.ofList name) else none

/-- The lines of the module statements of a tree, in document order, with `export` dropped from
exporting lines, and the names they export. -/
def moduleLines (tree : Node) : List String × List String :=
  tree.walk.foldl (fun (acc : List String × List String) n =>
    if n.kind != .esm then acc
    else
      ((n.value.getD "").splitOn "\n").foldl (fun (acc : List String × List String) line =>
        match exportName? line with
        | some name => (acc.1 ++ [trimBlankLeft (String.ofList (line.toList.drop 6))], acc.2 ++ [name])
        | none => (acc.1 ++ [line], acc.2)) acc) ([], [])

/-- A data value written as a program literal after it is passed through JSON, so that only
JSON's kinds of values remain. -/
def dataLiteral (v : Value) : Except Error String :=
  match Json.write ⟨", ", ": ", false, true⟩ v with
  | .error e => .error e
  | .ok text =>
    match Json.parse text with
    | .ok w => .ok w.literal
    | .error msg => .error (.badValue msg)

/-- The component function around a body. -/
def component (tags : Array String) (body : String) : String :=
  "def MDXContent(h, Fragment, components=None, **props):\n" ++
  indentUnit ++ "_components = \x7b\n" ++
  String.join (tags.toList.map fun t => indent 2 ++ "\"" ++ t ++ "\": \"" ++ t ++ "\",\n") ++
  indent 2 ++ "**(components or \x7b\x7d),\n" ++
  indentUnit ++ "\x7d\n" ++
  indentUnit ++ "return " ++ body

/-- Generates the program of a tree for a file; answers the program and the file with the
diagnostics of generation added. -/
def generate (o : Options) (tree : Node) (file : SourceFile) : Except Error (String × SourceFile) := do
  let (lines, exports) := moduleLines tree
  let (body, st) ← (expression o tree 1).run {}
  let body := body.getD "h(Fragment, \x7b\x7d)"
  let front := match file.datum? "frontmatter" with
    | some v => if v.truthy then v else .dict []
    | none => .dict []
  let frontmatter ← dataLiteral front
  let header := match o.shape with
    | .program => ["\"\"\"Compiled from " ++ (o.path.filter (!·.isEmpty)).getD "<source>" ++
        ".\"\"\""]
    | .functionBody => []
  let footer := match o.shape with
    | .program => "default = MDXContent"
    | .functionBody =>
      let names := ["\"default\": MDXContent", "\"frontmatter\": frontmatter"] ++
        exports.map fun n => "\"" ++ n ++ "\": " ++ n
      "return \x7b" ++ ", ".intercalate names ++ "\x7d"
  let sections := header ++ (if lines.isEmpty then [] else ["\n".intercalate lines]) ++
    ["frontmatter = " ++ frontmatter, component st.tags body, footer]
  return ("\n\n\n".intercalate sections ++ "\n",
    { file with messages := file.messages ++ st.messages.toList })

end Manuscript.Program
