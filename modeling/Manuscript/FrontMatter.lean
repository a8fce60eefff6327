import Manuscript.Yaml.Load
import Manuscript.Error
import Manuscript.Text.Blank

/-!
# Front matter

A document may open with a block of YAML between two fence lines `---`:

```
---
title: Hello
---
Body
```

`FrontMatter.split` separates that block from the body. A byte order mark before the first line
is dropped, and CR LF counts as a line break. The opening fence is the first line, the closing
one the next line that is a fence; a fence may carry trailing blanks. Without both fences the
whole text is the body.

The block must hold a mapping: an empty block, or one holding only null, is the empty mapping.
Text that is not YAML, and YAML that is no mapping, are front-matter errors at the document's
path. `splitWith` takes the YAML reader as a parameter; `split` reads YAML.
-/

namespace Manuscript

open Manuscript.Text

/-- A document split into its front matter and its body. -/
structure FrontMatter where
  /-- The entries of the front-matter mapping. -/
  data : List (Value × Value)
  /-- The body after the closing fence. -/
  content : String
  /-- The text between the fences. -/
  matter : String
  deriving Inhabited, Repr

namespace FrontMatter

/-- Whether a document had a front-matter block with any text in it. -/
def present (f : FrontMatter) : Bool := !f.matter.isEmpty

/-- Removes the blanks at the end of a text. -/
def trimEnd (s : String) : String :=
  String.ofList (s.toList.reverse.dropWhile isBlank).reverse

/-- Whether a line is a fence. -/
def isFence (line : String) : Bool := trimEnd line == "---"

/-- Replaces every CR LF by LF, from left to right. -/
def joinCrLf (s : String) : String := String.ofList (go s.toList)
where
  go : List Char → List Char
    | '\r' :: '\n' :: rest => '\n' :: go rest
    | c :: rest => c :: go rest
    | [] => []

/-- Drops one byte order mark from the start of a text. -/
def dropBom (text : String) : String :=
  match text.toList with
  | '\uFEFF' :: rest => String.ofList rest
  | _ => text

/-- The lines of a text: the parts between its line feeds. -/
def lines (s : String) : List String := (s.toList.splitOn '\n').map String.ofList

/-- The error of a block that cannot be loaded. -/
def loadFailure (matter : String) (path : Option String) : Yaml.LoadError → Error
  | e@(.unacceptable ..) | e@(.marked _) =>
    .frontmatter ("Failed to parse YAML front-matter: " ++ e.message matter) path none
  | .badValue m => .badValue m
  | .missingKey m => .missingKey m
  | .missingAttribute m => .missingAttribute m
  | .outOfRange m => .outOfRange m
  | .recursive => .tooDeep "maximum recursion depth exceeded"

/-- The mapping that a front-matter block holds, read by the YAML reader `load`. -/
def dataOf (load : String → Except Yaml.LoadError Value) (matter : String)
    (path : Option String) : Except Error (List (Value × Value)) := do
  if (trimBlank matter).isEmpty then return []
  match load matter with
  | .error e => throw (loadFailure matter path e)
  | .ok .null => return []
  | .ok (.dict entries) => return entries
  | .ok v =>
    throw (.frontmatter ("Front-matter must be a mapping, got " ++ v.typeName) path none)

/-- Splits the front matter off a document, reading it with the YAML reader `load`; `path` names
the document in errors. -/
def splitWith (load : String → Except Yaml.LoadError Value) (text : String)
    (path : Option String) : Except Error FrontMatter := do
  let text := dropBom text
  let whole : FrontMatter := ⟨[], text, ""⟩
  match lines (joinCrLf text) with
  | first :: rest =>
    if !isFence first then return whole
    match rest.findIdx? isFence with
    | none => return whole
    | some i =>
      let matter := "\n".intercalate (rest.take i)
      let content := "\n".intercalate (rest.drop (i + 1))
      return ⟨← dataOf load matter path, content, matter⟩
  | [] => return whole

/-- Splits the front matter off a document, reading it as YAML. -/
def split (text : String) (path : Option String) : Except Error FrontMatter :=
  splitWith Yaml.load text path

end FrontMatter

end Manuscript
