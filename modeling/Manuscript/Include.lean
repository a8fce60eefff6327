import Manuscript.Document.Node
import Manuscript.Compiler.Basic
import Manuscript.FrontMatter
import Manuscript.Host.Basic
import Manuscript.Host.Path

/-!
# Include directives

A flow element `<include>path</include>` stands for the document at `path`, relative to the
directory of the including document. Resolving a tree replaces each directive by the tree of
the document it names, with that document's front matter dropped, its own directives resolved
relative to it, and every position pointing at its file, at the line the text has there (front
matter counted).

A directive is a leaf: nothing inside it is searched. One whose first child is not text names
nothing and stays as it is.

Resolving fails when a directive has no including path to be relative to, when a document
includes itself through any chain of includes, when includes nest 64 deep, and when a named
file cannot be read, split or parsed. Each file read is recorded, once per directive.
-/

namespace Manuscript

namespace Include

open Manuscript.Text

/-- The greatest depth of nested includes. -/
def maxDepth : Nat := 64

/-- A directive found in a tree: the child indices that lead to it from the root, and the path
it names. -/
structure Site where
  place : List Nat
  specifier : String
  deriving Inhabited, Repr

/-- Whether a node is an include directive. -/
def isDirective (n : Node) : Bool := n.kind == .flowElement && n.name == some "include"

/-- The directives of a tree that name a path, in document order, below the place `place`
(innermost index first). -/
def sitesAt (place : List Nat) (n : Node) : List Site :=
  if isDirective n then
    match n.children with
    | c :: _ => if c.kind == .text then [⟨place.reverse, c.value.getD ""⟩] else []
    | [] => []
  else
    (n.children.attach.zipIdx.map fun (⟨c, _⟩, i) => sitesAt (i :: place) c).flatten
termination_by n
decreasing_by exact Node.sizeOf_lt_of_mem_children ‹_›

/-- The directives of a tree that name a path, in document order. -/
def sites (tree : Node) : List Site := sitesAt [] tree

/-- The number of include directives anywhere in a tree, those inside directives too. -/
def directiveCount (tree : Node) : Nat := (tree.walk.filter isDirective).length

/-- The tree with the node at a place replaced. -/
def replaceAt (n : Node) (place : List Nat) (r : Node) : Node :=
  match place with
  | [] => r
  | i :: rest =>
    match n.children[i]? with
    | some c => { n with children := n.children.set i (replaceAt c rest r) }
    | none => n

/-- The tree with every directive that names a path replaced. -/
def replaceAll (tree : Node) (replacements : List (Site × Node)) : Node :=
  replacements.foldl (fun t (s, r) => replaceAt t s.place r) tree

/-- Points every position of a tree at lines of a file, shifted by `offset`. -/
def markSource (tree : Node) (path : String) (offset : Int) : Node :=
  tree.mapPositions fun p => ⟨p.startLine + offset, p.endLine + offset, some path⟩

/-- The number of line feeds in a text. -/
def lineFeeds (s : String) : Nat := s.toList.count '\n'

/-- The failure of a directive. -/
def failure (message : String) (site : Site) (path : Option String) : Error :=
  .includeFailed message (some site.specifier) path

/-- Resolving includes: failures are errors, and every file read is recorded. -/
abbrev Resolving (m : Type → Type) := ExceptT Error (StateT (List String) m)

variable {m : Type → Type} [Monad m] [Host m]

/-- Reads the text of an included file. -/
def readIncluded (site : Site) (target : String) : Resolving m String := do
  match ← (Host.readText target : m _) with
  | .ok s => return s
  | .error (.os e) =>
    throw (failure ("Cannot read included file " ++ quote target ++ ": " ++ e.message) site
      (some target))
  | .error (.undecodable f) =>
    throw (failure ("Cannot read included file " ++ quote target ++ ": " ++ f.message) site
      (some target))
  | .error .nullByte => throw (.badValue "embedded null byte")

/-- Lifts a result into resolving. -/
def ofExcept {α : Type} : Except Error α → Resolving m α
  | .ok a => pure a
  | .error e => throw e

/-- The file a directive names, from the directory `baseDir` of the including document. -/
def targetOf (cwd baseDir : String) (site : Site) : String :=
  Path.absolute cwd (Path.join baseDir site.specifier)

/-- The failure of a directive in a document that has no path to be relative to. -/
def noPathFailure (site : Site) : Error :=
  failure ("Cannot resolve include " ++ quote site.specifier ++
    ": the including document has no path") site none

/-- The failure of a directive in the document at `path`, nested `maxDepth` deep. -/
def depthFailure (site : Site) (path : String) : Error :=
  failure ("Includes nested deeper than " ++ toString maxDepth ++ " levels in " ++ path) site
    (some path)

/-- The failure of a directive whose target is already in the chain of including documents: the
message lists the chain from that target on, and the target again. -/
def cycleFailure (chain : List String) (site : Site) (target : String) : Error :=
  failure ("Circular include: " ++ " -> ".intercalate (chain.drop (chain.idxOf target) ++ [target]))
    site (some target)

/-- Reads the document a directive names: its text without front matter, parsed, with every
position pointing at its line in the file (front matter counted). -/
def load (c : Compiler) (site : Site) (target : String) : Resolving m Node := do
  let content ← readIncluded site target
  let body := (← ofExcept (FrontMatter.splitWith c.yaml content (some target))).content
  let parsed ← match c.parse body with
    | .ok t => pure t
    | .error e => throw (e.withPath target)
  return markSource parsed target ((lineFeeds content : Int) - lineFeeds body)

/-- Resolves one directive of a document in the directory `baseDir` at nesting depth `depth`,
inside the chain `chain` that ends with that document: the document the directive names is
loaded, recorded when `record` is set, and its own directives resolved by `resolve`. -/
def resolveSite (resolve : Node → Option String → Nat → List String → Resolving m Node)
    (c : Compiler) (record : Bool) (cwd baseDir : String) (depth : Nat) (chain : List String)
    (site : Site) : Resolving m (Site × Node) := do
  let target := targetOf cwd baseDir site
  if chain.contains target then throw (cycleFailure chain site target)
  let parsed ← load c site target
  if record then modify (· ++ [target])
  let resolved ← resolve parsed (some target) (depth + 1) chain
  return (site, resolved)

/-- Resolves the directives of a tree read from `path`, at nesting depth `depth`, inside the
chain of including documents `chain` (outermost first); `record` tells whether files read are
recorded. `fuel` bounds the depth and is never the reason it stops. -/
def resolveTree (c : Compiler) (record : Bool) :
    Nat → Node → Option String → Nat → List String → Resolving m Node
  | 0, tree, _, _, _ => pure tree
  | fuel + 1, tree, path, depth, chain => do
    match sites tree with
    | [] => return tree
    | first :: _ =>
      let some p := path | throw (noPathFailure first)
      if depth ≥ maxDepth then throw (depthFailure first p)
      let cwd ← (Host.workingDir : m String)
      let here := Path.absolute cwd p
      let replacements ← (sites tree).mapM
        (resolveSite (resolveTree c record fuel) c record cwd (Path.dirname here) depth
          (chain ++ [here]))
      return replaceAll tree replacements

/-- Resolves the directives of a tree read from `path`: the tree, and the files read when
`record` is set. -/
def resolve (c : Compiler) (record : Bool) (tree : Node) (path : Option String) :
    m (Except Error (Node × List String)) := do
  let (r, deps) ← ((resolveTree c record (maxDepth + 1) tree path 0 []).run).run []
  return r.map fun t => (t, deps)

end Include

end Manuscript
