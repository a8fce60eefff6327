import Manuscript.Compiler.Basic
import Manuscript.Compiler.SourceFile
import Manuscript.Program.Generate
import Manuscript.Include

/-!
# Processing documents

A compiler processes a document in three steps: it parses the text, runs its transforms over
the tree in order, and generates the program of the transformed tree. The include transform
reads files through the host and, when the file asks for it, records every file it read.
-/

namespace Manuscript

/-- What processing a document gives: the program, the file with the diagnostics of
generation, the transformed tree and the files read. -/
structure Compiled where
  program : String
  file : SourceFile
  tree : Node
  deps : List String
  deriving Inhabited

namespace Compiler

variable {m : Type → Type} [Monad m] [Host m]

/-- Runs one transform after those before it: a failure stays, `nothing` leaves the tree as it
is, and `include` resolves the directives of the tree, adding the files it read to those read
before. -/
def transformStep (c : Compiler) (file : SourceFile) (record : Bool)
    (acc : Except Error (Node × List String)) (t : Transform) :
    m (Except Error (Node × List String)) :=
  match acc, t with
  | .error e, _ => return .error e
  | .ok r, .nothing => return .ok r
  | .ok (tree, deps), .include => do
    match ← Include.resolve c record tree file.path with
    | .ok (tree, more) => return .ok (tree, deps ++ more)
    | .error e => return .error e

/-- Runs the transforms of a compiler over the tree of `file`: the tree and the files read,
recorded when `record` is set. -/
def transform (c : Compiler) (tree : Node) (file : SourceFile) (record : Bool) :
    m (Except Error (Node × List String)) :=
  c.transforms.foldlM (transformStep c file record) (.ok (tree, []))

/-- Parses, transforms and generates a document. -/
def process (c : Compiler) (file : SourceFile) (record : Bool) : m (Except Error Compiled) := do
  match c.parse file.value with
  | .error e => return .error e
  | .ok tree =>
    match ← c.transform tree file record with
    | .error e => return .error e
    | .ok (tree, deps) =>
      let o : Program.Options := ⟨c.options.shape, c.options.development, file.path⟩
      return (Program.generate o tree file).map fun (program, file) => ⟨program, file, tree, deps⟩

end Compiler

end Manuscript
