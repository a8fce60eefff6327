import Manuscript.Build.Options
import Manuscript.Build.Cache
import Manuscript.Compiler.Process
import Manuscript.Settings.Config

/-!
# Building a document

A build looks up the compiler of its group and format in the cache, building one when the cache
holds none with the build's fingerprint, and processes the document with it. The document's data
are the build's data with its front matter under `frontmatter` (null when there is none) and its
collection under `collection` when it names one.

The cache keeps a compiler it built even when the document then fails to build. A new compiler
takes its development mode from the settings, which are read from the environment
when the build is given none; they are read only when a compiler is built.
-/

namespace Manuscript

namespace BuildOptions

/-- The data that a build hands to the document. -/
def documentData (o : BuildOptions) : List (String × Value) :=
  let data := putEntry o.data "frontmatter" ((o.frontmatter.map Value.record).getD .null)
  match o.collection with
  | some c => putEntry data "collection" (.str c)
  | none => data

end BuildOptions

variable {m : Type → Type} [Monad m] [Host m]

/-- Builds a document with a compiler from the cache; `record` tells whether files read are
recorded, and `settings` are the ambient settings, read from the environment when absent. The
cache keeps a compiler it built even when processing the document then fails. -/
def buildDocument (cache : CompilerCache) (group hash source : String) (o : BuildOptions)
    (settings : Option Settings) (record : Bool) : m (Except Error Compiled × CompilerCache) := do
  let format := o.resolvedFormat
  let build : m (Except Error Compiler) := do
    let s ← match settings with
      | some s => pure (Except.ok s)
      | none => pure ((← Settings.fromEnvironment []).map (·.1))
    match s with
    | .error e => return .error e
    | .ok s => return Compiler.build (o.compilerOptions format s.isDevelopment)
  match ← cache.getOrBuild group format.name hash build with
  | .error e => return (.error e, cache)
  | .ok (compiler, cache) =>
    let file : SourceFile := { value := source, path := o.filePath, data := o.documentData }
    return (← compiler.process file record, cache)

end Manuscript
