import Manuscript.Build.Run
import Manuscript.Daemon.Request

/-!
# The build service

The service runs the requests of the daemon and of the command line against a compiler cache
and the daemon's settings.

A request that names no group falls back to its collection and then to the configured default
group; one that gives no fingerprint gets one made of the format and the compiler fields it set,
so that changing any of them builds a new compiler. An empty text counts as not given.

A file request reads the document as UTF-8 text, splits off its front matter and builds the
body; the front matter must be a mapping with text keys. The files that includes read are
reported once each, in the order they were first read.
-/

namespace Manuscript.Daemon

/-- A finished build and the cache lookup that produced it. -/
structure Outcome where
  compiled : Compiled
  format : SourceFormat
  group : String
  configHash : String
  frontmatter : Option (List (String × Value))
  dependencies : List String
  deriving Inhabited

/-- The given text when it is not empty. -/
def nonEmpty (s : Option String) : Option String := s.filter (!·.isEmpty)

/-- The cache group of a request. -/
def groupOf (settings : Settings) (group collection : Option String) : String :=
  ((nonEmpty group).orElse fun _ => nonEmpty collection).getD settings.defaultGroup

/-- The fingerprint of a request: the one it gives, else that of its format and compiler
fields. -/
def fingerprintOf (given : Option String) (format : SourceFormat) (fields : CompilerFields) :
    Except Error String :=
  match nonEmpty given with
  | some h => .ok h
  | none => configHash (("format", .str format.name) :: fields.entries)

/-- A front-matter mapping as the build options take it (see `Lax.record?`). -/
def matterEntries (data : List (Value × Value)) : Except Error (List (String × Value)) :=
  match Lax.record? (.dict data) with
  | some r => .ok r
  | none => .error (.invalidRecord ["frontmatter"])

variable {m : Type → Type} [Monad m] [Host m]

/-- Builds a document with the options of a request. -/
def runBuild (cache : CompilerCache) (settings : Settings) (o : BuildOptions)
    (group collection given : Option String) (fields : CompilerFields) (source : String) :
    m (Except Error Outcome × CompilerCache) := do
  let format := o.resolvedFormat
  let group := groupOf settings group collection
  match fingerprintOf given format fields with
  | .error e => return (.error e, cache)
  | .ok hash =>
    let (r, cache) ← buildDocument cache group hash source o (some settings) true
    return (r.map fun c => ⟨c, format, group, hash, o.frontmatter, c.deps.eraseDups⟩, cache)

/-- Builds document text. -/
def buildSource (cache : CompilerCache) (settings : Settings) (r : SourceRequest) :
    m (Except Error Outcome × CompilerCache) := do
  let cwd ← Host.workingDir
  let o : BuildOptions :=
    { r.fields.toOptions with
      collection := r.collection
      filePath := (nonEmpty r.filePath).map (Path.absolute cwd)
      frontmatter := r.frontmatter
      data := r.data }
  runBuild cache settings o r.group r.collection r.configHash r.fields r.source

/-- Reads, splits and builds a document on disk. -/
def buildFile (cache : CompilerCache) (settings : Settings) (r : FileRequest) :
    m (Except Error Outcome × CompilerCache) := do
  let path := Path.absolute (← Host.workingDir) r.path
  match ← Host.readText path with
  | .error (.os e) => return (.error (.system e.className e.message), cache)
  | .error .nullByte => return (.error (.badValue "embedded null byte"), cache)
  | .error (.undecodable f) => return (.error (.undecodable f.message), cache)
  | .ok text =>
    match FrontMatter.split text (some path) >>= fun f => (matterEntries f.data).map (f, ·) with
    | .error e => return (.error e, cache)
    | .ok (matter, data) =>
      let o : BuildOptions :=
        { r.fields.toOptions with
          collection := r.collection
          filePath := some path
          frontmatter := some data }
      runBuild cache settings o r.group r.collection r.configHash r.fields matter.content

end Manuscript.Daemon
