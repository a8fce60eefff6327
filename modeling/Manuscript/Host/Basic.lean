import Manuscript.Text.Quoted
import Manuscript.Text.Utf8
import Manuscript.Host.Path

/-!
# The host

The library reads and writes files and environment variables through `Host`, a class over the
monad it runs in. Paths handed to the host may be relative to its working directory.

Failures of the file system are `OsError`s, reported the way the operating system names them:
`[Errno 2] No such file or directory: '/docs/a.mdx'`.

`World` is a host held as data: a working directory, a tree of files and directories, and the
environment. Its files live under absolute, normalized paths; `/` is always a directory.
-/

namespace Manuscript

/-- The kinds of file system failure. -/
inductive OsErrorKind where
  | notFound
  | isDirectory
  | notDirectory
  | alreadyExists
  deriving Inhabited, Repr, DecidableEq

/-- A failure of the file system at a path. -/
structure OsError where
  kind : OsErrorKind
  path : String
  deriving Inhabited, Repr

namespace OsError

/-- The error number of a failure. -/
def errno : OsError → Nat
  | ⟨.notFound, _⟩ => 2
  | ⟨.isDirectory, _⟩ => 21
  | ⟨.notDirectory, _⟩ => 20
  | ⟨.alreadyExists, _⟩ => 17

/-- The description of a failure. -/
def description : OsError → String
  | ⟨.notFound, _⟩ => "No such file or directory"
  | ⟨.isDirectory, _⟩ => "Is a directory"
  | ⟨.notDirectory, _⟩ => "Not a directory"
  | ⟨.alreadyExists, _⟩ => "File exists"

/-- The class name under which the failure is reported. -/
def className : OsError → String
  | ⟨.notFound, _⟩ => "FileNotFoundError"
  | ⟨.isDirectory, _⟩ => "IsADirectoryError"
  | ⟨.notDirectory, _⟩ => "NotADirectoryError"
  | ⟨.alreadyExists, _⟩ => "FileExistsError"

/-- The message of a failure. -/
def message (e : OsError) : String :=
  "[Errno " ++ toString e.errno ++ "] " ++ e.description ++ ": " ++ Text.quote e.path

end OsError

/-- What a path names. -/
inductive EntryKind where
  | file
  | directory
  | missing
  deriving Inhabited, Repr, DecidableEq

/-- The services of the host. -/
class Host (m : Type → Type) where
  /-- The working directory, absolute. -/
  workingDir : m String
  /-- The bytes of a file. -/
  readFile : String → m (Except OsError ByteArray)
  /-- Writes a file, replacing its content. -/
  writeFile : String → ByteArray → m (Except OsError Unit)
  /-- Creates one directory whose parent exists. -/
  makeDir : String → m (Except OsError Unit)
  /-- What a path names. -/
  entryKind : String → m EntryKind
  /-- The value of an environment variable. -/
  getEnv : String → m (Option String)
  /-- All environment variables. -/
  environment : m (List (String × String))

/-- An entry of a file tree. -/
inductive Entry where
  | file (bytes : ByteArray)
  | directory

/-- A host held as data. -/
structure World where
  cwd : String := "/vfs"
  entries : List (String × Entry) := [("/vfs", .directory)]
  env : List (String × String) := []

namespace World

/-- The entry at an absolute, normalized path. -/
def find? (w : World) (p : String) : Option Entry :=
  if p == "/" then some .directory else (w.entries.find? (·.1 == p)).map (·.2)

/-- The proper ancestors of an absolute, normalized path, outermost first, `/` excluded. -/
def ancestors (p : String) : List String :=
  let parts := ((p.toList.splitOn '/').map String.ofList).filter (· != "")
  ((List.range parts.length).drop 1).map fun k => "/" ++ "/".intercalate (parts.take k)

/-- The failure, if any, of reaching a path through its ancestors: an ancestor that is a file,
or one that is missing. -/
def reach (w : World) (p : String) : Option OsError :=
  (ancestors p).findSome? fun a =>
    match w.find? a with
    | some (.file _) => some ⟨.notDirectory, p⟩
    | some .directory => none
    | none => some ⟨.notFound, p⟩

/-- The absolute, normalized form of a path. -/
def resolve (w : World) (p : String) : String := Path.absolute w.cwd p

/-- Sets the entry at an absolute path. -/
def put (w : World) (p : String) (e : Entry) : World :=
  { w with entries := (w.entries.filter (·.1 != p)) ++ [(p, e)] }

/-- Adds a file with its bytes, or a directory for `none`, at a path relative to the working
directory; its missing ancestors become directories. -/
def add (w : World) (p : String) (content : Option ByteArray) : World :=
  let a := w.resolve p
  let w := (ancestors a).foldl (fun w d => if (w.find? d).isSome then w else w.put d .directory) w
  match content with
  | some bs => w.put a (.file bs)
  | none => if (w.find? a).isSome then w else w.put a .directory

/-- The world whose working directory holds the given files and directories. -/
def ofFiles (files : List (String × Option ByteArray)) : World :=
  files.foldl (fun w (p, content) => w.add p content) {}

end World

instance : Host (StateM World) where
  workingDir := return (← get).cwd
  readFile p := do
    let w ← get
    let a := w.resolve p
    match w.reach a with
    | some e => return .error { e with path := p }
    | none =>
      match w.find? a with
      | some (.file bs) => return .ok bs
      | some .directory => return .error ⟨.isDirectory, p⟩
      | none => return .error ⟨.notFound, p⟩
  writeFile p bs := do
    let w ← get
    let a := w.resolve p
    match w.reach a with
    | some e => return .error { e with path := p }
    | none =>
      match w.find? a with
      | some .directory => return .error ⟨.isDirectory, p⟩
      | _ =>
        set (w.put a (.file bs))
        return .ok ()
  makeDir p := do
    let w ← get
    let a := w.resolve p
    match w.reach a with
    | some e => return .error { e with path := p }
    | none =>
      match w.find? a with
      | some _ => return .error ⟨.alreadyExists, p⟩
      | none =>
        set (w.put a .directory)
        return .ok ()
  entryKind p := do
    let w ← get
    let a := w.resolve p
    match w.reach a with
    | some _ => return .missing
    | none =>
      match w.find? a with
      | some (.file _) => return .file
      | some .directory => return .directory
      | none => return .missing
  getEnv k := return ((← get).env.find? (·.1 == k)).map (·.2)
  environment := return (← get).env

namespace Host

variable {m : Type → Type} [Monad m] [Host m]

/-- Why a text file could not be read. -/
inductive ReadFailure where
  | os (e : OsError)
  | nullByte
  | undecodable (f : Text.DecodeFailure)

/-- Reads a text file: UTF-8 with universal newlines. A path holding a NUL character cannot name
a file. -/
def readText (p : String) : m (Except ReadFailure String) := do
  if p.contains '\x00' then return .error .nullByte
  match ← Host.readFile p with
  | .error e => return .error (.os e)
  | .ok bs =>
    match Text.decodeUtf8 bs with
    | .error f => return .error (.undecodable f)
    | .ok s => return .ok (Text.universalNewlines s)

/-- Creates a directory; when its parent is missing, creates the parent first, and so on up
to the root. An existing directory is left alone, and any other failure is reported at the path
that could not be created. `fuel` bounds the number of ancestors visited. -/
def makeDirsFrom : Nat → String → m (Except OsError Unit)
  | 0, p => Host.makeDir p
  | fuel + 1, p => do
    let existing (e : OsError) : m (Except OsError Unit) := do
      if (← Host.entryKind p) == .directory then return .ok () else return .error e
    match ← Host.makeDir p with
    | .ok () => return .ok ()
    | .error e =>
      if e.kind == .notFound then
        let parent := Path.dirname p
        if parent == p then return .error e
        match ← makeDirsFrom fuel parent with
        | .error e => return .error e
        | .ok () =>
          match ← Host.makeDir p with
          | .ok () => return .ok ()
          | .error e => if e.kind == .notFound then return .error e else existing e
      else existing e

/-- Opens a file for appending without writing to it: a missing file is created empty and an
existing one is left as it is. A directory cannot be opened. -/
def touch (p : String) : m (Except OsError Unit) := do
  match ← Host.entryKind p with
  | .file => return .ok ()
  | .directory => return .error ⟨.isDirectory, p⟩
  | .missing => Host.writeFile p ByteArray.empty

/-- Creates a directory and its missing ancestors; an existing directory is left alone. -/
def makeDirs (p : String) : m (Except OsError Unit) := do
  let a := Path.absolute (← Host.workingDir) p
  makeDirsFrom (a.length + 1) a

end Host

end Manuscript
