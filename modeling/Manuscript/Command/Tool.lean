import Manuscript.Command.Parse
import Manuscript.Daemon.Service
import Manuscript.Settings.Config

/-!
# The mdxbuild tool

The command-line tool has two commands. `build FILE` builds a document on disk with a fresh
compiler cache and the loaded configuration, and prints the program, or writes it to the file
that `--output` names. The document's diagnostics go to standard error, each after the path as
it was given, and so do the files its includes read when `--deps` asks for them. A document that
cannot be built is reported as `Error: ...` with status 1; any other failure is not caught.

`serve` loads the configuration, opens the daemon's log file `mdxd.log` in the log directory and
starts the daemon's server on the given host and port, falling back to the configured ones for
an empty host or a port of zero, with the configured log level in lower case. Any failure there
stops the tool with status 1 and no output.
-/

namespace Manuscript.Command

/-- The application the daemon's server runs. -/
def daemonApp : String := "mdxd.main:app"

/-- A start of the daemon's server. -/
structure Launch where
  app : String
  host : String
  port : Int
  logLevel : String
  deriving Inhabited, Repr, DecidableEq

/-- What a run of the tool did: its exit status and output, the class of a failure that nothing
caught, and the servers it started. -/
structure Transcript where
  status : Nat := 0
  stdout : String := ""
  stderr : String := ""
  crash : Option String := none
  launches : List Launch := []
  deriving Inhabited, Repr

/-- The `build` command. -/
def buildCommand : CommandSpec where
  name := "build"
  help := "Compile FILE and print the program."
  arguments := [{ key := "file", metavar := "FILE", type := .file true }]
  options := [
    { key := "group", names := ["--group"], kind := .value .text,
      help := "Cache group (default: configured default group)" },
    { key := "config_hash", names := ["--config-hash"], kind := .value .text,
      help := "Configuration fingerprint (default: derived from options)" },
    { key := "format", names := ["--format"], kind := .value (.choice ["md", "mdx"]),
      help := "Syntax format" },
    { key := "output_format", names := ["--output-format"],
      kind := .value (.choice ["program", "function-body"]), help := "Shape of the emitted program" },
    { key := "development", names := ["--development"], kind := .switch ["--production"],
      help := "Emit source locations on elements" },
    { key := "output", names := ["--output", "-o"], kind := .value (.file false),
      help := "Write the program to a file" },
    { key := "deps", names := ["--deps"], kind := .flag, help := "Print included files to stderr" },
    helpOption]

/-- The `serve` command. -/
def serveCommand : CommandSpec where
  name := "serve"
  help := "Start the mdxd daemon."
  options := [
    { key := "host", names := ["--host"], kind := .value .text,
      help := "Listen address (default: configured host)" },
    { key := "port", names := ["--port"], kind := .value .integer,
      help := "Listen port (default: configured port)" },
    helpOption]

/-- The tool's group of commands. -/
def tool : GroupSpec where
  help := "mdxbuild - Compile Markdown and MDX documents."
  options := [helpOption]
  commands := [buildCommand, serveCommand]

/-- The text a command was given under a key. -/
def textOf (values : List (String × Given)) (key : String) : Option String :=
  match values.lookup key with
  | some (.text s) => some s
  | _ => none

/-- The integer a command was given under a key. -/
def numberOf (values : List (String × Given)) (key : String) : Option Int :=
  match values.lookup key with
  | some (.number n) => some n
  | _ => none

/-- The setting a command was given under a key. -/
def flagOf (values : List (String × Given)) (key : String) : Option Bool :=
  match values.lookup key with
  | some (.flag b) => some b
  | _ => none

/-- Whether a failure is one of a document that cannot be built, which `build` reports itself. -/
def isBuildFailure : Error → Bool
  | .configuration _ | .invalidOptions .. | .parse .. | .frontmatter .. | .includeFailed ..
  | .compile _ => true
  | _ => false

/-- The request that a `build` command line makes. -/
def buildRequest (values : List (String × Given)) : Daemon.FileRequest where
  fields := { format := textOf values "format" >>= SourceFormat.ofName?,
              shape := textOf values "output_format" >>= ProgramShape.ofName?,
              development := flagOf values "development" }
  path := (textOf values "file").getD ""
  group := textOf values "group"
  configHash := textOf values "config_hash"

variable {m : Type → Type} [Monad m] [Host m]

/-- Runs `build`. -/
def runBuild (values : List (String × Given)) : m Transcript := do
  let file := (textOf values "file").getD ""
  match ← Settings.loadConfig none with
  | .error e => return { status := 1, crash := some e.kind }
  | .ok settings =>
    let (result, _) ← Daemon.buildFile {} settings (buildRequest values)
    match result with
    | .error e =>
      if isBuildFailure e then return { status := 1, stderr := "Error: " ++ e.message ++ "\n" }
      else return { status := 1, crash := some e.kind }
    | .ok o =>
      let notes := String.join (o.compiled.file.messages.map fun d => file ++ ": " ++ d.text ++ "\n")
      let deps := if flagOf values "deps" == some true then
          String.join (o.dependencies.map (· ++ "\n"))
        else ""
      match (textOf values "output").filter (!·.isEmpty) with
      | some out =>
        match ← Host.writeFile out o.compiled.program.toUTF8 with
        | .error e => return { status := 1, stderr := notes, crash := some e.className }
        | .ok () => return { stderr := notes ++ "Wrote " ++ out ++ "\n" ++ deps }
      | none => return { stdout := o.compiled.program ++ "\n", stderr := notes ++ deps }

/-- Runs `serve`. -/
def runServe (values : List (String × Given)) : m Transcript := do
  match ← Settings.loadConfig none with
  | .error _ => return { status := 1 }
  | .ok s =>
    match ← Storage.logDir with
    | .error _ => return { status := 1 }
    | .ok dir =>
      match ← Host.touch (Path.join dir "mdxd.log") with
      | .error _ => return { status := 1 }
      | .ok () =>
        let host := ((textOf values "host").filter (!·.isEmpty)).getD s.host
        let port := ((numberOf values "port").filter (· != 0)).getD s.port
        return { launches := [{ app := daemonApp, host, port, logLevel := Text.toLower s.logLevel }] }

/-- Runs the tool under the program name `prog` with the words of a command line. -/
def runTool (prog : String) (args : List String) : m Transcript := do
  match ← invoke prog tool args with
  | .help page => return { stdout := page }
  | .misuse text => return { status := 2, stderr := text }
  | .crash e => return { status := 1, crash := some e.kind }
  | .call name values =>
    if name == buildCommand.name then runBuild values
    else if name == serveCommand.name then runServe values
    else return {}

end Manuscript.Command
