import Manuscript.Host.Basic

/-!
# Storage directories

The tool keeps its files under a home directory, `$MDXBUILD_HOME` or `.mdxbuild` in the working
directory. Configuration lives in its `config` directory and logs in its `logs` directory, unless
`MDXBUILD_CONFIG_DIR` or `MDXBUILD_LOG_DIR` name others. Each directory is resolved to an
absolute path, and asking for the configuration or log directory creates it with its missing
ancestors.
-/

namespace Manuscript.Storage

variable {m : Type → Type} [Monad m] [Host m]

/-- The home directory. -/
def homeDir : m String := do
  let root := (← Host.getEnv "MDXBUILD_HOME").getD ".mdxbuild"
  return Path.resolve (← Host.workingDir) root

/-- A directory of the home directory, or the one a variable names; created if missing. -/
def subdirectory (envName name : String) : m (Except OsError String) := do
  let dir ← match ← Host.getEnv envName with
    | some d => pure (Path.resolve (← Host.workingDir) d)
    | none => pure (Path.join (← homeDir) name)
  match ← Host.makeDirs dir with
  | .ok () => return .ok dir
  | .error e => return .error e

/-- The configuration directory, created if missing. -/
def configDir : m (Except OsError String) := subdirectory "MDXBUILD_CONFIG_DIR" "config"

/-- The log directory, created if missing. -/
def logDir : m (Except OsError String) := subdirectory "MDXBUILD_LOG_DIR" "logs"

end Manuscript.Storage
