import Manuscript.Settings.Basic
import Manuscript.Settings.EnvFile
import Manuscript.Settings.Storage
import Manuscript.FrontMatter

/-!
# The configuration file

Settings are layered: the defaults of the fields, then the configuration file `mdxbuild.yaml`,
then the environment. `loadConfig` reads the file it is given, or the one in the configuration
directory, which it first creates with commented defaults when it is missing.

A configuration file that cannot be read, is not YAML or does not hold a mapping contributes
nothing, and keys that name no field are ignored; text that is not UTF-8, and YAML whose values
cannot be built, are errors.

The environment is read from the host's variables and from the environment file `.env` in the
working directory, when there is one. A field that the environment sets wins over the file.
-/

namespace Manuscript

namespace Settings

/-- The configuration file written when none exists. -/
def defaultConfigText : String :=
  "# mdxbuild configuration\n\n" ++
  "# \"development\" attaches source locations to elements in built programs\n" ++
  "environment: \"production\"\nlog_level: \"info\"\n\n" ++
  "# Cache group used when a build request names none\ndefault_group: \"default\"\n\n" ++
  "# mdxd listen address\nhost: \"127.0.0.1\"\nport: 8430\n"

variable {m : Type → Type} [Monad m] [Host m]

/-- The failure of a file that cannot be read as text. -/
def readFailure : Host.ReadFailure → Error
  | .os e => .system e.className e.message
  | .nullByte => .badValue "embedded null byte"
  | .undecodable f => .undecodable f.message

/-- The path of the configuration file in the configuration directory. -/
def configPath : m (Except Error String) := do
  match ← Storage.configDir with
  | .ok dir => return .ok (Path.join dir "mdxbuild.yaml")
  | .error e => return .error (.system e.className e.message)

/-- Writes the default configuration file unless one exists. -/
def createDefaultConfig : m (Except Error Unit) := do
  match ← configPath with
  | .error e => return .error e
  | .ok p =>
    if (← Host.entryKind p) != .missing then return .ok ()
    match ← Host.writeFile p defaultConfigText.toUTF8 with
    | .ok () => return .ok ()
    | .error e => return .error (.system e.className e.message)

/-- The fields that the text of a configuration file sets: the entries of its mapping whose keys
name fields. Text that is not YAML or not a mapping sets none; YAML whose values cannot be built
is an error. -/
def textFields (text : String) : Except Error (List (String × Value)) :=
  match Yaml.load text with
  | .error e => if e.isYaml then .ok [] else .error (FrontMatter.loadFailure text none e)
  | .ok (.dict entries) =>
    .ok (entries.filterMap fun (k, v) =>
      match k with
      | .str key => if fieldNames.contains key then some (key, v) else none
      | _ => none)
  | .ok _ => .ok []

/-- The fields that a configuration file sets; a file that cannot be read sets none. -/
def fileValues (p : String) : m (Except Error (List (String × Value))) := do
  match ← Host.readText p with
  | .error (.os _) => return .ok []
  | .error f => return .error (readFailure f)
  | .ok text => return textFields text

/-- The variables of the environment file in the working directory, if there is one. -/
def envFileVariables : m (Except Error (List (String × Option String))) := do
  if (← Host.entryKind ".env") != .file then return .ok []
  match ← Host.readText ".env" with
  | .ok text => return .ok (EnvFile.parse (← Host.environment) text)
  | .error f => return .error (readFailure f)

/-- The settings that the environment and the given values make. -/
def fromEnvironment (given : List (String × Value)) :
    m (Except Error (Settings × List String)) := do
  match ← envFileVariables with
  | .error e => return .error e
  | .ok envFile => return load { given, env := ← Host.environment, envFile }

/-- Loads the settings from a configuration file and the environment; without a path, from the
configuration file of the configuration directory, created when missing. -/
def loadConfig (path : Option String) : m (Except Error Settings) := do
  let path ← match path with
    | some p => pure (Except.ok p)
    | none => do
      match ← createDefaultConfig with
      | .error e => pure (.error e)
      | .ok () => configPath
  match path with
  | .error e => return .error e
  | .ok p =>
    let values ← if (← Host.entryKind p) == .missing then pure (.ok []) else fileValues p
    match values with
    | .error e => return .error e
    | .ok values =>
      match ← fromEnvironment [] with
      | .error e => return .error e
      | .ok (s, set) =>
        let fromEnv := set.map fun f => (f, s.field f)
        return (← fromEnvironment (fromEnv ++ values)).map (·.1)

end Settings

end Manuscript
