import Manuscript.Data.Json
import Manuscript.Data.Lax
import Manuscript.Error
import Manuscript.Text.Case

/-!
# Settings

The settings of builds and of the daemon: the environment (`development` turns on development
mode in new compilers), the log level, the cache group of requests that name none, the address
the daemon listens on, and the origins allowed to call it.

Settings come from three sources, the first that has a field winning: values given directly,
environment variables `MDXBUILD_<FIELD>`, and the same variables in an environment file. Variable
names are matched without regard to case. A variable of a list field holds JSON text, and text
that is not JSON is an error of the source it came from, reported before any field is checked.

Every field is then checked: text fields take text, the port an integer from 1 to 65535, the
origins a list of texts. The environment is stored trimmed and in lower case.
-/

namespace Manuscript

/-- The settings of builds and of the daemon. -/
structure Settings where
  environment : String := "production"
  logLevel : String := "info"
  defaultGroup : String := "default"
  host : String := "127.0.0.1"
  port : Nat := 8430
  corsOrigins : List String := ["http://localhost:5173"]
  deriving Inhabited, Repr, DecidableEq

/-- The sources of settings, strongest first. -/
structure SettingsSources where
  /-- Values given directly, by field name. -/
  given : List (String × Value) := []
  /-- The environment variables. -/
  env : List (String × String) := []
  /-- The variables of the environment file, if there is one. -/
  envFile : List (String × Option String) := []
  deriving Inhabited

namespace Settings

/-- Whether new compilers run in development mode. -/
def isDevelopment (s : Settings) : Bool := s.environment == "development"

/-- The names of the fields, in order. -/
def fieldNames : List String :=
  ["environment", "log_level", "default_group", "host", "port", "cors_origins"]

/-- The environment variable of a field, in lower case. -/
def variableOf (field : String) : String := "mdxbuild_" ++ field

/-- Whether a field holds a list, which a variable writes as JSON text. -/
def isListField (field : String) : Bool := field == "cors_origins"

/-- Sets one field from a value; `none` when the value is not of the field's kind. -/
def set? (s : Settings) (field : String) (v : Value) : Option Settings :=
  match field with
  | "environment" =>
    (Lax.text? v).map fun t => { s with environment := Text.toLower (Text.trimBlank t) }
  | "log_level" => (Lax.text? v).map fun t => { s with logLevel := t }
  | "default_group" => (Lax.text? v).map fun t => { s with defaultGroup := t }
  | "host" => (Lax.text? v).map fun t => { s with host := t }
  | "port" =>
    match Lax.integer? v with
    | some n => if 1 ≤ n && n ≤ 65535 then some { s with port := n.toNat } else none
    | none => none
  | "cors_origins" => (Lax.texts? v).map fun o => { s with corsOrigins := o }
  | _ => some s

/-- Checks the values of fields; the error lists the failing fields. Keys that name no field
are ignored. -/
def ofEntries (entries : List (String × Value)) : Except (List String) Settings :=
  let (s, failed) := entries.foldl (fun (acc : Settings × List String) (k, v) =>
    match acc.1.set? k v with
    | some s => (s, acc.2)
    | none => (acc.1, k :: acc.2)) ({}, [])
  if failed.isEmpty then .ok s else .error (Lax.sortFields failed)

/-- The value of a field. -/
def field (s : Settings) : String → Value
  | "environment" => .str s.environment
  | "log_level" => .str s.logLevel
  | "default_group" => .str s.defaultGroup
  | "host" => .str s.host
  | "port" => .int s.port
  | "cors_origins" => .list (s.corsOrigins.map .str)
  | _ => .null

/-- The value of a variable for a field: the text itself, or for a list field its JSON
value. A failure names the field and the source. -/
def variableValue (source field text : String) : Except Error Value :=
  if isListField field then
    match Json.parse text with
    | .ok v => .ok v
    | .error _ =>
      .error (.settingsSource ("error parsing value for field " ++ "\"" ++ field ++
        "\" from source \"" ++ source ++ "\""))
  else .ok (.str text)

/-- The fields that a set of variables gives, with their values; names are matched without
regard to case, and of two names that differ only in case the later counts. -/
def fromVariables (source : String) (vars : List (String × Option String)) :
    Except Error (List (String × Value)) :=
  let lowered := vars.map fun (k, v) => (Text.toLower k, v)
  fieldNames.foldlM (fun acc f =>
    match (lowered.reverse.find? (·.1 == variableOf f)) with
    | some (_, some text) => do return acc ++ [(f, ← variableValue source f text)]
    | _ => pure acc) []

/-- Entries laid over others: each field in order, with its value in `top` when `top` has one
and in `bottom` otherwise. -/
def overlay (top bottom : List (String × Value)) : List (String × Value) :=
  fieldNames.filterMap fun f => ((top.lookup f).or (bottom.lookup f)).map fun v => (f, v)

/-- The fields that the environment gives, from its variables and from those of the environment
file; a variable wins over the file. -/
def envEntries (env : List (String × String)) (envFile : List (String × Option String)) :
    Except Error (List (String × Value)) := do
  let fromEnv ← fromVariables "EnvSettingsSource" (env.map fun (k, v) => (k, some v))
  let fromFile ← fromVariables "DotEnvSettingsSource" envFile
  return overlay fromEnv fromFile

/-- The settings of the sources and the fields they set. -/
def load (src : SettingsSources) : Except Error (Settings × List String) := do
  let entries := overlay src.given (← envEntries src.env src.envFile)
  match ofEntries entries with
  | .ok s => return (s, entries.map (·.1))
  | .error fields => throw (.invalidRecord fields)

end Settings

end Manuscript
