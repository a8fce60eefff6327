import Manuscript.Build.Options
import Manuscript.Data.Lax

/-!
# Build requests

A request asks the daemon to build either document text or a document on disk. Both may set the
compiler fields that matter to a caller (format, shape of the program, development mode, preset
and extra rules), a cache group, a fingerprint and a collection; a text request also carries
the document's path, front matter and data.

Requests arrive as mappings whose keys may be written in camel case (`filePath`) or with
underscores (`file_path`); the camel-case key wins when both are present, and unknown keys are
ignored. Every field is checked, in the order of the request's fields, and each refused field
is reported with the path to it and the reason.
-/

namespace Manuscript.Daemon

/-- A step of the path to a refused value: a key or a list index. -/
inductive Step where
  | key (name : String)
  | index (i : Nat)
  deriving Inhabited, Repr, DecidableEq

/-- Why a value is refused. -/
inductive Refusal where
  | missing
  | notText
  | notFlag
  | unreadableFlag
  | notList
  | notMapping
  | notOneOf (words : List String)
  | notObject
  | badJson
  deriving Inhabited, Repr, DecidableEq

namespace Refusal

/-- The code of a refusal. -/
def code : Refusal → String
  | .missing => "missing"
  | .notText => "string_type"
  | .notFlag => "bool_type"
  | .unreadableFlag => "bool_parsing"
  | .notList => "list_type"
  | .notMapping => "dict_type"
  | .notOneOf _ => "literal_error"
  | .notObject => "model_attributes_type"
  | .badJson => "json_invalid"

/-- The words of a choice, quoted and joined by commas and a final `or`. -/
def choiceText (words : List String) : String :=
  let quoted := words.map fun w => "'" ++ w ++ "'"
  match quoted.reverse with
  | [] => ""
  | [w] => w
  | last :: rest => ", ".intercalate rest.reverse ++ " or " ++ last

/-- The message of a refusal. -/
def message : Refusal → String
  | .missing => "Field required"
  | .notText => "Input should be a valid string"
  | .notFlag => "Input should be a valid boolean"
  | .unreadableFlag => "Input should be a valid boolean, unable to interpret input"
  | .notList => "Input should be a valid list"
  | .notMapping => "Input should be a valid dictionary"
  | .notOneOf words => "Input should be " ++ choiceText words
  | .notObject => "Input should be a valid dictionary or object to extract fields from"
  | .badJson => "JSON decode error"

end Refusal

/-- A refused value: where it is, why, and the input that was refused. -/
structure Issue where
  loc : List Step
  refusal : Refusal
  input : Value
  deriving Inhabited, Repr

/-- The compiler fields a request may set; a field left out is `none`. -/
structure CompilerFields where
  format : Option SourceFormat := none
  shape : Option ProgramShape := none
  development : Option Bool := none
  preset : Option Markdown.Preset := none
  enable : Option (List String) := none
  deriving Inhabited, Repr

/-- A request to build document text. -/
structure SourceRequest where
  fields : CompilerFields
  source : String
  group : Option String := none
  configHash : Option String := none
  filePath : Option String := none
  frontmatter : Option (List (String × Value)) := none
  data : List (String × Value) := []
  collection : Option String := none
  deriving Inhabited, Repr

/-- A request to build a document on disk. -/
structure FileRequest where
  fields : CompilerFields
  path : String
  group : Option String := none
  configHash : Option String := none
  collection : Option String := none
  deriving Inhabited, Repr

/-- Reading a request: the refusals so far are collected, and reading goes on after one. -/
abbrev Check := StateM (List Issue)

/-- Records a refusal of an input. -/
def refuse (loc : List Step) (r : Refusal) (input : Value) : Check Unit :=
  modify (· ++ [⟨loc, r, input⟩])

/-- The camel-case form of a field name. -/
def camelCase (name : String) : String :=
  match name.splitOn "_" with
  | first :: rest => first ++ String.join (rest.map String.capitalize)
  | [] => name

/-- The entry of a field: under its camel-case key, else under its own name. -/
def fieldEntry (entries : List (String × Value)) (name : String) : Option (String × Value) :=
  let camel := camelCase name
  match entries.find? (·.1 == camel) with
  | some e => some e
  | none => entries.find? (·.1 == name)

/-- Reads an optional field with `read`; a refused value counts as left out. -/
def optional {α : Type} (entries : List (String × Value)) (name : String)
    (read : List Step → Value → Check (Option α)) : Check (Option α) :=
  match fieldEntry entries name with
  | none => pure none
  | some (_, .null) => pure none
  | some (key, v) => read [.key key] v

/-- A text. -/
def text (loc : List Step) (v : Value) : Check (Option String) :=
  match v with
  | .str s => pure (some s)
  | _ => do refuse loc .notText v; pure none

/-- One of the given words. -/
def oneOf (words : List String) (loc : List Step) (v : Value) : Check (Option String) :=
  match Lax.choice? words v with
  | some w => pure (some w)
  | none => do refuse loc (.notOneOf words) v; pure none

/-- A flag. A text, an integer or a whole float that is no flag cannot be interpreted; any other
value is not a flag at all. -/
def flag (loc : List Step) (v : Value) : Check (Option Bool) :=
  match Lax.bool? v with
  | some b => pure (some b)
  | none =>
    match v with
    | .str _ | .int _ => do refuse loc .unreadableFlag v; pure none
    | .float x =>
      if (Lax.wholeFloat? x).isSome then do refuse loc .unreadableFlag v; pure none
      else do refuse loc .notFlag v; pure none
    | _ => do refuse loc .notFlag v; pure none

/-- A list of texts. -/
def texts (loc : List Step) (v : Value) : Check (Option (List String)) :=
  match v with
  | .list xs => do
    let items ← xs.zipIdx.mapM fun (x, i) => text (loc ++ [.index i]) x
    pure (items.mapM id)
  | _ => do refuse loc .notList v; pure none

/-- A mapping with text keys. -/
def mapping (loc : List Step) (v : Value) : Check (Option (List (String × Value))) :=
  match Lax.record? v with
  | some r => pure (some r)
  | none => do refuse loc .notMapping v; pure none

/-- A required text field. -/
def requiredText (entries : List (String × Value)) (name : String) : Check String :=
  match fieldEntry entries name with
  | none => do refuse [.key (camelCase name)] .missing (Value.record entries); pure ""
  | some (key, v) => do pure ((← text [.key key] v).getD "")

/-- Reads the compiler fields of a request. -/
def readCompilerFields (entries : List (String × Value)) : Check CompilerFields := do
  let format ← optional entries "format" (oneOf ["md", "mdx"])
  let shape ← optional entries "output_format" (oneOf ["program", "function-body"])
  let development ← optional entries "development" flag
  let preset ← optional entries "markdown_preset" (oneOf ["commonmark", "default", "zero"])
  let enable ← optional entries "enable" texts
  return { format := format >>= SourceFormat.ofName?, shape := shape >>= ProgramShape.ofName?,
           development, preset := preset >>= Markdown.Preset.ofName?, enable }

/-- Runs a check: its value when nothing was refused, else the refusals. -/
def runCheck {α : Type} (c : Check α) : Except (List Issue) α :=
  let (a, issues) := c.run []
  if issues.isEmpty then .ok a else .error issues

/-- Reads a request to build document text. -/
def SourceRequest.ofEntries (entries : List (String × Value)) : Except (List Issue) SourceRequest :=
  runCheck do
    let fields ← readCompilerFields entries
    let source ← requiredText entries "source"
    let group ← optional entries "group" text
    let configHash ← optional entries "config_hash" text
    let filePath ← optional entries "file_path" text
    let frontmatter ← optional entries "frontmatter" mapping
    let data ← match fieldEntry entries "data" with
      | none => pure []
      | some (key, v) => do pure ((← mapping [.key key] v).getD [])
    let collection ← optional entries "collection" text
    return { fields, source, group, configHash, filePath, frontmatter, data, collection }

/-- Reads a request to build a document on disk. -/
def FileRequest.ofEntries (entries : List (String × Value)) : Except (List Issue) FileRequest :=
  runCheck do
    let fields ← readCompilerFields entries
    let path ← requiredText entries "path"
    let group ← optional entries "group" text
    let configHash ← optional entries "config_hash" text
    let collection ← optional entries "collection" text
    return { fields, path, group, configHash, collection }

namespace CompilerFields

/-- The compiler fields a request set, other than the format, by option name. -/
def entries (f : CompilerFields) : List (String × Value) :=
  (f.shape.map fun s => ("output_format", Value.str s.name)).toList ++
  (f.development.map fun d => ("development", Value.bool d)).toList ++
  (f.preset.map fun p => ("markdown_preset", Value.str p.name)).toList ++
  (f.enable.map fun e => ("enable", Value.list (e.map .str))).toList

/-- The build options of the compiler fields a request set. -/
def toOptions (f : CompilerFields) : BuildOptions :=
  { compiler := { shape := f.shape.getD .program, development := f.development.getD false,
                  preset := f.preset.getD .commonmark, enable := f.enable.getD [] },
    given := f.entries.map (·.1), format := f.format }

end CompilerFields

end Manuscript.Daemon
