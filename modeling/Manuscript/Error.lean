/-!
# Errors

Every failure of the build pipeline is a value of `Error`, one constructor per cause. The
wording of each is fixed by `Error.message`, and `Error.kind` names its class the way
diagnostics report it.

A parse error and a front-matter error point at a file and line: their message is
`path:line: detail`, with `<source>` for a document without a path or with an empty one, and
no line part when the line is unknown.
-/

namespace Manuscript

/-- Which options failed validation. -/
inductive OptionsScope where
  | compiler
  | build
  deriving Inhabited, Repr, DecidableEq

/-- A failure of the build pipeline. -/
inductive Error where
  /-- Options that are well formed but unusable. -/
  | configuration (message : String)
  /-- Options that fail validation, with the sorted names of the failing fields. -/
  | invalidOptions (scope : OptionsScope) (fields : List String)
  /-- A record that fails validation outside the pipeline. -/
  | invalidRecord (fields : List String)
  /-- Markup that cannot be read. -/
  | parse (detail : String) (path : Option String) (line : Option Int)
  /-- A front-matter block that is not a mapping of valid data. -/
  | frontmatter (detail : String) (path : Option String) (line : Option Int)
  /-- An include directive that cannot be resolved. -/
  | includeFailed (message : String) (specifier : Option String) (path : Option String)
  /-- A tree that cannot be turned into a program. -/
  | compile (message : String)
  /-- A function called with arguments it does not take. -/
  | badArguments (message : String)
  /-- An argument of the right type and a wrong value. -/
  | badValue (message : String)
  /-- A file that does not exist. -/
  | missingFile (message : String)
  /-- Bytes that are not valid UTF-8. -/
  | undecodable (message : String)
  /-- A setting that cannot be read from its source. -/
  | settingsSource (message : String)
  /-- A word missing from a table of words. -/
  | missingKey (message : String)
  /-- A text without the form a reader expects. -/
  | missingAttribute (message : String)
  /-- A text too short for what is read from it. -/
  | outOfRange (message : String)
  /-- A value that contains itself. -/
  | tooDeep (message : String)
  /-- A failure of the file system, with the name of its kind. -/
  | system (kind : String) (message : String)
  deriving Inhabited, Repr

namespace Error

/-- The location part of a located message. -/
def location (path : Option String) (line : Option Int) : String :=
  let base := (path.filter (!·.isEmpty)).getD "<source>"
  match line with
  | some l => base ++ ":" ++ toString l
  | none => base

/-- The class name under which the error is reported. -/
def kind : Error → String
  | .configuration _ | .invalidOptions _ _ => "ConfigurationError"
  | .invalidRecord _ => "ValidationError"
  | .parse .. => "DocumentParseError"
  | .frontmatter .. => "FrontmatterError"
  | .includeFailed .. => "IncludeResolutionError"
  | .compile _ => "CompileError"
  | .badArguments _ => "TypeError"
  | .badValue _ => "ValueError"
  | .missingFile _ => "FileNotFoundError"
  | .undecodable _ => "UnicodeDecodeError"
  | .settingsSource _ => "SettingsError"
  | .missingKey _ => "KeyError"
  | .missingAttribute _ => "AttributeError"
  | .outOfRange _ => "IndexError"
  | .tooDeep _ => "RecursionError"
  | .system k _ => k

/-- The message of the error. -/
def message : Error → String
  | .configuration m => m
  | .invalidOptions .compiler _ => "Invalid compiler options"
  | .invalidOptions .build _ => "Invalid build options"
  | .invalidRecord _ => "validation error"
  | .parse d p l => location p l ++ ": " ++ d
  | .frontmatter d p l => location p l ++ ": " ++ d
  | .includeFailed m _ _ => m
  | .compile m => m
  | .badArguments m => m
  | .badValue m => m
  | .missingFile m => m
  | .undecodable m => m
  | .settingsSource m => m
  | .missingKey m => m
  | .missingAttribute m => m
  | .outOfRange m => m
  | .tooDeep m => m
  | .system _ m => m

/-- Gives a located error the path of its file when it has none yet. -/
def withPath (e : Error) (path : String) : Error :=
  match e with
  | .parse d none l => .parse d (some path) l
  | .frontmatter d none l => .frontmatter d (some path) l
  | e => e

end Error

end Manuscript
