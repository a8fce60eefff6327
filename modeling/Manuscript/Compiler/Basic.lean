import Manuscript.Data.Value
import Manuscript.Text.Quoted
import Manuscript.Markdown.Rule
import Manuscript.Document.Node
import Manuscript.Document.Reader
import Manuscript.Compiler.Options
import Manuscript.Error
import Manuscript.Yaml.Load

/-!
# Compilers

A compiler is built once from its options and then reused for many documents. Building it
configures the reader and attaches every plugin in order: attaching the include plugin gives
the include transform, attaching an inert plugin gives no transform, and a plugin that gives
something that is not a transform is refused. Plugins take no keyword settings.
-/

namespace Manuscript

/-- A transform that runs over a parsed tree. -/
inductive Transform where
  /-- Replaces include directives by the content of the files they name. -/
  | include
  /-- Leaves the tree as it is. -/
  | nothing
  deriving Inhabited, Repr, DecidableEq

/-- A compiler: its options, its reader, its transforms in order, and the YAML reader that the
front matter of included documents is read with. -/
structure Compiler where
  options : CompilerOptions
  reader : Document.Reader
  transforms : List Transform
  yaml : String → Except Yaml.LoadError Value
  deriving Inhabited

namespace Compiler

/-- The text of a list of names, as a literal list of quoted texts. -/
def listLiteral (names : List String) : String :=
  "[" ++ ", ".intercalate (names.map Text.quote) ++ "]"

/-- Attaches a plugin. -/
def attach (spec : PluginSpec) : Except Error Transform :=
  match spec.settings with
  | (key, _) :: _ =>
    .error (.badArguments (spec.plugin.name ++ "() got an unexpected keyword argument '" ++
      key ++ "'"))
  | [] =>
    match spec.plugin with
    | .include => .ok .include
    | .inert _ => .ok .nothing
    | .broken n => .error (.configuration ("Plugin " ++ Text.quote n ++ " returned a non-callable"))

/-- The reader dialect of options: the preset with the extra rules switched on. -/
def dialectOf (o : CompilerOptions) : Except Error Markdown.Dialect :=
  let base := Markdown.Dialect.ofPreset o.preset
  if o.enable.isEmpty then .ok base
  else
    match base.enable o.enable with
    | .ok d => .ok d
    | .error missed =>
      .error (.configuration ("Invalid markdown options: MarkdownIt. Failed to enable unknown " ++
        "rule(s): " ++ listLiteral missed))

/-- Builds a compiler from its options. -/
def build (o : CompilerOptions) : Except Error Compiler := do
  let dialect ← dialectOf o
  let transforms ← o.plugins.mapM attach
  return { options := o, reader := ⟨dialect.markup, o.format == .mdx⟩, transforms,
           yaml := Yaml.load }

/-- Builds a compiler from an option mapping, or from the default options. -/
def create (entries : Option (List (String × Value))) : Except Error Compiler :=
  match entries with
  | none => build {}
  | some es =>
    match CompilerOptions.ofEntries es with
    | .ok o => build o
    | .error fields => .error (.invalidOptions .compiler fields)

/-- Parses a document with the compiler's reader. -/
def parse (c : Compiler) (text : String) : Except Error Node :=
  c.reader.parse text

end Compiler

end Manuscript
