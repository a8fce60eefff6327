import Manuscript.Data.Value
import Manuscript.Data.Lax
import Manuscript.Markdown.Rule

/-!
# Compiler options

A compiler is built from options: the source format (Markdown, or Markdown with components),
the shape of the generated program, whether to attach source locations, the plugins to run,
the Markdown preset and the extra Markdown rules to switch on.

`CompilerOptions.ofEntries` reads options from a mapping. Unknown keys and values of the wrong
kind are refused, and the refusal names every failing field.
-/

namespace Manuscript

/-- The syntax a document is written in: plain Markdown, or Markdown with components. -/
inductive SourceFormat where
  | md
  | mdx
  deriving Inhabited, Repr, DecidableEq

namespace SourceFormat

/-- The name of a format. -/
def name : SourceFormat → String
  | .md => "md"
  | .mdx => "mdx"

/-- The format of a name. -/
def ofName? : String → Option SourceFormat
  | "md" => some .md
  | "mdx" => some .mdx
  | _ => none

end SourceFormat

/-- The shape of a generated program: a whole module, or the body of a function. -/
inductive ProgramShape where
  | program
  | functionBody
  deriving Inhabited, Repr, DecidableEq

namespace ProgramShape

/-- The name of a shape. -/
def name : ProgramShape → String
  | .program => "program"
  | .functionBody => "function-body"

/-- The shape of a name. -/
def ofName? : String → Option ProgramShape
  | "program" => some .program
  | "function-body" => some .functionBody
  | _ => none

end ProgramShape

/-- A plugin as options name it: alone, or with the keyword settings to attach it with. -/
inductive PluginSpec where
  | bare (p : Plugin)
  | configured (p : Plugin) (settings : List (String × Value))
  deriving Inhabited, Repr

namespace PluginSpec

/-- The plugin named. -/
def plugin : PluginSpec → Plugin
  | .bare p => p
  | .configured p _ => p

/-- The keyword settings. -/
def settings : PluginSpec → List (String × Value)
  | .bare _ => []
  | .configured _ s => s

/-- The value of a plugin entry: the function, or the pair of function and settings. -/
def toValue : PluginSpec → Value
  | .bare p => .callable p
  | .configured p s => .list [.callable p, Value.record s]

/-- A plugin entry: a function, or a pair of a function and a mapping with text keys. -/
def ofValue? : Value → Option PluginSpec
  | .callable p => some (.bare p)
  | .list [.callable p, s] => (Lax.record? s).map (.configured p)
  | _ => none

end PluginSpec

/-- Options of a compiler. -/
structure CompilerOptions where
  format : SourceFormat := .mdx
  shape : ProgramShape := .program
  development : Bool := false
  plugins : List PluginSpec := []
  preset : Markdown.Preset := .commonmark
  enable : List String := []
  deriving Inhabited, Repr

namespace CompilerOptions

/-- Sets one option from a mapping entry; `none` when the key is unknown or the value is not
of the option's kind. -/
def set? (o : CompilerOptions) (key : String) (v : Value) : Option CompilerOptions :=
  match key with
  | "format" => (Lax.text? v >>= SourceFormat.ofName?).map fun f => { o with format := f }
  | "output_format" => (Lax.text? v >>= ProgramShape.ofName?).map fun s => { o with shape := s }
  | "development" => (Lax.bool? v).map fun b => { o with development := b }
  | "remark_plugins" =>
    match v with
    | .list xs => (xs.mapM PluginSpec.ofValue?).map fun ps => { o with plugins := ps }
    | _ => none
  | "markdown_preset" =>
    (Lax.text? v >>= Markdown.Preset.ofName?).map fun p => { o with preset := p }
  | "enable" => (Lax.texts? v).map fun e => { o with enable := e }
  | _ => none

/-- The fields that a build hands on to a new compiler when its caller sets them. -/
def forwarded : List String := ["output_format", "development", "markdown_preset", "enable"]

/-- Reads options from the entries of a mapping; the error lists the failing fields. -/
def ofEntries (entries : List (String × Value)) : Except (List String) CompilerOptions :=
  let (o, failed) := entries.foldl (fun (acc : CompilerOptions × List String) (k, v) =>
    match acc.1.set? k v with
    | some o => (o, acc.2)
    | none => (acc.1, k :: acc.2)) ({}, [])
  if failed.isEmpty then .ok o else .error (Lax.sortFields failed)

/-- The options as a mapping, with the keys of the option names. -/
def toEntries (o : CompilerOptions) : List (String × Value) :=
  [("format", .str o.format.name), ("output_format", .str o.shape.name),
   ("development", .bool o.development),
   ("remark_plugins", .list (o.plugins.map PluginSpec.toValue)),
   ("markdown_preset", .str o.preset.name), ("enable", .list (o.enable.map .str))]

end CompilerOptions

end Manuscript
