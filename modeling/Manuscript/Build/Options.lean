import Manuscript.Compiler.Options
import Manuscript.Data.Lax

/-!
# Build options

A build takes the options of a compiler and five of its own: the collection the document
belongs to, the document's path, its front matter, free data for transforms, and the format to
read it in. Every field may be left out; the compiler fields that the caller did set are
remembered, because only those are handed on to a new compiler.

The format of a build is the one given, else `mdx` for a path ending in `.mdx`, `md` for any
other path, and `mdx` without a path.

A new compiler always runs the include transform first, takes its development mode from the
settings unless the caller set it, and reads the build's format.
-/

namespace Manuscript

/-- The options of a build. -/
structure BuildOptions where
  /-- The compiler fields, at their defaults where not given. -/
  compiler : CompilerOptions := {}
  /-- The compiler fields the caller set, by name. -/
  given : List String := []
  collection : Option String := none
  filePath : Option String := none
  frontmatter : Option (List (String × Value)) := none
  data : List (String × Value) := []
  format : Option SourceFormat := none
  deriving Inhabited, Repr

namespace BuildOptions

/-- An optional text: text or null. -/
def optionalText? : Value → Option (Option String)
  | .null => some none
  | .str s => some (some s)
  | _ => none

/-- Sets one option from a mapping entry; `none` when the key is unknown or the value is not
of the option's kind. -/
def set? (o : BuildOptions) (key : String) (v : Value) : Option BuildOptions :=
  match key with
  | "collection" => (optionalText? v).map fun c => { o with collection := c }
  | "file_path" => (optionalText? v).map fun p => { o with filePath := p }
  | "frontmatter" =>
    match v with
    | .null => some { o with frontmatter := none }
    | _ => (Lax.record? v).map fun r => { o with frontmatter := some r }
  | "data" => (Lax.record? v).map fun d => { o with data := d }
  | "format" =>
    match v with
    | .null => some { o with format := none }
    | _ => (Lax.choice? ["md", "mdx"] v >>= SourceFormat.ofName?).map fun f =>
      { o with format := some f }
  | _ =>
    if key == "remark_plugins" || (CompilerOptions.forwarded.contains key) then
      (o.compiler.set? key v).map fun c =>
        { o with compiler := c, given := if o.given.contains key then o.given else o.given ++ [key] }
    else none

/-- Reads options from the entries of a mapping; the error lists the failing fields. -/
def ofEntries (entries : List (String × Value)) : Except (List String) BuildOptions :=
  let (o, failed) := entries.foldl (fun (acc : BuildOptions × List String) (k, v) =>
    match acc.1.set? k v with
    | some o => (o, acc.2)
    | none => (acc.1, k :: acc.2)) ({}, [])
  if failed.isEmpty then .ok o else .error (Lax.sortFields failed)

/-- The format of a build: the one given, else read off the path's extension. -/
def resolvedFormat (o : BuildOptions) : SourceFormat :=
  match o.format with
  | some f => f
  | none =>
    match o.filePath with
    | some p => if p.isEmpty || p.endsWith ".mdx" then .mdx else .md
    | none => .mdx

/-- The options of a new compiler for a build in `format`, where `development` is the mode
the settings ask for. -/
def compilerOptions (o : BuildOptions) (format : SourceFormat) (development : Bool) :
    CompilerOptions :=
  { o.compiler with
    format
    development := if o.given.contains "development" then o.compiler.development else development
    plugins := .bare .include :: o.compiler.plugins }

/-- The fields that a new compiler is given: its shape, mode, plugins and format, and every
other field the caller set. -/
def compilerFields (o : BuildOptions) (format : SourceFormat) (development : Bool) :
    List (String × Value) :=
  let keys := ["output_format", "development", "remark_plugins", "format"] ++ o.given
  (o.compilerOptions format development).toEntries.filter fun (k, _) => keys.contains k

end BuildOptions

end Manuscript
