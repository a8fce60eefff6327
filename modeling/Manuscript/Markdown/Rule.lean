/-!
# Markdown rules and presets

The reader is assembled from named rules. A rule belongs to one or more of four chains: the core
chain (whole-document passes), the block chain, the inline chain and the inline post-processing
chain. A preset switches on a set of rules and fixes the nesting limit; further rules can be
switched on by name, and a name switches on the rule of that name in every chain that has one.

`Dialect.ofPreset` builds the rule set of a preset and `Dialect.enable` adds named rules, failing
with the list of names that no chain knows.
-/

namespace Manuscript.Markdown

/-- The rules of the reader, across all chains. -/
inductive Rule where
  | normalize | block | inline | linkify | replacements | smartquotes | textJoin
  | table | code | fence | blockquote | hr | list | reference | htmlBlock | heading | lheading
  | paragraph
  | text | newline | escape | backticks | strikethrough | emphasis | link | image | autolink
  | htmlInline | entity
  | balancePairs | fragmentsJoin
  deriving DecidableEq, Repr, Inhabited

namespace Rule

/-- Every rule, each once. -/
def all : List Rule :=
  [.normalize, .block, .inline, .linkify, .replacements, .smartquotes, .textJoin,
   .table, .code, .fence, .blockquote, .hr, .list, .reference, .htmlBlock, .heading, .lheading,
   .paragraph,
   .text, .newline, .escape, .backticks, .strikethrough, .emphasis, .link, .image, .autolink,
   .htmlInline, .entity,
   .balancePairs, .fragmentsJoin]

/-- The name by which a rule is switched on. -/
def name : Rule → String
  | .normalize => "normalize" | .block => "block" | .inline => "inline"
  | .linkify => "linkify" | .replacements => "replacements" | .smartquotes => "smartquotes"
  | .textJoin => "text_join"
  | .table => "table" | .code => "code" | .fence => "fence" | .blockquote => "blockquote"
  | .hr => "hr" | .list => "list" | .reference => "reference" | .htmlBlock => "html_block"
  | .heading => "heading" | .lheading => "lheading" | .paragraph => "paragraph"
  | .text => "text" | .newline => "newline" | .escape => "escape" | .backticks => "backticks"
  | .strikethrough => "strikethrough" | .emphasis => "emphasis" | .link => "link"
  | .image => "image" | .autolink => "autolink" | .htmlInline => "html_inline"
  | .entity => "entity"
  | .balancePairs => "balance_pairs" | .fragmentsJoin => "fragments_join"

/-- The rule of a given name, if a chain knows it. -/
def ofName? (s : String) : Option Rule :=
  all.find? (·.name == s)

end Rule

/-- The presets of the reader. -/
inductive Preset where
  | commonmark
  | standard
  | zero
  deriving DecidableEq, Repr, Inhabited

namespace Preset

/-- The name of a preset as options spell it. -/
def name : Preset → String
  | .commonmark => "commonmark"
  | .standard => "default"
  | .zero => "zero"

/-- The preset of a given name. -/
def ofName? : String → Option Preset
  | "commonmark" => some .commonmark
  | "default" => some .standard
  | "zero" => some .zero
  | _ => none

/-- The rules that a preset switches on. -/
def rules : Preset → List Rule
  | .commonmark =>
    [.normalize, .block, .inline, .textJoin,
     .blockquote, .code, .fence, .heading, .hr, .htmlBlock, .lheading, .list, .reference,
     .paragraph,
     .autolink, .backticks, .emphasis, .entity, .escape, .htmlInline, .image, .link, .newline,
     .text,
     .balancePairs, .fragmentsJoin]
  | .standard => Rule.all
  | .zero => [.normalize, .block, .inline, .textJoin, .paragraph, .text, .balancePairs,
      .fragmentsJoin]

/-- How deeply blocks and inline spans may nest before the rest is read as plain text. -/
def maxNesting : Preset → Nat
  | .commonmark => 20
  | .standard => 100
  | .zero => 20

end Preset

/-- A configured reader: the switched-on rules and the nesting limit. -/
structure Dialect where
  rules : List Rule
  maxNesting : Nat
  deriving Inhabited

namespace Dialect

/-- The reader of a preset. -/
def ofPreset (p : Preset) : Dialect :=
  ⟨p.rules, p.maxNesting⟩

/-- Whether a rule is switched on. -/
def has (s : Dialect) (r : Rule) : Bool :=
  s.rules.contains r

/-- Switches on the named rules; the error lists, in order and with repeats, the names that no
chain knows. -/
def enable (s : Dialect) (names : List String) : Except (List String) Dialect :=
  let missed := names.filter fun n => (Rule.ofName? n).isNone
  if missed.isEmpty then
    .ok { s with rules := s.rules ++ names.filterMap Rule.ofName? }
  else .error missed

end Dialect

end Manuscript.Markdown
