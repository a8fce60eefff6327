import Manuscript.Yaml.Mark

/-!
# Tokens of YAML text

The tokens that YAML text splits into: stream and document markers, directives, the starts and
ends of block and flow collections, the indicators of keys, values and entries, anchors,
aliases, tags and scalars. Each token spans two marks.

`Token.Kind.name` is how a token is named in problems: `<stream end>`, `','`, `<scalar>`.
-/

namespace Manuscript.Yaml

/-- The value of a directive: a version, a tag handle with its expansion, or nothing for a
directive YAML does not define. -/
inductive DirectiveValue where
  | version (major minor : Nat)
  | tagHandle (handle expansion : String)
  | other
  deriving Inhabited, Repr, DecidableEq

/-- How a scalar is written. -/
inductive ScalarStyle where
  | plain
  | singleQuoted
  | doubleQuoted
  | literal
  | folded
  deriving Inhabited, Repr, DecidableEq

namespace Token

/-- The kinds of tokens. -/
inductive Kind where
  | streamStart
  | streamEnd
  | directive (name : String) (value : DirectiveValue)
  | documentStart
  | documentEnd
  | blockSequenceStart
  | blockMappingStart
  | blockEnd
  | flowSequenceStart
  | flowMappingStart
  | flowSequenceEnd
  | flowMappingEnd
  | key
  | value
  | blockEntry
  | flowEntry
  | alias (name : String)
  | anchor (name : String)
  | tag (handle : Option String) (suffix : String)
  | scalar (text : String) (style : ScalarStyle)
  deriving Inhabited, Repr, DecidableEq

/-- The name of a kind of token in problems. -/
def Kind.name : Kind → String
  | .streamStart => "<stream start>"
  | .streamEnd => "<stream end>"
  | .directive .. => "<directive>"
  | .documentStart => "<document start>"
  | .documentEnd => "<document end>"
  | .blockSequenceStart => "<block sequence start>"
  | .blockMappingStart => "<block mapping start>"
  | .blockEnd => "<block end>"
  | .flowSequenceStart => "["
  | .flowMappingStart => "\x7b"
  | .flowSequenceEnd => "]"
  | .flowMappingEnd => "\x7d"
  | .key => "?"
  | .value => ":"
  | .blockEntry => "-"
  | .flowEntry => ","
  | .alias _ => "<alias>"
  | .anchor _ => "<anchor>"
  | .tag .. => "<tag>"
  | .scalar .. => "<scalar>"

end Token

/-- A token and the marks around it. -/
structure Token where
  kind : Token.Kind
  start : Mark
  stop : Mark
  deriving Inhabited, Repr

/-- The kinds of tokens that carry no data, to test a token against. -/
inductive TokenClass where
  | streamStart
  | streamEnd
  | directive
  | documentStart
  | documentEnd
  | blockSequenceStart
  | blockMappingStart
  | blockEnd
  | flowSequenceStart
  | flowMappingStart
  | flowSequenceEnd
  | flowMappingEnd
  | key
  | value
  | blockEntry
  | flowEntry
  | alias
  | anchor
  | tag
  | scalar
  deriving Inhabited, Repr, DecidableEq

/-- The class of a kind of token. -/
def Token.Kind.tokenClass : Token.Kind → TokenClass
  | .streamStart => .streamStart
  | .streamEnd => .streamEnd
  | .directive .. => .directive
  | .documentStart => .documentStart
  | .documentEnd => .documentEnd
  | .blockSequenceStart => .blockSequenceStart
  | .blockMappingStart => .blockMappingStart
  | .blockEnd => .blockEnd
  | .flowSequenceStart => .flowSequenceStart
  | .flowMappingStart => .flowMappingStart
  | .flowSequenceEnd => .flowSequenceEnd
  | .flowMappingEnd => .flowMappingEnd
  | .key => .key
  | .value => .value
  | .blockEntry => .blockEntry
  | .flowEntry => .flowEntry
  | .alias _ => .alias
  | .anchor _ => .anchor
  | .tag .. => .tag
  | .scalar .. => .scalar

end Manuscript.Yaml
