/-!
# Markdown tokens

The reader first produces flat streams of tokens: block tokens for the document structure and,
inside each `inline` block token, inline tokens for the running text. Opening and closing tokens
carry a nesting of `1` and `-1`; all others carry `0`.
-/

namespace Manuscript.Markdown

/-- The kinds of inline tokens. -/
inductive InlineKind where
  | text | textSpecial | softbreak | hardbreak | codeInline
  | emOpen | emClose | strongOpen | strongClose | strikeOpen | strikeClose
  | linkOpen | linkClose | image | htmlInline
  deriving DecidableEq, Repr, Inhabited

/-- Whether an inline kind opens (`1`), closes (`-1`) or stands alone (`0`). -/
def InlineKind.nesting : InlineKind → Int
  | .emOpen | .strongOpen | .strikeOpen | .linkOpen => 1
  | .emClose | .strongClose | .strikeClose | .linkClose => -1
  | _ => 0

/-- An inline token. `href` is the target of a link or the source of an image. -/
structure InlineToken where
  kind : InlineKind
  content : String := ""
  href : String := ""
  title : String := ""
  deriving Inhabited, Repr, DecidableEq

/-- The kinds of block tokens. -/
inductive BlockKind where
  | paragraphOpen | paragraphClose | headingOpen | headingClose
  | blockquoteOpen | blockquoteClose
  | bulletListOpen | bulletListClose | orderedListOpen | orderedListClose
  | listItemOpen | listItemClose
  | codeBlock | fence | hr | htmlBlock | inline
  | tableOpen | tableClose | theadOpen | theadClose | tbodyOpen | tbodyClose
  | rowOpen | rowClose | headerCellOpen | headerCellClose | cellOpen | cellClose
  deriving DecidableEq, Repr, Inhabited

/-- Whether a block kind opens (`1`), closes (`-1`) or stands alone (`0`). -/
def BlockKind.nesting : BlockKind → Int
  | .paragraphOpen | .headingOpen | .blockquoteOpen | .bulletListOpen | .orderedListOpen
  | .listItemOpen | .tableOpen | .theadOpen | .tbodyOpen | .rowOpen | .headerCellOpen
  | .cellOpen => 1
  | .paragraphClose | .headingClose | .blockquoteClose | .bulletListClose | .orderedListClose
  | .listItemClose | .tableClose | .theadClose | .tbodyClose | .rowClose | .headerCellClose
  | .cellClose => -1
  | _ => 0

/-- A block token. `lines` is the half-open range of source lines it covers; `start` is the
number of an ordered list, `align` the alignment of a table cell, and `children` the inline
tokens of an `inline` token. -/
structure BlockToken where
  kind : BlockKind
  level : Nat := 0
  lines : Option (Nat × Nat) := none
  content : String := ""
  info : String := ""
  hidden : Bool := false
  depth : Nat := 0
  start : Option Nat := none
  align : Option String := none
  children : Array InlineToken := #[]
  deriving Inhabited, Repr

end Manuscript.Markdown
