import Manuscript.Text.Blank
import Manuscript.Text.WordChar
import Manuscript.Markdown.Html
import Manuscript.Document.Node

/-!
# Component syntax

The component layer reads markup that the Markdown reader leaves as raw HTML:

* an opening tag `<Name attr="v" flag items={data}>` or `<Name/>`: a name starts with an ASCII
  letter and goes on with word characters, `.`, `:` and `-`; what follows the name up to the
  first `>` is its attribute text, unless a `<` comes first;
* a closing tag `</Name>`;
* an expression `{…}` holding no brace;
* a module statement at the start of a paragraph: `import x`, `from x import …` or
  `export name =`.

`openTagAt` and `closeTagAt` match a tag at a position, `closingSpan` finds the tag that closes
an element by counting the nesting of tags of the same name, `attributesOf` reads attribute
text, and `splitExpressions` cuts text at its expressions.
-/

namespace Manuscript.Document

open Manuscript.Text Manuscript.Markdown

/-- Whether `c` may continue a component name. -/
def isNameChar (c : Char) : Bool :=
  isWordChar c || c == '.' || c == ':' || c == '-'

/-- The text of the characters from index `a` up to index `b`. -/
def sliceText (s : Array Char) (a b : Nat) : String :=
  String.ofList ((s.extract a b).toList)

/-- An opening tag: the element name, the attribute text, whether the tag closes itself, and
the index after the tag. -/
structure OpenTag where
  name : String
  attributeText : String
  selfClosing : Bool
  stop : Nat
  deriving Inhabited, Repr

/-- The first index from `i` holding `<` or `>`. -/
def nextAngle (s : Array Char) (i : Nat) : Nat :=
  skipWhile s (fun c => c != '<' && c != '>') i

/-- Steps back from index `e` over blanks, not below index `low`. -/
def skipBlankBack (s : Array Char) (low e : Nat) : Nat :=
  match e with
  | 0 => 0
  | e + 1 =>
    if e + 1 ≤ low then e + 1
    else if (s[e]?.map isBlank).getD false then skipBlankBack s low e else e + 1

/-- The opening tag that starts at index `i`. After the name there must be a blank, or the tag
must end at once with `>` or `/>`; after a blank, the tag ends at the next `>` if no `<` comes
before it, and it closes itself when `/` stands right before that `>`. The attribute text runs
from the blank after the name up to the blanks before the end. -/
def openTagAt (s : Array Char) (i : Nat) : Option OpenTag :=
  if s[i]? == some '<' && (s[i + 1]?.map isAsciiLetter).getD false then
    let p := skipWhile s isNameChar (i + 2)
    let name := sliceText s (i + 1) p
    match s[p]? with
    | some c =>
      if isBlank c then
        let g := nextAngle s p
        if s[g]? == some '>' then
          let selfClosing := s[g - 1]? == some '/'
          let e := if selfClosing then g - 1 else g
          let p1 := skipWhile s isBlank p
          let q := skipBlankBack s p1 e
          some ⟨name, sliceText s p q, selfClosing, g + 1⟩
        else none
      else if c == '>' then some ⟨name, "", false, p + 1⟩
      else if c == '/' && s[p + 1]? == some '>' then some ⟨name, "", true, p + 2⟩
      else none
    | none => none
  else none

/-- The closing tag that starts at index `i`: its name and the index after it. -/
def closeTagAt (s : Array Char) (i : Nat) : Option (String × Nat) :=
  if s[i]? == some '<' && s[i + 1]? == some '/' && (s[i + 2]?.map isAsciiLetter).getD false then
    let p := skipWhile s isNameChar (i + 3)
    let q := skipWhile s isBlank p
    if s[q]? == some '>' then some (sliceText s (i + 2) p, q + 1) else none
  else none

/-- A text that is exactly one opening tag. -/
def openTagWhole? (t : String) : Option OpenTag :=
  let s := t.toList.toArray
  match openTagAt s 0 with
  | some tag => if tag.stop == s.size then some tag else none
  | none => none

/-- The name of a text that is exactly one closing tag. -/
def closeTagWhole? (t : String) : Option String :=
  let s := t.toList.toArray
  match closeTagAt s 0 with
  | some (name, stop) => if stop == s.size then some name else none
  | none => none

/-- A tag of the given name at index `k`, opening or closing: whether it closes, whether it
closes itself, and the index after it. The name must be followed by a blank, `/` or `>`, and
the tag ends at the next `>` with no `<` before it. -/
def namedTagAt (s : Array Char) (name : List Char) (k : Nat) : Option (Bool × Bool × Nat) :=
  if s[k]? == some '<' then
    let closing := s[k + 1]? == some '/'
    let j := if closing then k + 2 else k + 1
    let after := j + name.length
    if matchesAt s j name &&
        (s[after]?.map fun c => isBlank c || c == '/' || c == '>').getD false then
      let g := nextAngle s after
      if s[g]? == some '>' then
        some (closing, g ≥ after + 1 && s[g - 1]? == some '/', g + 1)
      else none
    else none
  else none

/-- Scans for the tag that closes an element of the given name, which is open at the start
of `s`: tags of that name are read left to right, an opening one that does not close itself
adds a level and a closing one removes one. Answers the span of the closing tag that removes
the last level. -/
def closingSpan (s : Array Char) (name : String) : Option (Nat × Nat) :=
  let n := name.toList
  let rec scan : Nat → Nat → Nat → Option (Nat × Nat)
    | 0, _, _ => none
    | fuel + 1, k, depth =>
      if k < s.size then
        match namedTagAt s n k with
        | some (true, _, stop) =>
          if depth == 1 then some (k, stop) else scan fuel stop (depth - 1)
        | some (false, selfClosing, stop) =>
          scan fuel stop (if selfClosing then depth else depth + 1)
        | none => scan fuel (k + 1) depth
      else none
  scan (s.size + 1) 0 1

/-- Whether `c` may start an attribute name. -/
def isAttributeStart (c : Char) : Bool :=
  isAsciiLetter c || c == '_' || c == ':'

/-- The attribute value after `=` at index `i`: quoted with `"` or `'`, or an expression in
braces holding no brace. Answers the value, whether it is an expression, and the index after
it. -/
def attributeValueAt (s : Array Char) (i : Nat) : Option (String × Bool × Nat) :=
  match s[i]? with
  | some '"' =>
    let e := skipWhile s (· != '"') (i + 1)
    if e < s.size then some (sliceText s (i + 1) e, false, e + 1) else none
  | some '\'' =>
    let e := skipWhile s (· != '\'') (i + 1)
    if e < s.size then some (sliceText s (i + 1) e, false, e + 1) else none
  | some '{' =>
    let e := skipWhile s (fun c => c != '{' && c != '}') (i + 1)
    if s[e]? == some '}' then some (sliceText s (i + 1) e, true, e + 1) else none
  | _ => none

/-- Reads the attributes of attribute text from left to right: a name, then optionally `=`
between blanks and a value. A name without a readable value is a boolean attribute, and
characters that cannot start a name are skipped. -/
def attributesOf (t : String) : List Attribute :=
  let s := t.toList.toArray
  let rec go : Nat → Nat → List Attribute
    | 0, _ => []
    | fuel + 1, k =>
      match s[k]? with
      | none => []
      | some c =>
        if isAttributeStart c then
          let n := skipWhile s isNameChar (k + 1)
          let name := sliceText s k n
          let n1 := skipWhile s isBlank n
          let valued :=
            if s[n1]? == some '=' then attributeValueAt s (skipWhile s isBlank (n1 + 1))
            else none
          match valued with
          | some (v, expr, stop) => { name, value := some v, expression := expr } :: go fuel stop
          | none => { name } :: go fuel n
        else go fuel (k + 1)
  go (s.size + 1) 0

/-- A piece of text cut at expressions. -/
inductive Piece where
  | text (s : String)
  | expression (s : String)
  deriving Inhabited, Repr

/-- Cuts text at its expressions `{…}`, which hold no brace; the text between them is kept,
and empty text between is dropped. -/
def splitExpressions (t : String) : List Piece :=
  let s := t.toList.toArray
  let rec go : Nat → Nat → Nat → List Piece
    | 0, _, _ => []
    | fuel + 1, cursor, k =>
      if k < s.size then
        if s[k]? == some '{' then
          let e := skipWhile s (fun c => c != '{' && c != '}') (k + 1)
          if s[e]? == some '}' then
            let before := if k > cursor then [Piece.text (sliceText s cursor k)] else []
            before ++ Piece.expression (sliceText s (k + 1) e) :: go fuel (e + 1) (e + 1)
          else go fuel cursor (k + 1)
        else go fuel cursor (k + 1)
      else if cursor < s.size then [Piece.text (sliceText s cursor s.size)] else []
  go (s.size + 1) 0 0

/-- Whether `c` may appear in a module path. -/
def isPathChar (c : Char) : Bool := isWordChar c || c == '.'

/-- Whether a paragraph's source starts with a module statement: `import` and a module path,
`from` a module path `import`, or `export` a name `=`, with blanks between. -/
def isModuleStatement (raw : String) : Bool :=
  let s := raw.toList.toArray
  let word (i : Nat) (w : String) : Option Nat :=
    if matchesAt s i w.toList then some (i + w.length) else none
  let blanks (i : Nat) : Option Nat :=
    let j := skipWhile s isBlank i
    if j > i then some j else none
  let run (p : Char → Bool) (i : Nat) : Option Nat :=
    let j := skipWhile s p i
    if j > i then some j else none
  let importForm := (word 0 "import" >>= blanks >>= run isPathChar).isSome
  let fromForm := (do
    let i ← word 0 "from" >>= blanks >>= run isPathChar >>= blanks
    let j ← word i "import"
    if (s[j]?.map isBlank).getD false then some () else none).isSome
  let exportForm := (do
    let i ← word 0 "export" >>= blanks >>= run isWordChar
    let j := skipWhile s isBlank i
    if s[j]? == some '=' then some () else none).isSome
  importForm || fromForm || exportForm

end Manuscript.Document
