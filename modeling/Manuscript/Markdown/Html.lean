import Manuscript.Text.Blank

/-!
# Raw HTML in Markdown

Recognisers for the pieces of raw HTML that Markdown lets through: open and close tags,
comments, processing instructions, declarations and character data sections. Each recogniser
looks at a character array from a start index and answers the index just after the piece, or
`none`. Letter cases are compared the way a case-insensitive pattern compares them, where the
long s, the dotless and dotted capital i and the Kelvin sign stand for `s`, `i` and `k`.

`htmlBlockStart` classifies the first line of an HTML block and `HtmlBlockKind.ends` says
whether a line ends it.
-/

namespace Manuscript.Markdown

open Manuscript.Text

/-- The character at index `i`, if there is one. -/
def charAt? (s : Array Char) (i : Nat) : Option Char := s[i]?

/-- Whether `c` is an ASCII letter. -/
def isAsciiLetter (c : Char) : Bool := ('a' ≤ c && c ≤ 'z') || ('A' ≤ c && c ≤ 'Z')

/-- Whether `c` is an ASCII digit. -/
def isAsciiDigit (c : Char) : Bool := '0' ≤ c && c ≤ '9'

/-- Whether `c` matches the lower-case ASCII letter `l` when case is ignored. -/
def foldsTo (c l : Char) : Bool :=
  c.toLower == l || (l == 's' && c == 'ſ') || (l == 'i' && (c == 'ı' || c == 'İ')) ||
    (l == 'k' && c == '\u212A')

/-- Whether the characters from index `i` spell `w` (lower case) when case is ignored. -/
def matchesFolded (s : Array Char) (i : Nat) (w : List Char) : Bool :=
  match w with
  | [] => true
  | l :: rest =>
    match charAt? s i with
    | some c => foldsTo c l && matchesFolded s (i + 1) rest
    | none => false

/-- Whether the characters from index `i` are exactly `w`. -/
def matchesAt (s : Array Char) (i : Nat) (w : List Char) : Bool :=
  match w with
  | [] => true
  | l :: rest =>
    match charAt? s i with
    | some c => c == l && matchesAt s (i + 1) rest
    | none => false

/-- The first index `j ≥ i` from which `s` reads `w`. -/
def findFrom (s : Array Char) (i : Nat) (w : List Char) : Option Nat :=
  if i < s.size then
    if matchesAt s i w then some i else findFrom s (i + 1) w
  else if w.isEmpty then some i else none
termination_by s.size - i

/-- Skips the characters satisfying `p` from index `i`. -/
def skipWhile (s : Array Char) (p : Char → Bool) (i : Nat) : Nat :=
  if h : i < s.size then
    if p s[i] then skipWhile s p (i + 1) else i
  else i
termination_by s.size - i

/-- Skips the characters satisfying `p` from index `i`, stopping at index `stop`. -/
def skipWhileBefore (s : Array Char) (stop : Nat) (p : Char → Bool) (i : Nat) : Nat :=
  if i < stop then
    if h : i < s.size then
      if p s[i] then skipWhileBefore s stop p (i + 1) else i
    else i
  else i
termination_by stop - i

theorem le_skipWhile (s : Array Char) (p : Char → Bool) (i : Nat) : i ≤ skipWhile s p i := by
  fun_induction skipWhile s p i <;> omega

/-- Whether `c` may continue a tag name. -/
def isTagNameChar (c : Char) : Bool := isAsciiLetter c || isAsciiDigit c || c == '-'

/-- Whether `c` may start an attribute name. -/
def isAttrNameStart (c : Char) : Bool := isAsciiLetter c || c == '_' || c == ':'

/-- Whether `c` may continue an attribute name. -/
def isAttrNameChar (c : Char) : Bool :=
  isAsciiLetter c || isAsciiDigit c || c == ':' || c == '.' || c == '_' || c == '-'

/-- Whether `c` may stand in an unquoted attribute value. -/
def isUnquotedChar (c : Char) : Bool :=
  c.toNat > 0x20 && !(c == '"' || c == '\'' || c == '=' || c == '<' || c == '>' || c == '`')

/-- An attribute value from index `i`: unquoted, single-quoted or double-quoted. -/
def attrValueEnd (s : Array Char) (i : Nat) : Option Nat :=
  match charAt? s i with
  | some '\'' => (findFrom s (i + 1) ['\'']).map (· + 1)
  | some '"' => (findFrom s (i + 1) ['"']).map (· + 1)
  | some c =>
    if isUnquotedChar c then some (skipWhile s isUnquotedChar (i + 1)) else none
  | none => none

/-- One attribute from index `i`: blanks, a name, and optionally `=` and a value. -/
def attributeEnd (s : Array Char) (i : Nat) : Option Nat :=
  let j := skipWhile s isBlank i
  if j == i then none
  else match charAt? s j with
    | some c =>
      if isAttrNameStart c then
        let k := skipWhile s isAttrNameChar (j + 1)
        let e := skipWhile s isBlank k
        if charAt? s e == some '=' then
          match attrValueEnd s (skipWhile s isBlank (e + 1)) with
          | some v => some v
          | none => some k
        else some k
      else none
    | none => none

/-- Skips as many attributes as follow index `i`. -/
def skipAttributes (s : Array Char) (i : Nat) : Nat :=
  match attributeEnd s i with
  | some j => if i < j ∧ j ≤ s.size then skipAttributes s j else if i < j then j else i
  | none => i
termination_by s.size + 1 - i

/-- An open tag from index `i`: `<`, a name, attributes, blanks, an optional `/` and `>`. -/
def openTagEnd (s : Array Char) (i : Nat) : Option Nat :=
  if charAt? s i == some '<' then
    match charAt? s (i + 1) with
    | some c =>
      if isAsciiLetter c then
        let n := skipWhile s isTagNameChar (i + 2)
        let a := skipAttributes s n
        let b := skipWhile s isBlank a
        let b := if charAt? s b == some '/' then b + 1 else b
        if charAt? s b == some '>' then some (b + 1) else none
      else none
    | none => none
  else none

/-- A close tag from index `i`: `</`, a name, blanks and `>`. -/
def closeTagEnd (s : Array Char) (i : Nat) : Option Nat :=
  if charAt? s i == some '<' && charAt? s (i + 1) == some '/' then
    match charAt? s (i + 2) with
    | some c =>
      if isAsciiLetter c then
        let n := skipWhile s isTagNameChar (i + 3)
        let b := skipWhile s isBlank n
        if charAt? s b == some '>' then some (b + 1) else none
      else none
    | none => none
  else none

/-- The body of a comment from index `i` runs through characters other than `-`, a `-`
followed by another character, and `--` followed by a character other than `>`. At each index
at most one of these applies, so the body follows one path; the comment ends at the last index of
that path from which `-->` follows. -/
def commentBodyEnd (s : Array Char) (i : Nat) (best : Option Nat) : Option Nat :=
  let best := if matchesAt s i ['-', '-', '>'] then some (i + 3) else best
  if h : i < s.size then
    if s[i] != '-' then commentBodyEnd s (i + 1) best
    else match charAt? s (i + 1) with
      | some c =>
        if c != '-' then commentBodyEnd s (i + 2) best
        else match charAt? s (i + 2) with
          | some d => if d != '>' then commentBodyEnd s (i + 3) best else best
          | none => best
      | none => best
  else best
termination_by s.size - i

/-- A comment from index `i`: `<!-->`, `<!--->`, or `<!--`, a body and `-->`. -/
def commentEnd (s : Array Char) (i : Nat) : Option Nat :=
  if matchesAt s i "<!-->".toList then some (i + 5)
  else if matchesAt s i "<!--->".toList then some (i + 6)
  else if matchesAt s i "<!--".toList then commentBodyEnd s (i + 4) none
  else none

/-- A processing instruction from index `i`: `<?` up to the first `?>` after it. -/
def processingEnd (s : Array Char) (i : Nat) : Option Nat :=
  if matchesAt s i ['<', '?'] then (findFrom s (i + 2) ['?', '>']).map (· + 2) else none

/-- A declaration from index `i`: `<!`, an ASCII letter, and everything up to the next `>`. -/
def declarationEnd (s : Array Char) (i : Nat) : Option Nat :=
  if matchesAt s i ['<', '!'] then
    match charAt? s (i + 2) with
    | some c => if isAsciiLetter c then (findFrom s (i + 3) ['>']).map (· + 1) else none
    | none => none
  else none

/-- A character data section from index `i`: `<![CDATA[` up to the first `]]>` after it. -/
def cdataEnd (s : Array Char) (i : Nat) : Option Nat :=
  if matchesAt s i "<![CDATA[".toList then
    (findFrom s (i + 9) [']', ']', '>']).map (· + 3)
  else none

/-- Any piece of inline HTML from index `i`, trying the kinds in a fixed order. -/
def htmlTagEnd (s : Array Char) (i : Nat) : Option Nat :=
  (openTagEnd s i).orElse fun _ => (closeTagEnd s i).orElse fun _ =>
    (commentEnd s i).orElse fun _ => (processingEnd s i).orElse fun _ =>
      (declarationEnd s i).orElse fun _ => cdataEnd s i

/-! ### HTML blocks -/

/-- The tag names that start an HTML block of the sixth kind. -/
def blockTagNames : List String :=
  ["address", "article", "aside", "base", "basefont", "blockquote", "body", "caption", "center",
   "col", "colgroup", "dd", "details", "dialog", "dir", "div", "dl", "dt", "fieldset",
   "figcaption", "figure", "footer", "form", "frame", "frameset", "h1", "h2", "h3", "h4", "h5",
   "h6", "head", "header", "hr", "html", "iframe", "legend", "li", "link", "main", "menu",
   "menuitem", "nav", "noframes", "ol", "optgroup", "option", "p", "param", "search", "section",
   "summary", "table", "tbody", "td", "tfoot", "th", "thead", "title", "tr", "track", "ul"]

/-- The seven kinds of HTML block, by how they start and end. -/
inductive HtmlBlockKind where
  | rawText | comment | processing | declaration | cdata | blockTag | anyTag
  deriving DecidableEq, Repr

/-- Whether one of the names `ws`, read case-insensitively from index `i`, is followed by the
end of the line or by a character satisfying `after`. -/
def startsWithName (s : Array Char) (i : Nat) (ws : List String)
    (after : Array Char → Nat → Bool) : Bool :=
  ws.any fun w => matchesFolded s i w.toList && after s (i + w.length)

/-- Classifies the first line `s` of a candidate HTML block. -/
def htmlBlockStart (s : Array Char) : Option HtmlBlockKind :=
  let blankOrGt (s : Array Char) (j : Nat) : Bool :=
    match charAt? s j with
    | some c => isBlank c || c == '>'
    | none => true
  let blankOrClose (s : Array Char) (j : Nat) : Bool :=
    match charAt? s j with
    | some c => isBlank c || c == '>' || (c == '/' && charAt? s (j + 1) == some '>')
    | none => true
  if charAt? s 0 != some '<' then none
  else if startsWithName s 1 ["script", "pre", "style", "textarea"] blankOrGt then
    some .rawText
  else if matchesAt s 0 "<!--".toList then some .comment
  else if matchesAt s 0 ['<', '?'] then some .processing
  else if matchesAt s 0 ['<', '!'] && (match charAt? s 2 with
      | some c => 'A' ≤ c && c ≤ 'Z'
      | none => false) then some .declaration
  else if matchesAt s 0 "<![CDATA[".toList then some .cdata
  else if startsWithName s (if charAt? s 1 == some '/' then 2 else 1) blockTagNames blankOrClose
    then some .blockTag
  else
    let e := (openTagEnd s 0).orElse fun _ => closeTagEnd s 0
    match e with
    | some j => if skipWhile s isBlank j == s.size then some .anyTag else none
    | none => none

/-- Whether a kind of HTML block may interrupt a paragraph. -/
def HtmlBlockKind.interrupts : HtmlBlockKind → Bool
  | .anyTag => false
  | _ => true

/-- Whether the line `s` contains the end of an HTML block of kind `k`. -/
def HtmlBlockKind.ends (k : HtmlBlockKind) (s : Array Char) : Bool :=
  match k with
  | .rawText =>
    (List.range s.size).any fun i =>
      matchesAt s i ['<', '/'] &&
        ["script", "pre", "style", "textarea"].any fun w =>
          matchesFolded s (i + 2) w.toList && charAt? s (i + 2 + w.length) == some '>'
  | .comment => (findFrom s 0 "-->".toList).isSome
  | .processing => (findFrom s 0 ['?', '>']).isSome
  | .declaration => (findFrom s 0 ['>']).isSome
  | .cdata => (findFrom s 0 [']', ']', '>']).isSome
  | .blockTag | .anyTag => s.size == 0

end Manuscript.Markdown
