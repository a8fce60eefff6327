import Manuscript.Markdown.Html
import Manuscript.Text.Entity
import Manuscript.Text.CaseFold
import Manuscript.Text.Percent

/-!
# Link destinations, titles and labels

The pieces of a link that both inline links and reference definitions read:

* `unescape` resolves backslash escapes of ASCII punctuation and character references;
* `scanDestination` reads a destination, either in angle brackets or as a run of characters
  with balanced parentheses;
* `scanTitle` reads a title in double quotes, single quotes or parentheses, and can be resumed
  on a following line;
* `normalizeLabel` brings a reference label to the form in which labels are compared.
-/

namespace Manuscript.Markdown

open Manuscript.Text

/-- Whether `c` is ASCII punctuation. -/
def isAsciiPunct (c : Char) : Bool :=
  let n := c.toNat
  (0x21 ≤ n && n ≤ 0x2F) || (0x3A ≤ n && n ≤ 0x40) || (0x5B ≤ n && n ≤ 0x60) ||
    (0x7B ≤ n && n ≤ 0x7E)

/-- Whether a numeric character reference may stand for the code point `c`. -/
def isValidEntityCode (c : Nat) : Bool :=
  !(0xD800 ≤ c && c ≤ 0xDFFF) && !(0xFDD0 ≤ c && c ≤ 0xFDEF) &&
    c % 0x10000 != 0xFFFF && c % 0x10000 != 0xFFFE &&
    !(c ≤ 8) && c != 0x0B && !(0x0E ≤ c && c ≤ 0x1F) && !(0x7F ≤ c && c ≤ 0x9F) &&
    c ≤ 0x10FFFF

/-- Whether `c` is a letter for a pattern that ignores case. -/
def isFoldedLetter (c : Char) : Bool :=
  isAsciiLetter c || c == '\u017F' || c == '\u0131' || c == '\u0130' || c == '\u212A'

/-- The value of a numeral in base `b` whose digits are all valid. -/
def numeralValue (b : Nat) (cs : List Char) : Nat :=
  cs.foldl (fun acc c => acc * b + hexValueOf c) 0

/-- The code point named by the body of a numeric reference (`#` and `x` and up to eight
hexadecimal digits, or `#` and up to eight decimal digits), if the body is one. -/
def numericReference? (name : List Char) : Option Nat :=
  match name with
  | '#' :: x :: ds =>
    if (x == 'x' || x == 'X') && 1 ≤ ds.length && ds.length ≤ 8 && ds.all isHexDigit then
      some (numeralValue 16 ds)
    else
      let ds := x :: ds
      if ds.length ≤ 8 && ds.all isAsciiDigit then some (numeralValue 10 ds) else none
  | _ => none

/-- The text that a character reference with body `name` stands for; `none` leaves it as
written. -/
def referenceText? (name : List Char) : Option String :=
  match entity? (String.ofList name) with
  | some t => some t
  | none =>
    match numericReference? name with
    | some c => if isValidEntityCode c then some (Char.ofNat c).toString else none
    | none => none

/-- Reads the body of a character reference after `&`: a letter or `#`, then one to 31 letters
or digits, then `;`. Answers the body and the rest after the `;`. -/
def referenceBody? (cs : List Char) : Option (List Char × List Char) :=
  match cs with
  | c :: rest =>
    if isFoldedLetter c || c == '#' then
      let body := rest.takeWhile fun d => isFoldedLetter d || isAsciiDigit d
      if 1 ≤ body.length && body.length ≤ 31 && (rest.drop body.length).head? == some ';' then
        some (c :: body, rest.drop (body.length + 1))
      else none
    else none
  | [] => none

theorem referenceBody?_length {cs body after : List Char}
    (h : referenceBody? cs = some (body, after)) : after.length < cs.length := by
  unfold referenceBody? at h
  split at h
  · rename_i c rest
    split at h
    · dsimp only at h
      split at h
      · simp only [Option.some.injEq, Prod.mk.injEq] at h
        obtain ⟨_, rfl⟩ := h
        simp only [List.length_drop, List.length_cons]
        omega
      · simp at h
    · simp at h
  · simp at h

/-- Resolves backslash escapes of ASCII punctuation and character references, left to right. -/
def unescapeList : List Char → List Char
  | [] => []
  | '\\' :: c :: rest =>
    if isAsciiPunct c then c :: unescapeList rest else '\\' :: unescapeList (c :: rest)
  | '&' :: rest =>
    match h : referenceBody? rest with
    | some (body, after) =>
      have : after.length < rest.length := referenceBody?_length h
      match referenceText? body with
      | some t => t.toList ++ unescapeList after
      | none => '&' :: body ++ ';' :: unescapeList after
    | none => '&' :: unescapeList rest
  | c :: rest => c :: unescapeList rest
termination_by cs => cs.length

/-- Resolves backslash escapes and character references in a string. -/
def unescape (s : String) : String :=
  if s.contains '\\' || s.contains '&' then String.ofList (unescapeList s.toList) else s

/-- Replaces each run of blanks by one space; `inRun` says whether a run has just begun. -/
def collapseBlanks : List Char → Bool → List Char
  | [], _ => []
  | c :: rest, inRun =>
    if isBlank c then
      if inRun then collapseBlanks rest true else ' ' :: collapseBlanks rest true
    else c :: collapseBlanks rest false

/-- A reference label in comparable form: trimmed, inner blanks collapsed to one space, then
lower-cased and upper-cased. -/
def normalizeLabel (s : String) : String :=
  foldCase (String.ofList (collapseBlanks (trimListBy isBlank s.toList) false))

/-! ### Destinations and titles -/

/-- Reads an angle-bracketed destination whose body starts at `pos`, before `max`: up to `>`,
refusing a line break or another `<`, and stepping over backslash escapes. -/
def angleDestinationEnd (s : Array Char) (max pos : Nat) : Option Nat :=
  if pos < max then
    match charAt? s pos with
    | some '\n' | some '<' => none
    | some '>' => some pos
    | some '\\' => if pos + 1 < max then angleDestinationEnd s max (pos + 2) else
        angleDestinationEnd s max (pos + 1)
    | _ => angleDestinationEnd s max (pos + 1)
  else none
termination_by max - pos

/-- Reads a plain destination from `pos` before `max`: up to a space, a control character or an
unbalanced `)`, stepping over backslash escapes; more than 32 open parentheses refuse it. Answers
the end and the depth of open parentheses there. -/
def plainDestinationEnd (s : Array Char) (max pos level : Nat) : Option (Nat × Nat) :=
  if pos < max then
    match charAt? s pos with
    | none => some (pos, level)
    | some c =>
      if c == ' ' || c.toNat < 0x20 || c.toNat == 0x7F then some (pos, level)
      else if c == '\\' && pos + 1 < max then
        if charAt? s (pos + 1) == some ' ' then some (pos, level)
        else plainDestinationEnd s max (pos + 2) level
      else if c == '(' then
        if level + 1 > 32 then none else plainDestinationEnd s max (pos + 1) (level + 1)
      else if c == ')' then
        if level == 0 then some (pos, level) else plainDestinationEnd s max (pos + 1) (level - 1)
      else plainDestinationEnd s max (pos + 1) level
  else some (pos, level)
termination_by max - pos

/-- The characters of `s` from index `a` up to index `b`. -/
def slice (s : Array Char) (a b : Nat) : String :=
  String.ofList (s.extract a b).toList

/-- Reads a link destination at `start`, before `max`. Answers the unescaped destination and
the index after it. -/
def scanDestination (s : Array Char) (start max : Nat) : Option (String × Nat) :=
  if charAt? s start == some '<' then
    (angleDestinationEnd s max (start + 1)).map fun e => (unescape (slice s (start + 1) e), e + 1)
  else
    match plainDestinationEnd s max start 0 with
    | some (e, level) =>
      if e == start || level != 0 then none else some (unescape (slice s start e), e)
    | none => none

/-- The outcome of reading a link title. `closed` says the closing marker was found, at
`pos - 1`; `resumable` says the title ran to the end and may continue on the next line. `text` is the
unescaped title so far and `marker` the closing character expected. -/
structure TitleScan where
  closed : Bool := false
  resumable : Bool := false
  pos : Nat := 0
  text : String := ""
  marker : Char := ' '
  deriving Inhabited, Repr

/-- Reads the body of a title from `pos` before `max`, where the body began at `start`. -/
def titleBody (s : Array Char) (max start pos : Nat) (acc : TitleScan) : TitleScan :=
  if pos < max then
    match charAt? s pos with
    | some c =>
      if c == acc.marker then
        { acc with pos := pos + 1, text := acc.text ++ unescape (slice s start pos), closed := true }
      else if c == '(' && acc.marker == ')' then acc
      else if c == '\\' && pos + 1 < max then titleBody s max start (pos + 2) acc
      else titleBody s max start (pos + 1) acc
    | none => titleBody s max start (pos + 1) acc
  else { acc with resumable := true, text := acc.text ++ unescape (slice s start pos) }
termination_by max - pos

/-- Reads a link title at `start`, before `max`; `prev` resumes a title left open on an
earlier line. -/
def scanTitle (s : Array Char) (start max : Nat) (prev : Option TitleScan) : TitleScan :=
  match prev with
  | some p => titleBody s max start start { text := p.text, marker := p.marker }
  | none =>
    if start ≥ max then {}
    else match charAt? s start with
      | some '"' => titleBody s max (start + 1) (start + 1) { marker := '"' }
      | some '\'' => titleBody s max (start + 1) (start + 1) { marker := '\'' }
      | some '(' => titleBody s max (start + 1) (start + 1) { marker := ')' }
      | _ => {}

end Manuscript.Markdown
