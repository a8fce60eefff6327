import Manuscript.Text.Quoted

/-!
# Marks and load failures

A `Mark` is a place in YAML text: the index of a character, and its line and column counted
from zero. A failure of loading is a `LoadError`. Most of them are `Problem`s at marks, shown
the way YAML loaders show them: a context with its mark, the problem with its mark, each mark as

```
  in "<unicode string>", line 1, column 8:
    title: [unclosed
           ^
```

The snippet is the line around the mark, cut to about 75 characters with ` ... ` at a cut end,
and a caret under the marked character. The context's mark is left out when it stands where the
problem's mark stands.
-/

namespace Manuscript.Yaml

open Manuscript.Text

/-- A place in the text: index, line and column, from zero. -/
structure Mark where
  index : Nat
  line : Nat
  column : Nat
  deriving Inhabited, Repr, DecidableEq

/-- Whether `c` ends a line for a snippet: a line break or the NUL that ends the text. -/
def isSnippetEnd (c : Char) : Bool :=
  c == '\x00' || c == '\r' || c == '\n' || c == '\x85' || c == '\u2028' || c == '\u2029'

/-- How far a snippet reaches on either side of its mark before it is cut. -/
def snippetReach : Nat := 37

namespace Mark

/-- Where the snippet of a mark at `p` starts, and whether it was cut. -/
def snippetStart (b : Array Char) (p : Nat) : Nat × Bool :=
  let rec go : Nat → Nat × Bool
    | 0 => (0, false)
    | s + 1 =>
      if isSnippetEnd (b.getD s '\x00') then (s + 1, false)
      else if p - s ≥ snippetReach then (s + 5, true)
      else go s
  go p

/-- Where the snippet of a mark at `p` stops, and whether it was cut. -/
def snippetStop (b : Array Char) (p : Nat) : Nat × Bool :=
  let rec go (e : Nat) : Nat × Bool :=
    if h : e < b.size then
      if isSnippetEnd b[e] then (e, false)
      else if e + 1 - p ≥ snippetReach then (e + 1 - 5, true)
      else go (e + 1)
    else (e, false)
  termination_by b.size - e
  go p

/-- The snippet of a mark: the text around it, indented by four, and a caret line. -/
def snippet (b : Array Char) (m : Mark) : String :=
  let p := m.index
  let (start, cutStart) := snippetStart b p
  let (stop, cutStop) := snippetStop b p
  let head := if cutStart then " ... " else ""
  let tail := if cutStop then " ... " else ""
  let text := String.ofList (b.extract start stop).toList
  "    " ++ head ++ text ++ tail ++ "\n" ++
    String.ofList (List.replicate (4 + (p - start) + head.length) ' ') ++ "^"

/-- The lines that show a mark. -/
def render (b : Array Char) (m : Mark) : String :=
  "  in \"<unicode string>\", line " ++ toString (m.line + 1) ++ ", column " ++
    toString (m.column + 1) ++ ":\n" ++ snippet b m

end Mark

/-- A problem at a mark, and the context it arose in. -/
structure Problem where
  context : Option String
  contextMark : Option Mark
  problem : String
  problemMark : Mark
  deriving Inhabited, Repr

namespace Problem

/-- A problem without context. -/
def plain (problem : String) (m : Mark) : Problem := ⟨none, none, problem, m⟩

/-- A problem in a context. -/
def within (context : String) (contextMark : Mark) (problem : String) (m : Mark) : Problem :=
  ⟨some context, some contextMark, problem, m⟩

/-- The report of a problem in the text `b`. -/
def render (b : Array Char) (p : Problem) : String :=
  let contextLines := match p.contextMark with
    | some cm =>
      if cm.line == p.problemMark.line && cm.column == p.problemMark.column then []
      else [cm.render b]
    | none => []
  "\n".intercalate (p.context.toList ++ contextLines ++ [p.problem, p.problemMark.render b])

end Problem

/-- A failure to load YAML text. -/
inductive LoadError where
  /-- A character that YAML text may not hold, with its code point and index. -/
  | unacceptable (code : Nat) (position : Nat)
  /-- A problem of syntax or of building values, at marks of the text. -/
  | marked (p : Problem)
  /-- A scalar that its tag cannot read. -/
  | badValue (message : String)
  /-- A word that a table of words does not hold. -/
  | missingKey (message : String)
  /-- A scalar that does not have the form its tag reads. -/
  | missingAttribute (message : String)
  /-- A scalar too short for its tag. -/
  | outOfRange (message : String)
  /-- A collection that holds itself. -/
  | recursive
  deriving Inhabited, Repr

namespace LoadError

/-- Whether the failure is one of YAML syntax or YAML values, as opposed to one raised while a
scalar's text is read as a number or a date. -/
def isYaml : LoadError → Bool
  | .unacceptable .. | .marked _ => true
  | _ => false

/-- The report of a failure to load `text`. -/
def message (text : String) : LoadError → String
  | .unacceptable code position =>
    "unacceptable character #x" ++ hexPadded 4 code ++
      ": special characters are not allowed\n  in \"<unicode string>\", position " ++
      toString position
  | .marked p => p.render (text.toList ++ ['\x00']).toArray
  | .badValue m | .missingKey m | .missingAttribute m | .outOfRange m => m
  | .recursive => "maximum recursion depth exceeded"

end LoadError

/-- The kind of a character: `'c'` as it is quoted in problems. -/
def charText (c : Char) : String := quote c.toString

end Manuscript.Yaml
