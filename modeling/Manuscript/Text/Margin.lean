/-!
# Common margins

`splitLines` cuts a text into its lines. `removeMargin` takes away the indentation that all lines of a text share. Indentation is made
of spaces and tabs; lines of spaces and tabs alone are emptied first and do not count, and the
margin is the longest common prefix of the indentation of the remaining lines that hold
anything besides spaces and tabs.
-/

namespace Manuscript.Text

/-- The lines of a text: the parts between its line feeds. -/
def splitLines (s : String) : List String := (s.toList.splitOn '\n').map String.ofList

/-- Whether `c` is a space or a tab. -/
def isIndentChar (c : Char) : Bool := c == ' ' || c == '\t'

/-- The longest common prefix of two lists. -/
def commonPrefix : List Char → List Char → List Char
  | a :: as, b :: bs => if a == b then a :: commonPrefix as bs else []
  | _, _ => []

/-- The margin of a list of lines: the common prefix of the indentation of every line that holds
a character other than a space or a tab. -/
def margin (lines : List (List Char)) : Option (List Char) :=
  lines.foldl (fun acc l =>
    if l.all isIndentChar then acc
    else
      let indent := l.takeWhile isIndentChar
      match acc with
      | none => some indent
      | some m => some (commonPrefix m indent)) none

/-- Removes the common margin from every line. -/
def removeMargin (s : String) : String :=
  let lines := (s.toList.splitOn '\n').map fun cs =>
    if !cs.isEmpty && cs.all isIndentChar then [] else cs
  match margin lines with
  | some m@(_ :: _) =>
    let strip (l : List Char) : List Char := if m.isPrefixOf l then l.drop m.length else l
    "\n".intercalate (lines.map fun l => String.ofList (strip l))
  | _ => "\n".intercalate (lines.map String.ofList)

end Manuscript.Text
