/-!
# POSIX paths

Paths are texts with `/` between their parts. `normalize` removes empty and `.` parts and lets
`..` cancel the part before it; a path may keep exactly two leading slashes, and three or more
count as one. `join` appends a part unless the part is absolute, and `absolute` joins a
relative path to the working directory before normalizing it, and `resolve` also keeps a single
leading slash. `dirname`, `basename` and
`extension` split a path at its last slash and its last dot.
-/

namespace Manuscript.Path

/-- Whether a path is absolute. -/
def isAbsolute (p : String) : Bool := p.startsWith "/"

/-- The number of leading slashes that a normalized path keeps. -/
def leadingSlashes (p : String) : Nat :=
  if p.startsWith "/" then
    if p.startsWith "//" && !p.startsWith "///" then 2 else 1
  else 0

/-- Adds a part to the parts of a normalized path read so far (the last one first), for a path
with `slashes` leading slashes: empty and `.` parts add nothing, and `..` drops the part before
it, unless there is none to drop in a relative path or that part is `..` too. -/
def addPart (slashes : Nat) (acc : List String) (part : String) : List String :=
  if part == "" || part == "." then acc
  else if part != ".." || (slashes == 0 && acc.isEmpty) || acc.head? == some ".." then
    part :: acc
  else acc.drop 1

/-- Normalizes a path. -/
def normalize (p : String) : String :=
  if p.isEmpty then "."
  else
    let slashes := leadingSlashes p
    let parts := ((p.toList.splitOn '/').map String.ofList).foldl (addPart slashes) []
    let body := "/".intercalate parts.reverse
    let path := String.ofList (List.replicate slashes '/') ++ body
    if path.isEmpty then "." else path

/-- Joins a part to a path: an absolute part replaces the path. -/
def join (a b : String) : String :=
  if isAbsolute b then b
  else if a.isEmpty || a.endsWith "/" then a ++ b
  else a ++ "/" ++ b

/-- The absolute, normalized form of a path against a working directory. -/
def absolute (cwd p : String) : String :=
  normalize (if isAbsolute p then p else join cwd p)

/-- The absolute, normalized form of a path against a working directory with a single leading
slash, the form a path takes once every link in it is followed. -/
def resolve (cwd p : String) : String :=
  let a := absolute cwd p
  if leadingSlashes a == 2 then String.ofList (a.toList.drop 1) else a

/-- The index after the last slash of a path, or zero. -/
def afterLastSlash (p : String) : Nat :=
  let cs := p.toList
  match (List.range cs.length).reverse.find? (fun i => cs[i]? == some '/') with
  | some i => i + 1
  | none => 0

/-- The directory part of a path: everything up to the last slash, without trailing slashes
unless it is made of slashes only. -/
def dirname (p : String) : String :=
  let head := String.ofList (p.toList.take (afterLastSlash p))
  if !head.isEmpty && head.toList.any (· != '/') then
    String.ofList (head.toList.reverse.dropWhile (· == '/')).reverse
  else head

/-- The last part of a path. -/
def basename (p : String) : String :=
  String.ofList (p.toList.drop (afterLastSlash p))

/-- The extension of a path: from the last dot of its last part, unless that part holds only
dots before it. -/
def extension (p : String) : String :=
  let cs := p.toList
  let sep := afterLastSlash p
  match (List.range cs.length).reverse.find? (fun i => cs[i]? == some '.') with
  | some dot =>
    if dot + 1 > sep && ((cs.drop sep).take (dot - sep)).any (· != '.') then
      String.ofList (cs.drop dot)
    else ""
  | none => ""

end Manuscript.Path
