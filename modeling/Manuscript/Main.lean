import Manuscript.Command.Tool

/-!
# The mdxbuild executable

Runs the tool on the files and environment of the machine: prints what the tool printed, reports
the class of a failure that nothing caught on standard error, and exits with the tool's status.
-/

namespace Manuscript.Machine

/-- The error number that a failure of the machine carries. -/
def errnoOf : IO.Error → Option UInt32
  | .alreadyExists _ n _ | .otherError n _ | .resourceBusy n _ | .resourceVanished n _
  | .unsupportedOperation n _ | .hardwareFault n _ | .unsatisfiedConstraints n _
  | .illegalOperation n _ | .protocolError n _ | .timeExpired n _ | .interrupted _ n _
  | .noFileOrDirectory _ n _ | .invalidArgument _ n _ | .permissionDenied _ n _
  | .resourceExhausted _ n _ | .inappropriateType _ n _ | .noSuchThing _ n _ => some n
  | _ => none

/-- The file system failure of a failure of the machine at a path. -/
def osErrorOf (p : String) (e : IO.Error) : OsError :=
  match errnoOf e with
  | some 21 => ⟨.isDirectory, p⟩
  | some 20 => ⟨.notDirectory, p⟩
  | some 17 => ⟨.alreadyExists, p⟩
  | _ => ⟨.notFound, p⟩

/-- The variables of an environment block: `NAME=value` entries separated by NUL bytes. -/
def environmentOf (block : ByteArray) : List (String × String) :=
  let entries := (String.fromUTF8? block).getD "" |>.splitOn "\x00"
  entries.filterMap fun entry =>
    match entry.splitOn "=" with
    | name :: value :: more =>
      if name.isEmpty then none else some (name, "=".intercalate (value :: more))
    | _ => none

instance : Host IO where
  workingDir := do return toString (← IO.currentDir)
  readFile p := do
    try return .ok (← IO.FS.readBinFile p)
    catch e => return .error (osErrorOf p e)
  writeFile p bs := do
    try
      IO.FS.writeBinFile p bs
      return .ok ()
    catch e => return .error (osErrorOf p e)
  makeDir p := do
    try
      IO.FS.createDir p
      return .ok ()
    catch e => return .error (osErrorOf p e)
  entryKind p := do
    try
      let _ ← IO.FS.readBinFile p
      return .file
    catch e => return if errnoOf e == some 21 then .directory else .missing
  getEnv k := IO.getEnv k
  environment := do
    try return environmentOf (← IO.FS.readBinFile "/proc/self/environ")
    catch _ => return []

end Manuscript.Machine

/-- Runs the tool with the words of the command line. -/
def main (args : List String) : IO UInt32 := do
  let t ← Manuscript.Command.runTool "mdxbuild" args
  IO.print t.stdout
  IO.eprint t.stderr
  if let some kind := t.crash then IO.eprintln kind
  return t.status.toUInt32
